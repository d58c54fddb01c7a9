import PulseTimeline.Proofs.Computation
import PulseTimeline.Run.Builtin

set_option autoImplicit false

/-! # Streams of random integers

A pool keeps one generator for every seed, and a draw moves on the generator of its own seed only.
So whatever is drawn in between, a seed's next integer is the one that its generator, left alone,
has after the draws from that seed. A draw without a positive bound moves no generator on. -/

namespace PulseTimeline.Random

/-! ## Generators -/

/-- The high half of a product of a number below the bound with a word is below the bound. -/
theorem product_shiftRight_lt (word : UInt64) {bound : Nat} (h : 0 < bound) :
    (word.toNat * bound) >>> 64 < bound := by
  rw [Nat.shiftRight_eq_div_pow]
  refine Nat.div_lt_of_lt_mul ?_
  exact Nat.mul_lt_mul_of_pos_right word.toNat_lt h

theorem drawBelow_lt (key : Vector UInt32 8) {bound : Nat} (h : 0 < bound)
    (attempts position : Nat) : (drawBelow key bound attempts position).1 < bound := by
  induction attempts generalizing position with
  | zero => exact product_shiftRight_lt (word64 key position) h
  | succ attempts ih =>
      rw [drawBelow]
      split
      · exact product_shiftRight_lt (word64 key position) h
      · exact ih (position + 1)

theorem Generator.draw_lt (generator : Generator) {bound : Nat} (h : 0 < bound) :
    (generator.draw bound).1 < bound :=
  drawBelow_lt generator.key h 1000 generator.position

/-- A generator after draws below the given bounds. -/
def Generator.advanced (generator : Generator) (bounds : List Nat) : Generator :=
  bounds.foldl (fun generator bound => (generator.draw bound).2) generator

/-! ## Pools -/

namespace Pool

variable {seed other : Int64}

@[simp] theorem generator_put_self (pool : Pool) (seed : Int64) (generator : Generator) :
    (pool.put seed generator).generator seed = generator := by
  simp [Pool.generator, put]

theorem lookup_filter_ne (entries : List (Int64 × Generator)) (h : other ≠ seed) :
    (entries.filter fun entry => entry.1 != seed).lookup other = entries.lookup other := by
  induction entries with
  | nil => rfl
  | cons entry rest ih =>
      obtain ⟨key, generator⟩ := entry
      by_cases hkey : key = seed
      · subst hkey
        simp [List.lookup_cons, beq_eq_false_iff_ne.mpr h, ih]
      · simp [List.lookup_cons, hkey, ih]

theorem generator_put_of_ne (pool : Pool) (generator : Generator) (h : other ≠ seed) :
    (pool.put seed generator).generator other = pool.generator other := by
  simp [Pool.generator, put, List.lookup_cons, beq_eq_false_iff_ne.mpr h, lookup_filter_ne _ h]

end Pool

/-! ## Draws -/

/-- A call for a random integer from the stream of a seed. -/
structure Draw where
  seed : Int64
  max : Int64
  deriving DecidableEq

namespace Draw

/-- The number of integers that a draw chooses from. -/
def bound (draw : Draw) : Nat := draw.max.toInt.toNat

/-- Whether a draw takes an integer from the stream of a seed. -/
def TakesFrom (seed : Int64) (draw : Draw) : Prop := draw.seed = seed ∧ ¬draw.max < 1

instance (seed : Int64) (draw : Draw) : Decidable (draw.TakesFrom seed) :=
  inferInstanceAs (Decidable (_ ∧ _))

/-- The draws that take integers from the stream of a seed. -/
def takingFrom (seed : Int64) (draws : List Draw) : List Draw :=
  draws.filter fun draw => draw.TakesFrom seed

theorem bound_pos {draw : Draw} (h : ¬draw.max < 1) : 0 < draw.bound := by
  rw [Int64.lt_iff_toInt_lt] at h
  have hone : (1 : Int64).toInt = 1 := rfl
  rw [bound]
  omega

/-- The pool that a draw leaves behind. -/
def next (draw : Draw) (pool : Pool) : Pool := stateAfter (randInt draw.seed draw.max) pool

/-- The pool that draws leave behind. -/
def after (draws : List Draw) (pool : Pool) : Pool :=
  draws.foldl (fun pool draw => draw.next pool) pool

/-- What a draw answers. -/
def answer (draw : Draw) (pool : Pool) : Except RunError Int64 :=
  match (randInt draw.seed draw.max).run pool with
  | .ok n _ => .ok n
  | .error e _ => .error e

/-- What draws answer one after the other. -/
def answers : List Draw → Pool → List (Except RunError Int64)
  | [], _ => []
  | draw :: rest, pool => draw.answer pool :: answers rest (draw.next pool)

variable {draw : Draw}

/-! ## What a draw does -/

/-- A draw is refused and changes nothing, or it takes what the generator of its seed has next. -/
theorem run_randInt (draw : Draw) (pool : Pool) :
    (randInt draw.seed draw.max).run pool
      = if draw.max < 1 then .error (.randomBoundTooSmall draw.max) pool
        else .ok (Int64.ofNat ((pool.generator draw.seed).draw draw.bound).1)
          (pool.put draw.seed ((pool.generator draw.seed).draw draw.bound).2) := by
  simp only [EStateM.run, randInt]
  split <;> rfl

theorem next_of_refused (h : draw.max < 1) (pool : Pool) : draw.next pool = pool := by
  rw [next, stateAfter, run_randInt, if_pos h]

theorem next_of_taken (h : ¬draw.max < 1) (pool : Pool) :
    draw.next pool = pool.put draw.seed ((pool.generator draw.seed).draw draw.bound).2 := by
  rw [next, stateAfter, run_randInt, if_neg h]

theorem answer_of_refused (h : draw.max < 1) (pool : Pool) :
    draw.answer pool = .error (.randomBoundTooSmall draw.max) := by
  rw [answer, run_randInt, if_pos h]

theorem answer_of_taken (h : ¬draw.max < 1) (pool : Pool) :
    draw.answer pool = .ok (Int64.ofNat ((pool.generator draw.seed).draw draw.bound).1) := by
  rw [answer, run_randInt, if_neg h]

/-- A draw moves on the generator of its own seed, and only if it is not refused. -/
theorem generator_next (draw : Draw) (pool : Pool) (seed : Int64) :
    (draw.next pool).generator seed = if draw.TakesFrom seed
      then ((pool.generator seed).draw draw.bound).2 else pool.generator seed := by
  by_cases hmax : draw.max < 1
  · rw [next_of_refused hmax, if_neg fun h => h.2 hmax]
  · rw [next_of_taken hmax]
    by_cases hseed : draw.seed = seed
    · subst hseed
      rw [Pool.generator_put_self, if_pos ⟨rfl, hmax⟩]
    · rw [Pool.generator_put_of_ne pool _ (Ne.symm hseed), if_neg fun h => hseed h.1]

/-! ## What draws do one after the other -/

/-- A generator has come as far as the draws from its seed have taken it. -/
theorem generator_after (draws : List Draw) (pool : Pool) (seed : Int64) :
    (after draws pool).generator seed
      = (pool.generator seed).advanced ((takingFrom seed draws).map bound) := by
  induction draws generalizing pool with
  | nil => rfl
  | cons draw rest ih =>
      have hrest := ih (draw.next pool)
      rw [generator_next] at hrest
      by_cases htakes : draw.TakesFrom seed
      · rw [if_pos htakes] at hrest
        rw [takingFrom, List.filter_cons_of_pos (by simpa using htakes)]
        exact hrest
      · rw [if_neg htakes] at hrest
        rw [takingFrom, List.filter_cons_of_neg (by simpa using htakes)]
        exact hrest

theorem takingFrom_takingFrom (seed : Int64) (draws : List Draw) :
    takingFrom seed (takingFrom seed draws) = takingFrom seed draws := by
  simp [takingFrom]

@[simp] theorem length_answers (draws : List Draw) (pool : Pool) :
    (answers draws pool).length = draws.length := by
  induction draws generalizing pool with
  | nil => rfl
  | cons draw rest ih => simp [answers, ih]

theorem answers_append (draws others : List Draw) (pool : Pool) :
    answers (draws ++ others) pool = answers draws pool ++ answers others (after draws pool) := by
  induction draws generalizing pool with
  | nil => rfl
  | cons draw rest ih => simp [answers, after, ih]

/-- A draw answers from the pool that the draws before it have left. -/
theorem getElem?_answers (earlier later : List Draw) (draw : Draw) (pool : Pool) :
    (answers (earlier ++ draw :: later) pool)[earlier.length]?
      = some (draw.answer (after earlier pool)) := by
  rw [answers_append, List.getElem?_append_right (by simp)]
  simp [answers]

/-- The integer that a draw takes does not show which draws from other seeds came before it. -/
theorem answer_after (draw : Draw) (h : ¬draw.max < 1) (earlier : List Draw) (pool : Pool) :
    draw.answer (after earlier pool)
      = .ok (Int64.ofNat (((pool.generator draw.seed).advanced
        ((takingFrom draw.seed earlier).map bound)).draw draw.bound).1) := by
  rw [answer_of_taken h, generator_after]

/-- The integer lies below the bound, so that sixty-four bits hold it. -/
theorem taken_mem_range (h : ¬draw.max < 1) (generator : Generator) :
    0 ≤ Int64.ofNat (generator.draw draw.bound).1
      ∧ Int64.ofNat (generator.draw draw.bound).1 < draw.max := by
  have hlt := generator.draw_lt (bound_pos h)
  have hmax := draw.max.toInt_lt
  rw [bound] at hlt ⊢
  have hint : (Int64.ofNat (generator.draw draw.max.toInt.toNat).1).toInt
      = (generator.draw draw.max.toInt.toNat).1 := Int64.toInt_ofNat_of_lt (by omega)
  rw [Int64.le_iff_toInt_le, Int64.lt_iff_toInt_lt, hint]
  have hzero : (0 : Int64).toInt = 0 := rfl
  omega

/-- **Streams are independent.** A draw without a positive bound is refused, and all other draws
    answer as if it had not been made. Any other draw answers an integer from zero to below its
    bound: the one that it would answer if only the draws that took integers from its own seed had
    been made before, which is what the generator of the seed has next after these. -/
theorem streams_are_independent (pool : Pool) (earlier later : List Draw) (draw : Draw) :
    (draw.max < 1 →
      (answers (earlier ++ draw :: later) pool)[earlier.length]?
        = some (.error (.randomBoundTooSmall draw.max))
      ∧ (answers (earlier ++ draw :: later) pool).eraseIdx earlier.length
        = answers (earlier ++ later) pool)
    ∧ (¬draw.max < 1 → ∃ n,
      (answers (earlier ++ draw :: later) pool)[earlier.length]? = some (.ok n)
      ∧ 0 ≤ n ∧ n < draw.max
      ∧ (answers (takingFrom draw.seed earlier ++ [draw]) pool).getLast? = some (.ok n)
      ∧ n = Int64.ofNat (((pool.generator draw.seed).advanced
        ((takingFrom draw.seed earlier).map bound)).draw draw.bound).1) := by
  refine ⟨fun hrefused => ⟨?_, ?_⟩, fun htaken => ?_⟩
  · rw [getElem?_answers, answer_of_refused hrefused]
  · rw [answers_append, answers_append, List.eraseIdx_append_of_length_le (by simp), answers,
      next_of_refused hrefused]
    simp
  · have hanswer := answer_after draw htaken earlier pool
    have halone := answer_after draw htaken (takingFrom draw.seed earlier) pool
    rw [takingFrom_takingFrom] at halone
    obtain ⟨hlow, hhigh⟩ := taken_mem_range htaken ((pool.generator draw.seed).advanced
      ((takingFrom draw.seed earlier).map bound))
    refine ⟨_, ?_, hlow, hhigh, ?_, rfl⟩
    · rw [getElem?_answers, hanswer]
    · rw [answers_append, answers, halone, answers, List.getLast?_concat]

/-- Two draws from one seed, with a draw from another one and a refused draw in between. -/
def interleavedDraws : List Draw := [⟨42, 1000⟩, ⟨7, 10⟩, ⟨42, 0⟩, ⟨42, 1000⟩]

/-- Without the refused draw the others answer the same, and the last one answers what it does right
    after the first one. -/
theorem independence_of_interleaved_draws :
    answers interleavedDraws .empty
        = [.ok 526, .ok 0, .error (.randomBoundTooSmall 0), .ok 542]
      ∧ answers [⟨42, 1000⟩, ⟨7, 10⟩, ⟨42, 1000⟩] .empty = [.ok 526, .ok 0, .ok 542]
      ∧ (answers [⟨42, 1000⟩, ⟨42, 1000⟩] .empty).getLast? = some (.ok 542) := by
  have hall : answers interleavedDraws .empty
      = [.ok 526, .ok 0, .error (.randomBoundTooSmall 0), .ok 542] := by decide +kernel
  have hothers : takingFrom 42 [⟨42, 1000⟩, ⟨7, 10⟩, ⟨42, 0⟩] = [⟨42, 1000⟩] := by decide
  obtain ⟨-, hleft⟩ := (streams_are_independent .empty [⟨42, 1000⟩, ⟨7, 10⟩] [⟨42, 1000⟩]
    ⟨42, 0⟩).1 (by decide)
  obtain ⟨n, hn, -, -, halone, -⟩ := (streams_are_independent .empty
    [⟨42, 1000⟩, ⟨7, 10⟩, ⟨42, 0⟩] [] ⟨42, 1000⟩).2 (by decide)
  rw [interleavedDraws] at hall
  simp only [List.cons_append, List.nil_append, List.length_cons, List.length_nil, hall,
    hothers] at hleft hn halone
  cases hn
  exact ⟨hall, hleft.symm, halone⟩

end Draw

end PulseTimeline.Random
