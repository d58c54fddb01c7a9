import PulseTimeline.Proofs.Syntax

set_option autoImplicit false

/-! # Leaving statements out

A thinning leaves some statements out of every block at every depth and may replace others. It is
free to choose among the basic statements; one with blocks stays, and its blocks are thinned.
Leaving out all that is saved is one thinning. -/

namespace PulseTimeline

namespace Statement

/-- Blocks under expressions of their own, with what a function leaves of each block. -/
def thinnedBranches (f : Statement → Option Statement)
    (branches : List (Expression × List Statement)) : List (Expression × List Statement) :=
  branches.map fun branch => (branch.1, branch.2.filterMap f)

/-- A function that says what is left of a statement, and leaves of one with blocks what it leaves
    of the statements in the blocks. -/
structure IsThinning (f : Statement → Option Statement) : Prop where
  branch : ∀ condition body elseIfs elseBody,
    f (.branch condition body elseIfs elseBody) = some (.branch condition (body.filterMap f)
      (thinnedBranches f elseIfs) (elseBody.map (List.filterMap f)))
  loop : ∀ init condition update body,
    f (.loop init condition update body)
      = some (.loop (init.filterMap f) condition (update.filterMap f) (body.filterMap f))
  switch : ∀ subject cases default,
    f (.switch subject cases default)
      = some (.switch subject (thinnedBranches f cases) (default.map (List.filterMap f)))
  strictTiming : ∀ body, f (.strictTiming body) = some (.strictTiming (body.filterMap f))

variable {f : Statement → Option Statement}

theorem flatMap_thinnedBranches (f : Statement → Option Statement)
    (branches : List (Expression × List Statement)) :
    (thinnedBranches f branches).flatMap Prod.snd = (branches.flatMap Prod.snd).filterMap f := by
  induction branches with
  | nil => rfl
  | cons branch rest ih =>
      rw [List.flatMap_cons, List.filterMap_append, ← ih]
      rfl

theorem getD_map_filterMap (f : Statement → Option Statement) (body : Option (List Statement)) :
    (body.map (List.filterMap f)).getD [] = (body.getD []).filterMap f := by
  cases body <;> rfl

/-- A function on blocks that goes by what another one leaves of each statement. -/
theorem eq_filterMap {block : List Statement → List Statement} (hnil : block [] = [])
    (hcons : ∀ first rest, block (first :: rest) = match f first with
      | some kept => kept :: block rest
      | none => block rest) (statements : List Statement) :
    block statements = statements.filterMap f := by
  induction statements with
  | nil => rw [hnil, List.filterMap_nil]
  | cons first rest ih =>
      rw [hcons, List.filterMap_cons, ih]
      cases f first <;> rfl

/-- A function on guarded blocks that does so in each block. -/
theorem eq_thinnedBranches
    {guarded : List (Expression × List Statement) → List (Expression × List Statement)}
    (hnil : guarded [] = []) (hcons : ∀ condition body rest,
      guarded ((condition, body) :: rest) = (condition, body.filterMap f) :: guarded rest)
    (branches : List (Expression × List Statement)) :
    guarded branches = thinnedBranches f branches := by
  induction branches with
  | nil => exact hnil
  | cons branch rest ih =>
      rw [hcons, ih]
      rfl

/-- A statement with blocks stays, with what is left of the statements inside it. -/
theorem IsThinning.exists_of_not_basic (hf : IsThinning f) {statement : Statement}
    (h : ¬ statement.IsBasic) : ∃ kept, f statement = some kept ∧ ¬ kept.IsBasic
      ∧ kept.inner = statement.inner.filterMap f := by
  cases statement with
  | branch condition body elseIfs elseBody =>
      refine ⟨_, hf.branch condition body elseIfs elseBody, id, ?_⟩
      simp [inner, flatMap_thinnedBranches, getD_map_filterMap]
  | loop init condition update body =>
      exact ⟨_, hf.loop init condition update body, id, by simp [inner]⟩
  | switch subject cases default =>
      refine ⟨_, hf.switch subject cases default, id, ?_⟩
      simp [inner, flatMap_thinnedBranches, getD_map_filterMap]
  | strictTiming body => exact ⟨_, hf.strictTiming body, id, rfl⟩
  | _ => exact absurd trivial h

/-- What all statements with blocks have, and what is left of basic ones, holds everywhere in what
    a thinning leaves. -/
theorem IsThinning.everywhere (hf : IsThinning f) {P : Statement → Prop}
    (hblocks : ∀ statement, ¬ statement.IsBasic → P statement)
    (hbasic : ∀ statement kept, statement.IsBasic → f statement = some kept →
      kept.IsBasic ∧ P kept) (statement : Statement) :
    ∀ kept, f statement = some kept → kept.Everywhere P := by
  induction statement using inner_induction with
  | h statement ih =>
      intro kept hkept
      by_cases h : statement.IsBasic
      · obtain ⟨hleft, hP⟩ := hbasic statement kept h hkept
        exact everywhere_of_isBasic hleft hP
      · obtain ⟨left, hleft, hnot, hinner⟩ := hf.exists_of_not_basic h
        obtain rfl : left = kept := Option.some.inj (hleft.symm.trans hkept)
        refine ⟨hblocks left hnot, ?_⟩
        rw [hinner]
        intro inner hmem
        obtain ⟨original, horiginal, hfrom⟩ := List.mem_filterMap.1 hmem
        exact ih original horiginal inner hfrom

/-! ## Without what is saved -/

mutual

/-- What is left of a statement without the saves: nothing of a save itself. -/
def withoutSaves? : Statement → Option Statement
  | save _ _ => none
  | branch condition body elseIfs elseBody =>
    some (branch condition (blockWithoutSaves body) (guardedWithoutSaves elseIfs)
      (optionalWithoutSaves elseBody))
  | loop init condition update body =>
    some (loop (blockWithoutSaves init) condition (blockWithoutSaves update)
      (blockWithoutSaves body))
  | switch subject cases default =>
    some (switch subject (guardedWithoutSaves cases) (optionalWithoutSaves default))
  | strictTiming body => some (strictTiming (blockWithoutSaves body))
  | play pulse element amplitude duration => some (play pulse element amplitude duration)
  | measure element operation => some (measure element operation)
  | align elements => some (align elements)
  | assign target value => some (assign target value)
  | resetPhase elements => some (resetPhase elements)
  | rampToZero element duration => some (rampToZero element duration)
  | wait duration elements => some (wait duration elements)
  | frameRotation angle elements => some (frameRotation angle elements)

/-- A block without the saves in it, at every depth. -/
def blockWithoutSaves : List Statement → List Statement
  | [] => []
  | first :: rest =>
    match first.withoutSaves? with
    | some kept => kept :: blockWithoutSaves rest
    | none => blockWithoutSaves rest

/-- Blocks under expressions of their own without the saves. -/
def guardedWithoutSaves : List (Expression × List Statement) → List (Expression × List Statement)
  | [] => []
  | (condition, body) :: rest => (condition, blockWithoutSaves body) :: guardedWithoutSaves rest

/-- A block that may be absent without the saves. -/
def optionalWithoutSaves : Option (List Statement) → Option (List Statement)
  | none => none
  | some body => some (blockWithoutSaves body)

end

theorem blockWithoutSaves_eq (block : List Statement) :
    blockWithoutSaves block = block.filterMap withoutSaves? :=
  eq_filterMap (by rw [blockWithoutSaves])
    (fun first rest => by cases h : first.withoutSaves? <;> simp only [blockWithoutSaves, h]) block

theorem guardedWithoutSaves_eq (branches : List (Expression × List Statement)) :
    guardedWithoutSaves branches = thinnedBranches withoutSaves? branches :=
  eq_thinnedBranches (by rw [guardedWithoutSaves])
    (fun _ _ _ => by rw [guardedWithoutSaves, blockWithoutSaves_eq]) branches

theorem optionalWithoutSaves_eq (body : Option (List Statement)) :
    optionalWithoutSaves body = body.map (List.filterMap withoutSaves?) := by
  cases body with
  | none => rw [optionalWithoutSaves, Option.map_none]
  | some block => rw [optionalWithoutSaves, Option.map_some, blockWithoutSaves_eq]

theorem isThinning_withoutSaves? : IsThinning withoutSaves? where
  branch _ _ _ _ := by
    rw [withoutSaves?, blockWithoutSaves_eq, guardedWithoutSaves_eq, optionalWithoutSaves_eq]
  loop _ _ _ _ := by
    rw [withoutSaves?, blockWithoutSaves_eq, blockWithoutSaves_eq, blockWithoutSaves_eq]
  switch _ _ _ := by rw [withoutSaves?, guardedWithoutSaves_eq, optionalWithoutSaves_eq]
  strictTiming _ := by rw [withoutSaves?, blockWithoutSaves_eq]

/-- The statement is no save. -/
def IsNoSave : Statement → Prop
  | save _ _ => False
  | _ => True

/-- A basic statement stays as it is, unless it is a save. -/
theorem withoutSaves?_of_basic {statement : Statement} (hbasic : statement.IsBasic) :
    statement.withoutSaves? = some statement ∧ statement.IsNoSave
      ∨ ∃ value stream, statement = save value stream ∧ statement.withoutSaves? = none := by
  cases statement with
  | save value stream => exact Or.inr ⟨value, stream, rfl, by rw [withoutSaves?]⟩
  | branch | loop | switch | strictTiming => exact hbasic.elim
  | _ => exact Or.inl ⟨by rw [withoutSaves?], trivial⟩

/-- Nothing is left that saves. -/
theorem noSave_blockWithoutSaves (block : List Statement) :
    ∀ statement ∈ blockWithoutSaves block, statement.Everywhere IsNoSave := by
  rw [blockWithoutSaves_eq]
  intro kept hkept
  obtain ⟨statement, -, hleft⟩ := List.mem_filterMap.1 hkept
  refine isThinning_withoutSaves?.everywhere ?_ ?_ statement kept hleft
  · intro statement h
    cases statement with
    | save => exact absurd trivial h
    | _ => exact trivial
  · intro statement kept hbasic hleft
    rcases withoutSaves?_of_basic hbasic with ⟨hsame, hnoSave⟩ | ⟨value, stream, -, hout⟩
    · obtain rfl : statement = kept := Option.some.inj (hsame.symm.trans hleft)
      exact ⟨hbasic, hnoSave⟩
    · rw [hout] at hleft
      cases hleft

end Statement

/-- A program without the saves in its body, at every depth. -/
def Program.withoutSaves (program : Program) : Program :=
  ⟨Statement.blockWithoutSaves program.body, program.definitions⟩

/-- No value that is saved anywhere in the program has a function call in it. -/
def Program.SavesWithoutCalls (program : Program) : Prop :=
  ∀ statement ∈ program.body, statement.Everywhere fun inner =>
    ∀ value stream, inner = .save value stream → value.CallFree

end PulseTimeline
