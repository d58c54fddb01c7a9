import PulseTimeline.Codec.Statement
import PulseTimeline.Proofs.Codec.Expression

set_option autoImplicit false

/-! # Statements survive as documents

A statement is read back from its document, however the document is presented. Blocks stand inside
statements and inside the branches of statements; a branch is read with a decoder of its own, so the
two laws go down together. An absent block is null and an empty one is an empty list, and neither is
taken for the other. -/

namespace PulseTimeline

open Decode

namespace Statement

variable {present : Json → Json}

/-! ## Parts of statements -/

theorem encodeAll_eq_map (block : List Statement) : encodeAll block = block.map encode := by
  induction block with
  | nil => rw [encodeAll, List.map_nil]
  | cons first rest ih => rw [encodeAll, List.map_cons, ih]

/-- A block under an expression of its own as a document. -/
def encodeBranch (guard : String) (branch : Expression × List Statement) : Json :=
  .object [(guard, branch.1.encode), ("body", .array (branch.2.map encode))]

theorem encodeGuarded_eq_map (guard : String) (branches : List (Expression × List Statement)) :
    encodeGuarded guard branches = branches.map (encodeBranch guard) := by
  induction branches with
  | nil => rw [encodeGuarded, List.map_nil]
  | cons first rest ih =>
      obtain ⟨condition, body⟩ := first
      rw [encodeGuarded, List.map_cons, ih, encodeAll_eq_map, encodeBranch]

/-- A block as a document. -/
def encodeBlock (block : List Statement) : Json := .array (block.map encode)

theorem encodeOptional_eq (block : Option (List Statement)) :
    encodeOptional block = Json.ofOption encodeBlock block := by
  cases block with
  | none => rw [encodeOptional, Json.ofOption]
  | some statements => rw [encodeOptional, Json.ofOption, encodeBlock, encodeAll_eq_map]

theorem decodeElements_ofNames (hp : Json.Presents present) (elements : List String) :
    decodeElements (present (.object [("elements", Json.ofNames elements)])) = .ok elements := by
  refine fields_bind hp (by simp) (by simp) fun record hshows => ?_
  rw [hshows.required (by rfl), Json.ofNames, list_present hp fun name _ => string_present hp name]

theorem decodePulse_encode (hp : Json.Presents present) {n : Nat} (pulse : Pulse)
    (hheight : (present pulse.encode).height ≤ n + 1) :
    decodePulse n (present pulse.encode) = .ok pulse := by
  cases pulse with
  | named operation =>
      rw [Pulse.encode, decodePulse, choiceWithContent_present hp]
      simp only [ok_bind, string_present hp]
      rfl
  | ramp slope =>
      rw [Pulse.encode] at hheight ⊢
      have hrecord := height_lt_of_choice hp hheight
      rw [decodePulse, choiceWithContent_present hp]
      refine fields_bind hp (by simp) (by simp) fun record hshows => ?_
      have hslope := hshows.height_lt "value" (by rfl)
      rw [hshows.required (by rfl), slope.decode_encode hp n (by omega)]
      rfl

theorem decodeTarget_encode (hp : Json.Presents present) {n : Nat} (target : Target)
    (hheight : (present target.encode).height ≤ n + 1) :
    decodeTarget n (present target.encode) = .ok target := by
  cases target with
  | reference name =>
      rw [Target.encode, decodeTarget, choiceWithContent_present hp]
      simp only [ok_bind, Expression.decodeName_encodeName hp]
      rfl
  | cell array index =>
      rw [Target.encode] at hheight ⊢
      have hrecord := height_lt_of_choice hp hheight
      rw [decodeTarget, choiceWithContent_present hp]
      refine fields_bind hp (by simp) (by simp) fun record hshows => ?_
      have hindex := hshows.height_lt "index" (by rfl)
      rw [hshows.required (by rfl), Expression.decodeName_encodeName hp, ok_bind,
        hshows.required (by rfl), index.decode_encode hp n (by omega)]
      rfl

/-- A statement is written as a choice among its kinds. -/
theorem exists_encode_eq (statement : Statement) :
    ∃ name content, statement.encode = .object [(name, content)] := by
  cases statement <;> exact ⟨_, _, by rw [encode]⟩

/-! ## Expressions and blocks in the fields of statements -/

section

variable {n : Nat} {record : Fields} {members : List (String × Json)} {key : String}

/-- An expression in a field that is there. -/
theorem required_expression (hp : Json.Presents present) (hshows : record.Shows present members)
    (hrecord : (present (.object members)).height ≤ n + 1) {expression : Expression}
    (hkey : members.lookup key = some expression.encode) :
    record.required key (Expression.decode n) = .ok expression := by
  have hlower := hshows.height_lt key hkey
  rw [hshows.required hkey, expression.decode_encode hp n (by omega)]

/-- An expression in a field that may be null. -/
theorem optional_expression (hp : Json.Presents present) (hshows : record.Shows present members)
    (hrecord : (present (.object members)).height ≤ n + 1) {value : Option Expression}
    (hkey : members.lookup key = some (Json.ofOption Expression.encode value)) :
    record.optional key (Expression.decode n) = .ok value := by
  rw [hshows.optional hkey]
  refine option_present hp (fun e _ => e.present_encode_ne_null hp) fun e he => ?_
  have hlower := hshows.height_lt key hkey
  rw [Option.mem_def.1 he, Json.ofOption] at hlower
  exact e.decode_encode hp n (by omega)

/-- Items in a field that is there, where each is read back if it is low enough. -/
theorem required_list {α : Type} (hp : Json.Presents present) {read : Json → Decoded α}
    {write : α → Json} (hread : ∀ a, (present (write a)).height ≤ n →
      read (present (write a)) = .ok a)
    (hshows : record.Shows present members)
    (hrecord : (present (.object members)).height ≤ n + 1) {values : List α}
    (hkey : members.lookup key = some (.array (values.map write))) :
    record.required key (list read) = .ok values := by
  rw [hshows.required hkey]
  refine list_present hp fun value hvalue => hread value ?_
  have hlist := hshows.height_lt key hkey
  have hitem := hp.height_lt_item (List.mem_map_of_mem (f := write) hvalue)
  omega

/-- A block in a field that may be null. -/
theorem optional_block (hp : Json.Presents present)
    (hread : ∀ statement : Statement, (present statement.encode).height ≤ n →
      decode n (present statement.encode) = .ok statement) (hshows : record.Shows present members)
    (hrecord : (present (.object members)).height ≤ n + 1) {block : Option (List Statement)}
    (hkey : members.lookup key = some (Json.ofOption encodeBlock block)) :
    record.optional key (list (decode n)) = .ok block := by
  rw [hshows.optional hkey]
  refine option_present hp (fun statements _ => ?_) fun statements hstatements => ?_
  · rw [encodeBlock, hp.array]
    simp
  · refine list_present hp fun statement hmem => hread statement ?_
    have hlist := hshows.height_lt key hkey
    rw [Option.mem_def.1 hstatements, Json.ofOption, encodeBlock] at hlist
    have hitem := hp.height_lt_item (List.mem_map_of_mem (f := encode) hmem)
    omega

end

/-! ## Statements -/

/-- The decoder reads statements back whose documents are no higher than the given height. -/
def DecodesUpTo (present : Json → Json) (n : Nat) : Prop :=
  ∀ statement : Statement, (present statement.encode).height ≤ n →
    decode n (present statement.encode) = .ok statement

theorem decodeGuarded_succ (hp : Json.Presents present) {n : Nat}
    (hstatements : DecodesUpTo present n) {guard : String} (hguard : guard ≠ "body")
    (branch : Expression × List Statement)
    (hheight : (present (encodeBranch guard branch)).height ≤ n + 1) :
    decodeGuarded (n + 1) guard (present (encodeBranch guard branch)) = .ok branch := by
  obtain ⟨condition, body⟩ := branch
  rw [encodeBranch] at hheight ⊢
  rw [decodeGuarded]
  refine fields_bind hp (by simpa using hguard) (by simp) fun record hshows => ?_
  have hother : ("body" == guard) = false := beq_eq_false_iff_ne.2 (Ne.symm hguard)
  have hbody : List.lookup "body" [(guard, condition.encode), ("body", .array (body.map encode))]
      = some (.array (body.map encode)) := by
    rw [List.lookup_cons, hother]
    rfl
  rw [required_expression hp hshows hheight (List.lookup_cons_self ..), ok_bind,
    required_list hp hstatements hshows hheight hbody]
  rfl

theorem decode_succ (hp : Json.Presents present) {n : Nat} (hstatements : DecodesUpTo present n)
    (hbranches : ∀ guard branch, guard ≠ "body" →
      (present (encodeBranch guard branch)).height ≤ n →
        decodeGuarded n guard (present (encodeBranch guard branch)) = .ok branch) :
    DecodesUpTo present (n + 1) := by
  intro statement hheight
  cases statement with
  | play pulse element amplitude duration =>
      rw [encode] at hheight ⊢
      have hrecord := height_le_of_choice hp hheight
      rw [decode, choiceWithContent_present hp]
      refine fields_bind hp (by simp) (by simp) fun record hshows => ?_
      have hpulse := hshows.height_lt "operation" (by rfl)
      rw [hshows.required (by rfl), decodePulse_encode hp pulse (by omega), ok_bind,
        hshows.required (by rfl), string_present hp, ok_bind,
        optional_expression hp hshows hrecord (by rfl), ok_bind,
        optional_expression hp hshows hrecord (by rfl)]
      rfl
  | measure element operation =>
      rw [encode, decode, choiceWithContent_present hp]
      refine fields_bind hp (by simp) (by simp) fun record hshows => ?_
      have hnull : ∀ name : String, present (.text name) ≠ .null := by
        intro name
        rw [hp.text]
        simp
      rw [hshows.required (by rfl), string_present hp, ok_bind, hshows.optional (by rfl),
        option_present hp (fun name _ => hnull name) fun name _ => string_present hp name]
      rfl
  | align elements =>
      rw [encode, decode, choiceWithContent_present hp]
      simp only [ok_bind, decodeElements_ofNames hp]
      rfl
  | assign target value =>
      rw [encode] at hheight ⊢
      have hrecord := height_le_of_choice hp hheight
      rw [decode, choiceWithContent_present hp]
      refine fields_bind hp (by simp) (by simp) fun record hshows => ?_
      have htarget := hshows.height_lt "target" (by rfl)
      rw [hshows.required (by rfl), decodeTarget_encode hp target (by omega), ok_bind,
        required_expression hp hshows hrecord (by rfl)]
      rfl
  | branch condition body elseIfs elseBody =>
      rw [encode, encodeAll_eq_map, encodeGuarded_eq_map, encodeOptional_eq] at hheight ⊢
      have hrecord := height_le_of_choice hp hheight
      rw [decode, choiceWithContent_present hp]
      refine fields_bind hp (by simp) (by simp) fun record hshows => ?_
      rw [required_expression hp hshows hrecord (by rfl), ok_bind,
        required_list hp hstatements hshows hrecord (by rfl), ok_bind,
        required_list hp (fun b => hbranches "condition" b (by decide)) hshows hrecord (by rfl),
        ok_bind, optional_block hp hstatements hshows hrecord (by rfl)]
      rfl
  | resetPhase elements =>
      rw [encode, decode, choiceWithContent_present hp]
      simp only [ok_bind, decodeElements_ofNames hp]
      rfl
  | rampToZero element duration =>
      rw [encode] at hheight ⊢
      have hrecord := height_le_of_choice hp hheight
      rw [decode, choiceWithContent_present hp]
      refine fields_bind hp (by simp) (by simp) fun record hshows => ?_
      rw [hshows.required (by rfl), string_present hp, ok_bind,
        optional_expression hp hshows hrecord (by rfl)]
      rfl
  | wait duration elements =>
      rw [encode] at hheight ⊢
      have hrecord := height_le_of_choice hp hheight
      rw [decode, choiceWithContent_present hp]
      refine fields_bind hp (by simp) (by simp) fun record hshows => ?_
      rw [required_expression hp hshows hrecord (by rfl), ok_bind, hshows.required (by rfl),
        Json.ofNames, list_present hp fun name _ => string_present hp name]
      rfl
  | frameRotation angle elements =>
      rw [encode] at hheight ⊢
      have hrecord := height_le_of_choice hp hheight
      rw [decode, choiceWithContent_present hp]
      refine fields_bind hp (by simp) (by simp) fun record hshows => ?_
      rw [required_expression hp hshows hrecord (by rfl), ok_bind, hshows.required (by rfl),
        Json.ofNames, list_present hp fun name _ => string_present hp name]
      rfl
  | loop init condition update body =>
      rw [encode, encodeAll_eq_map, encodeAll_eq_map, encodeAll_eq_map] at hheight ⊢
      have hrecord := height_le_of_choice hp hheight
      rw [decode, choiceWithContent_present hp]
      refine fields_bind hp (by simp) (by simp) fun record hshows => ?_
      rw [required_list hp hstatements hshows hrecord (by rfl), ok_bind,
        required_expression hp hshows hrecord (by rfl), ok_bind,
        required_list hp hstatements hshows hrecord (by rfl), ok_bind,
        required_list hp hstatements hshows hrecord (by rfl)]
      rfl
  | switch subject cases default =>
      rw [encode, encodeGuarded_eq_map, encodeOptional_eq] at hheight ⊢
      have hrecord := height_le_of_choice hp hheight
      rw [decode, choiceWithContent_present hp]
      refine fields_bind hp (by simp) (by simp) fun record hshows => ?_
      rw [required_expression hp hshows hrecord (by rfl), ok_bind,
        required_list hp (fun b => hbranches "value" b (by decide)) hshows hrecord (by rfl),
        ok_bind, optional_block hp hstatements hshows hrecord (by rfl)]
      rfl
  | strictTiming body =>
      rw [encode, encodeAll_eq_map] at hheight ⊢
      have hrecord := height_le_of_choice hp hheight
      rw [decode, choiceWithContent_present hp]
      refine fields_bind hp (by simp) (by simp) fun record hshows => ?_
      rw [required_list hp hstatements hshows hrecord (by rfl)]
      rfl
  | save value stream =>
      rw [encode] at hheight ⊢
      have hrecord := height_le_of_choice hp hheight
      rw [decode, choiceWithContent_present hp]
      refine fields_bind hp (by simp) (by simp) fun record hshows => ?_
      rw [required_expression hp hshows hrecord (by rfl), ok_bind, hshows.required (by rfl),
        string_present hp]
      rfl

/-- **Statements survive.** A decoder that may go as deep as the document is high reads the
    statement back. -/
theorem decode_encode (hp : Json.Presents present) (n : Nat) : DecodesUpTo present n := by
  suffices h : DecodesUpTo present n ∧ ∀ guard branch, guard ≠ "body" →
      (present (encodeBranch guard branch)).height ≤ n →
        decodeGuarded n guard (present (encodeBranch guard branch)) = .ok branch from h.1
  induction n with
  | zero =>
      -- No statement and no branch is that low.
      refine ⟨fun statement hheight => ?_, fun guard branch hguard hheight => ?_⟩
      · obtain ⟨name, content, hencode⟩ := statement.exists_encode_eq
        rw [hencode] at hheight
        exact absurd (height_lt_of_choice hp hheight) (Nat.not_lt_zero _)
      · have hkeys : ([(guard, branch.1.encode), ("body", .array (branch.2.map encode))].map
            Prod.fst).Nodup := by simpa using hguard
        have hlower := hp.height_lt_member hkeys List.mem_cons_self
        rw [encodeBranch] at hheight
        omega
  | succ n ih =>
      exact ⟨decode_succ hp ih.1 ih.2, fun _ branch hguard hheight =>
        decodeGuarded_succ hp ih.1 hguard branch hheight⟩

end Statement

end PulseTimeline
