import PulseTimeline.Proofs.Computation
import PulseTimeline.RawTree.Node

set_option autoImplicit false

/-! # What nodes hold

A node that is accepted is a mapping whose keys have been checked, and all that is ever read of it
are the fields that `optional` finds. Each reading of a field succeeds exactly if the field is of
the right form; no proof about a tree looks into the readings themselves. -/

namespace PulseTimeline

namespace RawTree

/-! ## Checked keys -/

theorem Node.of_eq_ok_iff {kind : String} {raw : Json} {recognized : List String} {node : Node} :
    Node.of kind raw recognized = .ok node
      ↔ ∃ members, raw = .object members
        ∧ (∀ m ∈ members, m.1 = locationKey ∨ m.1 ∈ recognized) ∧ node = ⟨kind, members⟩ := by
  have hrejected : ∀ members : List (String × Json),
      (members.find? fun m => m.1 != locationKey && !recognized.contains m.1) = none
        ↔ ∀ m ∈ members, m.1 = locationKey ∨ m.1 ∈ recognized := by
    intro members
    simp only [List.find?_eq_none, Bool.and_eq_true, bne_iff_ne, ne_eq, Bool.not_eq_true',
      List.contains_eq_mem, decide_eq_false_iff_not, not_and, Decidable.not_not]
    exact forall₂_congr fun m _ => (or_iff_not_imp_left).symm
  unfold Node.of
  split
  · next members =>
      split
      · next m hfound =>
          constructor
          · exact nofun
          · rintro ⟨_, heq, hkeys, -⟩
            cases heq
            rw [(hrejected members).2 hkeys] at hfound
            cases hfound
      · next hnone =>
          constructor
          · intro h
            cases h
            exact ⟨members, rfl, (hrejected members).1 hnone, rfl⟩
          · rintro ⟨_, heq, -, rfl⟩
            cases heq
            rfl
  · next hother =>
      constructor
      · exact nofun
      · rintro ⟨members, rfl, -⟩
        exact absurd rfl (hother members)

theorem singleEntry_eq_ok_iff {category kind : String} {raw body : Json} :
    singleEntry category raw = .ok (kind, body)
      ↔ ∃ members, raw = .object members
        ∧ (members.filter fun m => m.1 != locationKey) = [(kind, body)] := by
  unfold singleEntry
  split
  · next members =>
      split
      · next entry hfilter => simp [hfilter]
      · next hfilter => simp [hfilter]
      · next entries hmany _ =>
          constructor
          · exact nofun
          · rintro ⟨_, heq, hfilter⟩
            cases heq
            exact absurd hfilter (hmany _)
  · next hother =>
      constructor
      · exact nofun
      · rintro ⟨members, rfl, -⟩
        exact absurd rfl (hother members)

/-! ## Fields -/

namespace Node

variable {node : Node} {field : String}

theorem required_eq_ok_iff {value : Json} :
    node.required field = .ok value ↔ node.optional field = some value := by
  unfold required
  split
  · next found hfound => simp [hfound]
  · next hnone => simp [hnone]

theorem requiredString_eq_ok_iff {text : String} :
    node.requiredString field = .ok text ↔ node.optional field = some (.text text) := by
  rw [requiredString, except_bind_eq_ok]
  constructor
  · rintro ⟨value, hvalue, htext⟩
    cases value with
    | text found =>
        cases htext
        exact required_eq_ok_iff.1 hvalue
    | _ => cases htext
  · intro h
    exact ⟨.text text, required_eq_ok_iff.2 h, rfl⟩

theorem optionalString_eq_ok_iff {text : Option String} :
    node.optionalString field = .ok text ↔ node.optional field = text.map Json.text := by
  unfold optionalString
  split
  · next value hvalue =>
      rw [hvalue]
      cases value with
      | text found =>
          constructor
          · intro h
            cases h
            rfl
          · intro h
            cases text with
            | none => cases h
            | some t =>
                cases h
                rfl
      | _ =>
          constructor
          · exact nofun
          · cases text <;> exact nofun
  · next hnone =>
      rw [hnone]
      cases text <;> simp

theorem list_eq_ok_iff {items : List Json} :
    node.list field = .ok items
      ↔ node.optional field = none ∧ items = [] ∨ node.optional field = some (.array items) := by
  unfold list
  split
  · next hnone => simp [hnone, eq_comm]
  · next found hfound => simp [hfound]
  · next other hother hother' =>
      simp only [hother', reduceCtorEq, false_and, Option.some.injEq, false_or, false_iff]
      rintro rfl
      exact hother items rfl

end Node

theorem nameIn_eq_ok_iff {kind name : String} {raw : Json} :
    nameIn kind raw = .ok name
      ↔ ∃ node, Node.of kind raw ["name"] = .ok node
        ∧ node.optional "name" = some (.text name) := by
  rw [nameIn, except_bind_eq_ok]
  exact exists_congr fun node => and_congr_right fun _ => Node.requiredString_eq_ok_iff

end RawTree

end PulseTimeline
