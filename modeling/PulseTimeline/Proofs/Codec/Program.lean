import PulseTimeline.Codec.Program
import PulseTimeline.Proofs.Codec.Statement
import PulseTimeline.Proofs.RawTree.Spelling

set_option autoImplicit false

/-! # Programs survive as documents

A program is read back from its document, however the document is presented, if its definitions can
be stored: doubles have to be finite, since a document has no room for others, and the size of an
array has to be a number of sixty-four bits. -/

namespace PulseTimeline

open Decode

variable {present : Json → Json}

/-! ## Values -/

theorem Decode.integer_present (hp : Json.Presents present) {low high n : Int} (hlow : low ≤ n)
    (hhigh : n ≤ high) : integer low high (present (.int n)) = .ok n := by
  have hfits : (decide (low ≤ n) && decide (n ≤ high)) = true := by simp [hlow, hhigh]
  rw [hp.int, integer, if_pos hfits]

theorem Decode.int64_present (hp : Json.Presents present) (n : Int64) :
    int64 (present (.int n.toInt)) = .ok n := by
  have hlow : Int64.minValue.toInt ≤ n.toInt := Int64.toInt_minValue ▸ n.le_toInt
  rw [int64, integer_present hp hlow n.toInt_le, ok_bind, Int64.ofInt_toInt]
  rfl

theorem Decode.natural_present (hp : Json.Presents present) {bits n : Nat}
    (hfits : n < 1 <<< bits) : natural bits (present (.int (Int.ofNat n))) = .ok n := by
  have hlow : 0 ≤ Int.ofNat n := Int.natCast_nonneg n
  have hhigh : Int.ofNat n ≤ Int.ofNat (1 <<< bits - 1) := Int.ofNat_le.2 (by omega)
  rw [natural, integer_present hp hlow hhigh, ok_bind]
  rfl

/-- A value that documents have room for: its double, if it is one, is finite. -/
def Value.IsStorable (value : Value) : Prop := ∀ x, value = .real x → x.isFinite = true

theorem Value.decode_encode (hp : Json.Presents present) {value : Value}
    (hstorable : value.IsStorable) : decode (present value.encode) = .ok value := by
  cases value with
  | int n =>
      rw [encode, decode, choiceWithContent_present hp]
      simp only [ok_bind, int64_present hp]
      rfl
  | real x =>
      rw [encode, decode, choiceWithContent_present hp, hp.float x (hstorable x rfl)]
      rfl
  | bool b =>
      rw [encode, decode, choiceWithContent_present hp, hp.bool]
      rfl

/-! ## Definitions and programs -/

/-- A definition that documents have room for. -/
structure Definition.IsStorable (definition : Definition) : Prop where
  values : ∀ value ∈ definition.values, value.IsStorable
  size : ∀ name type values size, definition = .array name type values size → size < 1 <<< 64

theorem Definition.decode_encode (hp : Json.Presents present) {definition : Definition}
    (hstorable : definition.IsStorable) : decode (present definition.encode) = .ok definition := by
  cases definition with
  | scalar name type value =>
      have hvalue := hstorable.values value (List.mem_singleton.2 rfl)
      rw [encode, decode, choiceWithContent_present hp]
      refine fields_bind hp (by simp) (by simp) fun record hshows => ?_
      rw [hshows.required (by rfl), string_present hp, ok_bind, hshows.required (by rfl),
        type.decode_encode hp, ok_bind, hshows.required (by rfl), Value.decode_encode hp hvalue]
      rfl
  | array name type values size =>
      have hsize := hstorable.size name type values size rfl
      have hvalues : ∀ value ∈ values, Value.decode (present value.encode) = .ok value :=
        fun value hvalue => Value.decode_encode hp (hstorable.values value hvalue)
      rw [encode, decode, choiceWithContent_present hp]
      refine fields_bind hp (by simp) (by simp) fun record hshows => ?_
      rw [hshows.required (by rfl), string_present hp, ok_bind, hshows.required (by rfl),
        type.decode_encode hp, ok_bind, hshows.required (by rfl),
        list_present hp hvalues, ok_bind, hshows.required (by rfl), natural_present hp hsize]
      rfl

/-- **Programs survive.** A program is read back from its document. -/
theorem Program.decode_encode (hp : Json.Presents present) {program : Program}
    (hstorable : ∀ definition ∈ program.definitions, definition.IsStorable) :
    decode (present program.encode) = .ok program := by
  rw [decode]
  generalize hdepth : (present program.encode).height = depth
  rw [encode, Statement.encodeAll_eq_map] at hdepth ⊢
  refine fields_bind hp (by simp) (by simp) fun record hshows => ?_
  rw [Statement.required_list hp (Statement.decode_encode hp depth) hshows (by omega) (by rfl),
    ok_bind, hshows.required (by rfl), list_present hp fun definition hmem =>
      Definition.decode_encode hp (hstorable definition hmem)]
  rfl

end PulseTimeline
