import PulseTimeline.Codec.Expression
import PulseTimeline.Proofs.Codec.Records

set_option autoImplicit false

/-! # Expressions survive as documents

An expression is read back from its document, however the document is presented. The height of what
is presented bounds the recursion of the decoder, and every expression inside stands lower. -/

namespace PulseTimeline

variable {present : Json → Json}

open Decode

/-! ## Names of types and operators -/

theorem ScalarType.decode_encode (hp : Json.Presents present) (type : ScalarType) :
    decode (present type.encode) = .ok type := by
  rw [decode, encode, choiceName_present hp, ok_bind]
  cases type <;> rfl

theorem ScalarType.present_encode_ne_null (hp : Json.Presents present) (type : ScalarType) :
    present type.encode ≠ .null := by
  rw [encode, hp.text]
  simp

theorem BinaryOperator.ofLabel?_label (operator : BinaryOperator) :
    ofLabel? operator.names.label = some operator := by
  cases operator <;> rfl

theorem UnaryOperator.ofLabel?_label (operator : UnaryOperator) :
    ofLabel? operator.names.label = some operator := by
  cases operator <;> rfl

namespace Expression

theorem decodeBinaryOperator_label (hp : Json.Presents present) (operator : BinaryOperator) :
    decodeBinaryOperator (present (.text operator.names.label)) = .ok operator := by
  rw [decodeBinaryOperator, choiceName_present hp, ok_bind, operator.ofLabel?_label]

theorem decodeUnaryOperator_label (hp : Json.Presents present) (operator : UnaryOperator) :
    decodeUnaryOperator (present (.text operator.names.label)) = .ok operator := by
  rw [decodeUnaryOperator, choiceName_present hp, ok_bind, operator.ofLabel?_label]

theorem decodeName_encodeName (hp : Json.Presents present) (name : String) :
    decodeName (present (encodeName name)) = .ok name := by
  refine fields_bind hp (by simp) (by simp) fun record hshows => ?_
  rw [hshows.required (by rfl), string_present hp]

/-! ## Expressions -/

theorem encodeAll_eq_map (expressions : List Expression) :
    encodeAll expressions = expressions.map encode := by
  induction expressions with
  | nil => rw [encodeAll, List.map_nil]
  | cons first rest ih => rw [encodeAll, List.map_cons, ih]

/-- An expression is written as a choice among its kinds. -/
theorem exists_encode_eq (expression : Expression) :
    ∃ name content, expression.encode = .object [(name, content)] := by
  cases expression <;> exact ⟨_, _, by rw [encode]⟩

theorem present_encode_ne_null (hp : Json.Presents present) (expression : Expression) :
    present expression.encode ≠ .null := by
  obtain ⟨name, content, hencode⟩ := expression.exists_encode_eq
  rw [hencode]
  exact present_choice_ne_null hp name content

/-- **Expressions survive.** A decoder that may go as deep as the document is high reads the
    expression back. -/
theorem decode_encode (hp : Json.Presents present) (n : Nat) (expression : Expression)
    (hheight : (present expression.encode).height ≤ n) :
    decode n (present expression.encode) = .ok expression := by
  induction n generalizing expression with
  | zero =>
      obtain ⟨name, content, hencode⟩ := expression.exists_encode_eq
      have hlower := height_lt_choice hp name content
      rw [hencode] at hheight
      omega
  | succ n ih =>
      cases expression with
      | reference name =>
          rw [encode, decode, choiceWithContent_present hp]
          simp only [ok_bind, decodeName_encodeName hp]
          rfl
      | literal text type =>
          rw [encode, decode, choiceWithContent_present hp]
          refine fields_bind hp (by simp) (by simp) fun record hshows => ?_
          rw [hshows.required (by rfl), string_present hp, ok_bind, hshows.optional (by rfl),
            option_present hp (fun type _ => type.present_encode_ne_null hp)
              fun type _ => type.decode_encode hp]
          rfl
      | binary left operator right =>
          rw [encode] at hheight ⊢
          have hrecord := height_lt_of_choice hp (height_le_of_choice hp hheight)
          rw [decode, choiceWithContent_present hp]
          simp only [ok_bind, choiceWithContent_present hp]
          refine fields_bind hp (by simp) (by simp) fun record hshows => ?_
          have hleft := hshows.height_lt "left" (by rfl)
          have hright := hshows.height_lt "right" (by rfl)
          rw [hshows.required (by rfl), ih left (by omega), ok_bind, hshows.required (by rfl),
            decodeBinaryOperator_label hp, ok_bind, hshows.required (by rfl), ih right (by omega)]
          rfl
      | unary operator operand =>
          rw [encode] at hheight ⊢
          have hrecord := height_lt_of_choice hp (height_le_of_choice hp hheight)
          rw [decode, choiceWithContent_present hp]
          simp only [ok_bind, choiceWithContent_present hp]
          refine fields_bind hp (by simp) (by simp) fun record hshows => ?_
          have hoperand := hshows.height_lt "operand" (by rfl)
          rw [hshows.required (by rfl), decodeUnaryOperator_label hp, ok_bind,
            hshows.required (by rfl), ih operand (by omega)]
          rfl
      | call library function arguments =>
          rw [encode, encodeAll_eq_map] at hheight ⊢
          have hrecord := height_lt_of_choice hp hheight
          rw [decode, choiceWithContent_present hp]
          refine fields_bind hp (by simp) (by simp) fun record hshows => ?_
          have harguments := hshows.height_lt "arguments" (by rfl)
          rw [hshows.required (by rfl), string_present hp, ok_bind, hshows.required (by rfl),
            string_present hp, ok_bind, hshows.required (by rfl), list_present hp]
          · rfl
          · intro argument hargument
            have hlower := hp.height_lt_item (List.mem_map_of_mem (f := encode) hargument)
            exact ih argument (by omega)
      | cell array index =>
          rw [encode] at hheight ⊢
          have hrecord := height_lt_of_choice hp hheight
          rw [decode, choiceWithContent_present hp]
          refine fields_bind hp (by simp) (by simp) fun record hshows => ?_
          have hindex := hshows.height_lt "index" (by rfl)
          rw [hshows.required (by rfl), decodeName_encodeName hp, ok_bind,
            hshows.required (by rfl), ih index (by omega)]
          rfl

end Expression

end PulseTimeline
