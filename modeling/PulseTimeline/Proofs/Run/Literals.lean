import PulseTimeline.Proofs.Decimal.ReadBack
import PulseTimeline.Proofs.Run.Steps

set_option autoImplicit false

/-! # Literals of values

A value can be written as a literal and is found again: by its text alone, which tells its type, or
as a value of another type, to which it is cast. White space around the text does not matter. The
expression that stands for a value therefore has that value, whatever the state of a run. Only the
double that is no number is left out, since its text is read as one that need not have its bits. -/

namespace PulseTimeline

namespace Value

variable {value : Value}

/-- No value has white space in its text. -/
theorem isBlank_of_mem_text (value : Value) :
    ∀ c ∈ value.text.toList, Text.isBlank c = false := by
  cases value with
  | int n =>
      exact fun c hc => (Decimal.isNumberChar_of_mem_integerText hc).isBlank_eq_false
  | real x =>
      exact fun c hc =>
        ((Decimal.valueLayout.showsDouble_text x).numberChars c hc).isBlank_eq_false
  | bool b => cases b <;> simp [text, Text.isBlank, Text.blankRanges]

theorem ofLiteral_of_surrounds {literal : String} {left right : List Char}
    (hnumber : ∀ x, value = real x → x.isNaN = false)
    (hliteral : literal.toList = left ++ (value.text.toList ++ right))
    (hleft : ∀ c ∈ left, Text.isBlank c = true) (hright : ∀ c ∈ right, Text.isBlank c = true)
    (expected : Option ScalarType) :
    ofLiteral literal expected = .ok (expected.elim value value.cast) := by
  have htrim : Text.trim literal.toList = Text.trim value.text.toList := by
    rw [hliteral, Text.trim_surrounded hleft value.isBlank_of_mem_text hright,
      Text.trim_eq_self value.isBlank_of_mem_text]
  rw [ofLiteral, htrim, ofTrimmed?_text value fun x hx =>
    Decimal.valueLayout.readFloat?_text (hnumber x hx)]
  cases expected <;> rfl

end Value

namespace Run

/-- **Values survive their text.** The text of a value is read back as that value, and as the value
    cast to any type that is asked for, with any white space around it; the literal of a value is
    evaluated to it in every state of a run. A double has to be a number for this. -/
theorem literals_have_their_values (value : Value)
    (hnumber : ∀ x, value = .real x → x.isNaN = false) :
    (∀ (literal : String) left right, literal.toList = left ++ (value.text.toList ++ right) →
      (∀ c ∈ left, Text.isBlank c = true) → (∀ c ∈ right, Text.isBlank c = true) →
      Value.ofLiteral literal none = .ok value
        ∧ ∀ type, Value.ofLiteral literal (some type) = .ok (value.cast type))
    ∧ ∀ state : RunState, (Run.value (.ofValue value)).run state = .ok value state := by
  refine ⟨fun literal left right hliteral hleft hright => ?_, fun state => ?_⟩
  · have hread := Value.ofLiteral_of_surrounds hnumber hliteral hleft hright
    exact ⟨hread none, fun type => hread (some type)⟩
  · refine run_value_eq_ok_iff.2 ⟨state.random, ?_, rfl⟩
    have hread : Value.ofLiteral value.text (some value.type) = .ok value :=
      (Value.ofLiteral_text value (some value.type) fun x hx =>
        Decimal.valueLayout.readFloat?_text (hnumber x hx)).trans (congrArg _ value.cast_type)
    rw [Expression.ofValue, evaluate, hread]
    rfl

/-- The least double, with white space around it, is read as itself, and as a truth value it is
    true. -/
theorem literal_of_least_double :
    (Value.real 5e-324).text = "5e-324"
      ∧ Value.ofLiteral "\t 5e-324\n" none = .ok (.real 5e-324)
      ∧ Value.ofLiteral "\t 5e-324\n" (some .bool) = .ok (.bool true) := by
  have htext : (Value.real 5e-324).text = "5e-324" := by decide +kernel
  have hnumber : ∀ x, Value.real 5e-324 = .real x → x.isNaN = false := by
    intro x heq
    rw [← Value.real.inj heq]
    decide +kernel
  obtain ⟨hread, hcast⟩ := (literals_have_their_values (.real 5e-324) hnumber).1 "\t 5e-324\n"
    ['\t', ' '] ['\n'] (by rw [htext]; decide) (List.all_eq_true.1 (by decide))
    (List.all_eq_true.1 (by decide))
  exact ⟨htext, hread, (hcast .bool).trans (by decide +kernel)⟩

end Run

end PulseTimeline
