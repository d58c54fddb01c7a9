import Mathlib.Tactic.SplitIfs
import PulseTimeline.Text.Quoted

set_option autoImplicit false

/-! # The lines of a text

A text is cut into lines at its line breaks, and texts without line breaks are the lines of what is
put together from them. A quoted text has none, whatever is quoted. -/

namespace PulseTimeline.Text

/-- The lines of a text. -/
def lines (text : String) : List String := (text.split '\n').toList.map (·.copy)

/-- The text has no line break. -/
def IsOneLine (text : String) : Prop := '\n' ∉ text.toList

instance (text : String) : Decidable (IsOneLine text) := inferInstanceAs (Decidable (_ ∉ _))

theorem lines_intercalate {ls : List String} (hne : ls ≠ []) (h : ∀ line ∈ ls, IsOneLine line) :
    lines ("\n".intercalate ls) = ls := by
  have hsplit := String.toList_split_intercalate (c := '\n') h
  rwa [if_neg hne] at hsplit

/-! ## Texts without line breaks -/

@[simp] theorem isOneLine_append {a b : String} :
    IsOneLine (a ++ b) ↔ IsOneLine a ∧ IsOneLine b := by
  simp [IsOneLine]

theorem isOneLine_intercalate (separator : String) {texts : List String}
    (hseparator : IsOneLine separator) (h : ∀ text ∈ texts, IsOneLine text) :
    IsOneLine (separator.intercalate texts) := by
  induction texts with
  | nil =>
      rw [String.intercalate_nil]
      decide
  | cons first rest ih =>
      obtain ⟨hfirst, hrest⟩ := List.forall_mem_cons.1 h
      cases rest with
      | nil => rwa [String.intercalate_singleton]
      | cons second others =>
          rw [String.intercalate_cons_cons, isOneLine_append, isOneLine_append]
          exact ⟨⟨hfirst, hseparator⟩, ih hrest⟩

theorem newline_ne_digitChar : ∀ d < 16, '\n' ≠ Nat.digitChar d := by decide

theorem newline_not_mem_hexDigits (n : Nat) : '\n' ∉ hexDigits n := by
  induction n using Nat.strongRecOn with
  | ind n ih =>
      rw [hexDigits]
      rcases Nat.lt_or_ge n 16 with hlt | hge
      · rw [Nat.toDigits_of_lt_base hlt, List.mem_singleton]
        exact newline_ne_digitChar n hlt
      · rw [Nat.toDigits_of_base_le (by decide) hge, List.mem_append, List.mem_singleton, not_or]
        exact ⟨ih (n / 16) (Nat.div_lt_self (by omega) (by decide)),
          newline_ne_digitChar _ (Nat.mod_lt n (by decide))⟩

/-- A line break is written as an escape. -/
theorem newline_not_mem_escape (c : Char) : '\n' ∉ escape c := by
  unfold escape
  split_ifs with _ _ _ hc
  case neg => simpa using Ne.symm hc
  all_goals simp [newline_not_mem_hexDigits c.toNat]

theorem isOneLine_quote (text : String) : IsOneLine (quote text) := by
  simp [IsOneLine, quote, newline_not_mem_escape]

end PulseTimeline.Text
