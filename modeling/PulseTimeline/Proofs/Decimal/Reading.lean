import PulseTimeline.Decimal.Reader
import PulseTimeline.Proofs.Decimal.Rounding
import PulseTimeline.Proofs.Value.Text

set_option autoImplicit false

/-! # Reading numbers

What the readings of integers and doubles make of the forms that numbers are written in: digits,
with a sign or without, and with a point or an exponent behind them. -/

namespace PulseTimeline

namespace Decimal

/-! ## What texts spell -/

/-- The number that digits spell, the last of which counts once and each other one ten times as much
    as the next. -/
def digitsValue (digits : List Char) : Nat :=
  Nat.ofDigits 10 (digits.reverse.map fun c => c.toNat - '0'.toNat)

/-- A text spells an integer: one or more digits, with or without a sign. -/
inductive Spells : List Char → Int → Prop where
  | unsigned {digits : List Char} (hsome : digits ≠ []) (h : ∀ c ∈ digits, isDigit c = true) :
    Spells digits (digitsValue digits)
  | plus {digits : List Char} (hsome : digits ≠ []) (h : ∀ c ∈ digits, isDigit c = true) :
    Spells ('+' :: digits) (digitsValue digits)
  | minus {digits : List Char} (hsome : digits ≠ []) (h : ∀ c ∈ digits, isDigit c = true) :
    Spells ('-' :: digits) (-digitsValue digits)

theorem natOfDigits_eq_digitsValue (digits : List Char) :
    natOfDigits digits = digitsValue digits := by
  rw [natOfDigits, digitsValue, Nat.ofDigits_eq_foldr, List.foldr_map, List.foldr_reverse]
  simp only [Nat.cast_id, Nat.add_comm]

variable {text : List Char} {n : Int}

/-- What is left of a spelled integer when its sign is split off. -/
theorem Spells.splitSign (h : Spells text n) :
    ∃ negative digits, splitSign text = (negative, digits) ∧ digits ≠ []
      ∧ (∀ c ∈ digits, isDigit c = true)
      ∧ n = if negative then -Int.ofNat (natOfDigits digits)
        else Int.ofNat (natOfDigits digits) := by
  cases h with
  | unsigned hsome h =>
      exact ⟨false, text, splitSign_of_isDigit h, hsome, h,
        congrArg Int.ofNat (natOfDigits_eq_digitsValue text).symm⟩
  | @plus digits hsome h =>
      exact ⟨false, digits, rfl, hsome, h,
        congrArg Int.ofNat (natOfDigits_eq_digitsValue digits).symm⟩
  | @minus digits hsome h =>
      exact ⟨true, digits, rfl, hsome, h,
        congrArg (fun value => -Int.ofNat value) (natOfDigits_eq_digitsValue digits).symm⟩

theorem Spells.isNumberChar (h : Spells text n) : ∀ c ∈ text, IsNumberChar c := by
  cases h with
  | unsigned _ h => exact fun c hc => Or.inl (h c hc)
  | plus _ h => exact List.forall_mem_cons.2 ⟨Or.inr (by decide), fun c hc => Or.inl (h c hc)⟩
  | minus _ h => exact List.forall_mem_cons.2 ⟨Or.inr (by decide), fun c hc => Or.inl (h c hc)⟩

/-! ## Reading as an integer -/

theorem Spells.readInteger? (h : Spells text n) : readInteger? text = some n := by
  obtain ⟨negative, digits, hsplit, hsome, hall, rfl⟩ := h.splitSign
  have hdigits : (digits.isEmpty || !digits.all isDigit) = false := by
    simpa [List.isEmpty_iff] using ⟨hsome, hall⟩
  simp [Decimal.readInteger?, hsplit, hdigits]

/-! ## Reading as a double -/

/-- What begins with a digit is no word. -/
theorem readFloat?_of_isDigit {negative : Bool} {c : Char} {rest : List Char}
    (hsplit : Decimal.splitSign text = (negative, c :: rest)) (hc : isDigit c = true) :
    readFloat? text = readMagnitude? negative (c :: rest) := by
  have hword : ∀ word : String, word.toList.head?.any isDigit = false →
      String.ofList ((c :: rest).map Char.toLower) ≠ word := by
    rintro word hhead rfl
    rw [String.toList_ofList, List.map_cons, toLower_of_isDigit hc, List.head?_cons,
      Option.any_some, hc] at hhead
    cases hhead
  unfold readFloat?
  rw [hsplit]
  simp only [hword "inf" (by decide), hword "infinity" (by decide), hword "nan" (by decide),
    decide_false, Bool.or_self, Bool.false_eq_true, if_false]

/-- What may stand behind the digits of a number: nothing, or an exponent. -/
inductive ShowsExponent : List Char → Int → Prop where
  | absent : ShowsExponent [] 0
  | given {text : List Char} {exponent : Int} (h : Spells text exponent) :
    ShowsExponent ('e' :: text) exponent

variable {whole places rest : List Char} {exponent : Int}

theorem ShowsExponent.readExponent? (h : ShowsExponent rest exponent) :
    readExponent? rest = some exponent := by
  cases h with
  | absent => rfl
  | given h => exact h.readInteger?

/-- Digits end where an exponent begins. -/
theorem ShowsExponent.digits_end (h : ShowsExponent rest exponent)
    (hwhole : ∀ c ∈ whole, isDigit c = true) :
    (whole ++ rest).takeWhile isDigit = whole ∧ (whole ++ rest).dropWhile isDigit = rest := by
  rw [List.takeWhile_append_of_pos hwhole, List.dropWhile_append_of_pos hwhole]
  cases h with
  | absent => simp
  | given h =>
      have hmark : isDigit 'e' = false := by decide
      simp [hmark]

theorem readMagnitude?_whole (negative : Bool) (hsome : whole ≠ [])
    (hwhole : ∀ c ∈ whole, isDigit c = true) (h : ShowsExponent rest exponent) :
    readMagnitude? negative (whole ++ rest)
      = some (nearestDecimal negative (natOfDigits whole) exponent) := by
  obtain ⟨htake, hdrop⟩ := h.digits_end hwhole
  have hread := h.readExponent?
  unfold readMagnitude?
  rw [htake, hdrop]
  cases h with
  | absent => simp [hsome, hread]
  | given h => simp [hsome, hread]

theorem readMagnitude?_point (negative : Bool) (hsome : whole ≠ [])
    (hwhole : ∀ c ∈ whole, isDigit c = true) (hplaces : ∀ c ∈ places, isDigit c = true)
    (h : ShowsExponent rest exponent) :
    readMagnitude? negative (whole ++ '.' :: (places ++ rest))
      = some (nearestDecimal negative (natOfDigits (whole ++ places))
        (exponent - Int.ofNat places.length)) := by
  obtain ⟨htake, hdrop⟩ := h.digits_end hplaces
  have hpoint : isDigit '.' = false := by decide
  have htakeWhole : (whole ++ '.' :: (places ++ rest)).takeWhile isDigit = whole := by
    rw [List.takeWhile_append_of_pos hwhole]
    simp [hpoint]
  have hdropWhole : (whole ++ '.' :: (places ++ rest)).dropWhile isDigit
      = '.' :: (places ++ rest) := by
    rw [List.dropWhile_append_of_pos hwhole]
    simp [hpoint]
  unfold readMagnitude?
  simp [htakeWhole, hdropWhole, htake, hdrop, hsome, h.readExponent?]

end Decimal

end PulseTimeline
