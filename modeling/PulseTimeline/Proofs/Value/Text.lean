import PulseTimeline.Value.Literal

set_option autoImplicit false

/-! # Values survive their text

The text of a value is read back by the reading that it is meant for, and by no earlier one: numbers
are no words, and a double always shows that it is no integer. That the digits of a double give the
double back is a matter of its layout; here it is what the laws about doubles ask for. -/

namespace PulseTimeline

namespace Text

theorem dropWhile_isBlank_eq_self {cs : List Char} (h : ∀ c ∈ cs, isBlank c = false) :
    cs.dropWhile isBlank = cs := by
  cases cs with
  | nil => rfl
  | cons c rest => simp [h c (List.mem_cons_self ..)]

theorem trim_eq_self {cs : List Char} (h : ∀ c ∈ cs, isBlank c = false) : trim cs = cs := by
  have hreverse : ∀ c ∈ cs.reverse, isBlank c = false := fun c hc => h c (List.mem_reverse.1 hc)
  rw [trim, dropWhile_isBlank_eq_self h, dropWhile_isBlank_eq_self hreverse, List.reverse_reverse]

/-- White space around a text that has none is trimmed off. -/
theorem trim_surrounded {left cs right : List Char} (hleft : ∀ c ∈ left, isBlank c = true)
    (h : ∀ c ∈ cs, isBlank c = false) (hright : ∀ c ∈ right, isBlank c = true) :
    trim (left ++ (cs ++ right)) = cs := by
  have hends : trim (cs ++ right) = cs := by
    cases cs with
    | nil =>
        rw [List.nil_append, trim, ← List.append_nil right, List.dropWhile_append_of_pos hright]
        rfl
    | cons c rest =>
        have hhead : (c :: rest ++ right).dropWhile isBlank = c :: rest ++ right :=
          List.dropWhile_cons_of_neg (by simp [h c (List.mem_cons_self ..)])
        have hblank : ∀ d ∈ right.reverse, isBlank d = true := fun d hd =>
          hright d (List.mem_reverse.1 hd)
        have htail : ∀ d ∈ (c :: rest).reverse, isBlank d = false := fun d hd =>
          h d (List.mem_reverse.1 hd)
        rw [trim, hhead, List.reverse_append, List.dropWhile_append_of_pos hblank,
          dropWhile_isBlank_eq_self htail, List.reverse_reverse]
  rw [trim, List.dropWhile_append_of_pos hleft]
  exact hends

end Text

namespace Decimal

/-! ## The characters of numbers -/

/-- A character in the text of a number: a digit, a sign, the point, the mark of an exponent, or a
    letter in a word for what is not finite. -/
def IsNumberChar (c : Char) : Prop :=
  isDigit c = true ∨ c ∈ ['-', '+', '.', 'e', 'i', 'n', 'f', 'N', 'a']

theorem toNat_of_isDigit {c : Char} (h : isDigit c = true) : 48 ≤ c.toNat ∧ c.toNat ≤ 57 := by
  simp only [isDigit, Bool.and_eq_true, decide_eq_true_eq] at h
  exact h

theorem isDigit_of_mem_toDigits {n : Nat} {c : Char} (h : c ∈ Nat.toDigits 10 n) :
    isDigit c = true :=
  Nat.isDigit_of_mem_toDigits (by decide) (by decide) h

theorem IsNumberChar.isBlank_eq_false {c : Char} (h : IsNumberChar c) :
    Text.isBlank c = false := by
  rcases h with hdigit | hmark
  · obtain ⟨hlow, hhigh⟩ := toNat_of_isDigit hdigit
    simp only [Text.isBlank, Text.blankRanges, List.any_cons, List.any_nil, Bool.or_false,
      Bool.or_eq_false_iff, Bool.and_eq_false_iff, decide_eq_false_iff_not]
    omega
  · simp only [List.mem_cons, List.not_mem_nil, or_false] at hmark
    rcases hmark with rfl | rfl | rfl | rfl | rfl | rfl | rfl | rfl | rfl <;> decide

theorem toLower_of_isDigit {c : Char} (h : isDigit c = true) : c.toLower = c := by
  have hrange := toNat_of_isDigit h
  refine dif_neg ?_
  rintro ⟨hupper, -⟩
  have hletter : 65 ≤ c.toNat := hupper
  omega

/-- Two letters do not occur in numbers, whatever their case: one of `true` and one of `false`. -/
theorem IsNumberChar.toLower_ne {c : Char} (h : IsNumberChar c) :
    c.toLower ≠ 't' ∧ c.toLower ≠ 's' := by
  rcases h with hdigit | hmark
  · rw [toLower_of_isDigit hdigit]
    constructor
    · rintro rfl
      exact absurd hdigit (by decide)
    · rintro rfl
      exact absurd hdigit (by decide)
  · simp only [List.mem_cons, List.not_mem_nil, or_false] at hmark
    rcases hmark with rfl | rfl | rfl | rfl | rfl | rfl | rfl | rfl | rfl <;> decide

theorem not_matchesWord {text : List Char} (word : String) (letter : Char)
    (hword : letter ∈ word.toList) (h : ∀ c ∈ text, c.toLower ≠ letter) :
    Value.matchesWord text word = false := by
  refine decide_eq_false ?_
  intro heq
  rw [← heq] at hword
  obtain ⟨c, hc, hlower⟩ := List.mem_map.1 hword
  exact h c hc hlower

/-- The text of a number is read as a number. -/
theorem ofTrimmed?_of_isNumberChar {text : List Char} (h : ∀ c ∈ text, IsNumberChar c) :
    Value.ofTrimmed? text = match readInt64? text with
      | some n => some (.int n)
      | none => (readFloat? text).map .real := by
  have htrue := not_matchesWord "true" 't' (by decide) fun c hc => (h c hc).toLower_ne.1
  have hfalse := not_matchesWord "false" 's' (by decide) fun c hc => (h c hc).toLower_ne.2
  rw [Value.ofTrimmed?, htrue, hfalse]
  rfl

/-! ## Integers -/

theorem isNumberChar_of_mem_integerText {n : Int} {c : Char} (h : c ∈ (integerText n).toList) :
    IsNumberChar c := by
  rw [integerText, String.toList_ofList] at h
  rcases List.mem_append.1 h with hsign | hdigit
  · split at hsign
    · rw [List.mem_singleton.1 hsign]
      exact Or.inr (by decide)
    · exact absurd hsign List.not_mem_nil
  · exact Or.inl (isDigit_of_mem_toDigits hdigit)

/-- What begins with a digit has no sign in front. -/
theorem splitSign_of_head {c : Char} {rest : List Char} (h : isDigit c = true) :
    splitSign (c :: rest) = (false, c :: rest) := by
  unfold splitSign
  split
  · next heq =>
      cases heq
      exact absurd h (by decide)
  · next heq =>
      cases heq
      exact absurd h (by decide)
  · rfl

theorem splitSign_of_isDigit {digits : List Char} (h : ∀ c ∈ digits, isDigit c = true) :
    splitSign digits = (false, digits) := by
  cases digits with
  | nil => rfl
  | cons c rest => exact splitSign_of_head (h c (List.mem_cons_self ..))

theorem splitSign_toDigits (n : Nat) :
    splitSign (Nat.toDigits 10 n) = (false, Nat.toDigits 10 n) :=
  splitSign_of_isDigit fun _ hc => isDigit_of_mem_toDigits hc

theorem natOfDigits_toDigits (n : Nat) : natOfDigits (Nat.toDigits 10 n) = n :=
  Nat.ofDigitChars_toDigits (by decide) (by decide)

theorem readInteger?_integerText (n : Int) : readInteger? (integerText n).toList = some n := by
  have hdigits : (Nat.toDigits 10 n.natAbs).isEmpty = false := by simp [Nat.toDigits_ne_nil]
  have hall : (Nat.toDigits 10 n.natAbs).all isDigit = true :=
    List.all_eq_true.2 fun c hc => isDigit_of_mem_toDigits hc
  rw [integerText, String.toList_ofList]
  by_cases hneg : n < 0
  · rw [if_pos hneg, List.singleton_append]
    simp only [readInteger?, splitSign, hdigits, hall, natOfDigits_toDigits, Bool.not_true,
      Bool.or_self, Bool.false_eq_true, if_false, if_true, Option.some.injEq]
    show -(n.natAbs : Int) = n
    omega
  · rw [if_neg hneg, List.nil_append]
    simp only [readInteger?, splitSign_toDigits, hdigits, hall, natOfDigits_toDigits, Bool.not_true,
      Bool.or_self, Bool.false_eq_true, if_false, Option.some.injEq]
    show (n.natAbs : Int) = n
    omega

theorem readInt64?_integerText (n : Int64) :
    readInt64? (integerText n.toInt).toList = some n := by
  have hlow : Int64.minValue.toInt ≤ n.toInt := Int64.toInt_minValue ▸ n.le_toInt
  have hfits : (decide (Int64.minValue.toInt ≤ n.toInt)
      && decide (n.toInt ≤ Int64.maxValue.toInt)) = true :=
    Bool.and_eq_true_iff.2 ⟨decide_eq_true hlow, decide_eq_true n.toInt_le⟩
  rw [readInt64?, readInteger?_integerText, Option.bind_eq_bind, Option.bind_some, if_pos hfits,
    Int64.ofInt_toInt]

/-! ## Doubles -/

theorem readInteger?_eq_none {text : List Char} {c : Char} (hmem : c ∈ text)
    (hdigit : isDigit c = false) (hminus : c ≠ '-') (hplus : c ≠ '+') :
    readInteger? text = none := by
  -- A character that is no sign is still there when the sign has been split off.
  have hrest : c ∈ (splitSign text).2 := by
    unfold splitSign
    split
    · exact (List.mem_cons.1 hmem).resolve_left hminus
    · exact (List.mem_cons.1 hmem).resolve_left hplus
    · exact hmem
  have hall : (splitSign text).2.all isDigit = false :=
    List.all_eq_false.2 ⟨c, hrest, by simp [hdigit]⟩
  simp [readInteger?, hall]

/-- What the text of a double looks like: it has the characters of numbers, and one of them is
    found in no integer. -/
structure ShowsDouble (text : List Char) : Prop where
  numberChars : ∀ c ∈ text, IsNumberChar c
  mark : ∃ c ∈ text, c ∈ ['.', 'e', 'n', 'N']

theorem ShowsDouble.readInt64?_eq_none {text : List Char} (h : ShowsDouble text) :
    readInt64? text = none := by
  obtain ⟨c, hmem, hmark⟩ := h.mark
  have hnone : readInteger? text = none := by
    simp only [List.mem_cons, List.not_mem_nil, or_false] at hmark
    rcases hmark with rfl | rfl | rfl | rfl <;>
      exact readInteger?_eq_none hmem (by decide) (by decide) (by decide)
  rw [readInt64?, hnone]
  rfl

theorem ShowsDouble.negated {text : List Char} (h : ShowsDouble text) (negative : Bool) :
    ShowsDouble (if negative then '-' :: text else text) := by
  cases negative with
  | false => exact h
  | true =>
      obtain ⟨c, hmem, hmark⟩ := h.mark
      refine ⟨?_, c, List.mem_cons_of_mem _ hmem, hmark⟩
      intro d hd
      rcases List.mem_cons.1 hd with rfl | hd
      · exact Or.inr (by decide)
      · exact h.numberChars d hd

theorem showsDouble_positional {digits : List Char} (h : ∀ c ∈ digits, isDigit c = true)
    (exponent : Int) : ShowsDouble (positional digits exponent) := by
  have hzeros : ∀ n, ∀ c ∈ List.replicate n '0', isDigit c = true := by
    intro n c hc
    rw [(List.mem_replicate.1 hc).2]
    decide
  constructor
  · intro c hc
    -- Apart from the point all are digits.
    suffices hcases : isDigit c = true ∨ c = '.' by
      rcases hcases with hdigit | rfl
      · exact Or.inl hdigit
      · exact Or.inr (by decide)
    simp only [positional] at hc
    split at hc
    · simp only [List.cons_append, List.mem_cons, List.mem_append] at hc
      rcases hc with rfl | hpoint | hzero | hdigit
      · exact Or.inl (by decide)
      · exact Or.inr hpoint
      · exact Or.inl (hzeros _ c hzero)
      · exact Or.inl (h c hdigit)
    · split at hc
      · simp only [List.mem_append, List.mem_cons, List.not_mem_nil, or_false] at hc
        rcases hc with (hdigit | hzero) | hpoint | rfl
        · exact Or.inl (h c hdigit)
        · exact Or.inl (hzeros _ c hzero)
        · exact Or.inr hpoint
        · exact Or.inl (by decide)
      · simp only [List.mem_append, List.mem_cons] at hc
        rcases hc with hdigit | hpoint | hdigit
        · exact Or.inl (h c (List.mem_of_mem_take hdigit))
        · exact Or.inr hpoint
        · exact Or.inl (h c (List.mem_of_mem_drop hdigit))
  · refine ⟨'.', ?_, by decide⟩
    simp only [positional]
    split
    · simp
    · split <;> simp

theorem showsDouble_scientific {digits : List Char} (h : ∀ c ∈ digits, isDigit c = true)
    (signedExponent : Bool) (exponent : Int) :
    ShowsDouble (scientific signedExponent digits exponent) := by
  constructor
  · intro c hc
    simp only [scientific, List.mem_append, List.mem_cons] at hc
    rcases hc with (hmantissa | rfl | hsign) | hexponent
    · split at hmantissa
      · simp only [List.mem_cons] at hmantissa
        rcases hmantissa with rfl | rfl | hrest
        · exact Or.inl (h c (List.mem_cons_self ..))
        · exact Or.inr (by decide)
        · exact Or.inl (h c (List.mem_cons_of_mem _ (List.mem_cons.2 hrest)))
      · exact Or.inl (h c hmantissa)
    · exact Or.inr (by decide)
    · -- The sign of the exponent is one of two characters, if it is there.
      split at hsign
      · rw [List.mem_singleton.1 hsign]
        exact Or.inr (by decide)
      · split at hsign
        · rw [List.mem_singleton.1 hsign]
          exact Or.inr (by decide)
        · exact absurd hsign List.not_mem_nil
    · exact Or.inl (isDigit_of_mem_toDigits hexponent)
  · exact ⟨'e', by simp [scientific], by decide⟩

theorem Layout.isDigit_of_mem_digits (layout : Layout) (m : Nat) (q : Int) :
    ∀ c ∈ (layout.digits m q).1, isDigit c = true := by
  intro c hc
  have hall : c ∈ (Nat.toDigits 10 (shortest layout.tie m q).1).reverse :=
    (List.dropWhile_sublist _).subset (List.mem_reverse.1 hc)
  exact isDigit_of_mem_toDigits (List.mem_reverse.1 hall)

theorem Layout.showsDouble_magnitude (layout : Layout) (m : Nat) (q : Int) :
    ShowsDouble (layout.magnitude m q) := by
  have hdigits := layout.isDigit_of_mem_digits m q
  rw [Layout.magnitude]
  generalize layout.digits m q = written at hdigits
  obtain ⟨digits, exponent⟩ := written
  dsimp only
  split
  · exact showsDouble_positional hdigits exponent
  · exact showsDouble_scientific hdigits layout.signedExponent exponent

theorem Layout.showsDouble_text (layout : Layout) (x : Float) :
    ShowsDouble (layout.text x).toList := by
  have hwords : ShowsDouble "NaN".toList ∧ ShowsDouble ['i', 'n', 'f']
      ∧ ShowsDouble ['0', '.', '0'] := by
    refine ⟨⟨?_, 'N', by decide, by decide⟩, ⟨?_, 'n', by decide, by decide⟩,
      ⟨?_, '.', by decide, by decide⟩⟩
    all_goals simp [IsNumberChar, isDigit]
  unfold Layout.text
  simp only []
  split
  · exact hwords.1
  · rw [String.toList_ofList]
    exact hwords.2.1.negated _
  · rw [String.toList_ofList]
    refine ShowsDouble.negated ?_ _
    split
    · exact hwords.2.2
    · exact layout.showsDouble_magnitude _ _

end Decimal

/-! ## Values -/

namespace Value

@[simp] theorem cast_type (value : Value) : value.cast value.type = value := by
  cases value <;> rfl

/-- A value whose text is that of a number is read back as what the number readings make of it. -/
theorem ofTrimmed?_text (value : Value)
    (hreal : ∀ x, value = real x →
      Decimal.readFloat? (Decimal.valueLayout.text x).toList = some x) :
    ofTrimmed? (Text.trim value.text.toList) = some value := by
  cases value with
  | int n =>
      have hchars := fun c (hc : c ∈ (Decimal.integerText n.toInt).toList) =>
        Decimal.isNumberChar_of_mem_integerText hc
      have htrim := Text.trim_eq_self fun c hc => (hchars c hc).isBlank_eq_false
      show ofTrimmed? (Text.trim (Decimal.integerText n.toInt).toList) = _
      rw [htrim, Decimal.ofTrimmed?_of_isNumberChar hchars, Decimal.readInt64?_integerText]
  | real x =>
      have hshows := Decimal.valueLayout.showsDouble_text x
      have htrim := Text.trim_eq_self fun c hc => (hshows.numberChars c hc).isBlank_eq_false
      show ofTrimmed? (Text.trim (Decimal.valueLayout.text x).toList) = _
      rw [htrim, Decimal.ofTrimmed?_of_isNumberChar hshows.numberChars, hshows.readInt64?_eq_none,
        hreal x rfl]
      rfl
  | bool b => cases b <;> decide

/-- **Values survive their text.** The text of a value is read as that value, cast to the type that
    is asked for. -/
theorem ofLiteral_text (value : Value) (expected : Option ScalarType)
    (hreal : ∀ x, value = real x →
      Decimal.readFloat? (Decimal.valueLayout.text x).toList = some x) :
    ofLiteral value.text expected = .ok (match expected with
      | some type => value.cast type
      | none => value) := by
  cases expected <;> simp only [ofLiteral, ofTrimmed?_text value hreal]

end Value

end PulseTimeline
