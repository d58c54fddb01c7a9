import Mathlib.Data.List.Forall2
import Mathlib.Data.List.TakeWhile
import PulseTimeline.Json.Printer
import PulseTimeline.Json.Token
import PulseTimeline.Proofs.Json.Parts
import PulseTimeline.Proofs.Value.Text

set_option autoImplicit false

/-! # The tokens of a written document

The lexer finds in the text of a document the tokens that the document is made of. A word is only
known to end at the character behind it, so the lexer `Closes` what ends in a mark or in a string,
and of what may end in a word it is said that it `Lexes` it. -/

namespace PulseTimeline.Json

/-! ## The tokens of a document -/

mutual

/-- The tokens that a document is made of. -/
def tokens : Json → List Token
  | text value => [.string (some value)]
  | array items => .openBracket :: [.comma].intercalate (tokensOfItems items) ++ [.closeBracket]
  | object members => .openBrace :: [.comma].intercalate (tokensOfMembers members) ++ [.closeBrace]
  | scalar => [.word scalar]

/-- The tokens of each item. -/
def tokensOfItems : List Json → List (List Token)
  | [] => []
  | item :: rest => tokens item :: tokensOfItems rest

/-- The tokens of each member: its key, a colon and its value. -/
def tokensOfMembers : List (String × Json) → List (List Token)
  | [] => []
  | (key, value) :: rest => (.string (some key) :: .colon :: tokens value) :: tokensOfMembers rest

end

theorem tokensOfItems_eq (items : List Json) : tokensOfItems items = items.map tokens := by
  induction items with
  | nil => rw [tokensOfItems, List.map_nil]
  | cons item rest ih => rw [tokensOfItems, List.map_cons, ih]

/-- The tokens of a member. -/
def tokensOfMember (member : String × Json) : List Token :=
  .string (some member.1) :: .colon :: tokens member.2

theorem tokensOfMembers_eq (members : List (String × Json)) :
    tokensOfMembers members = members.map tokensOfMember := by
  induction members with
  | nil => rw [tokensOfMembers, List.map_nil]
  | cons member rest ih => rw [tokensOfMembers, List.map_cons, ih, tokensOfMember]

/-! ## Runs of the lexer -/

/-- Between tokens, the characters lead to the tokens and between tokens again. -/
def Closes (characters : List Char) (found : List Token) : Prop :=
  ∀ before, characters.foldlM LexState.step ⟨.between, before⟩
    = some ⟨.between, found.reverse ++ before⟩

/-- Between tokens, the characters lead to the tokens, the last of which may be a word that is still
    open. -/
def Lexes (characters : List Char) (found : List Token) : Prop :=
  ∀ before, ∃ last, characters.foldlM LexState.step ⟨.between, before⟩ = some last
    ∧ last.endWord = some ⟨.between, found.reverse ++ before⟩

variable {a b : List Char} {found others : List Token} {c : Char} {token : Token}

theorem closes_nil : Closes [] [] := fun _ => rfl

theorem Closes.lexes (h : Closes a found) : Lexes a found := fun before => ⟨_, h before, rfl⟩

theorem Closes.append (h : Closes a found) (h' : Closes b others) :
    Closes (a ++ b) (found ++ others) := by
  intro before
  rw [List.foldlM_append, h before, Option.bind_eq_bind, Option.bind_some, h', List.reverse_append,
    List.append_assoc]

theorem Closes.append_lexes (h : Closes a found) (h' : Lexes b others) :
    Lexes (a ++ b) (found ++ others) := by
  intro before
  obtain ⟨last, hrun, hend⟩ := h' (found.reverse ++ before)
  refine ⟨last, ?_, ?_⟩
  · rw [List.foldlM_append, h before, Option.bind_eq_bind, Option.bind_some, hrun]
  · rw [hend, List.reverse_append, List.append_assoc]

/-- A character that is a token by itself, wherever the lexer stands outside of strings. -/
structure IsMark (c : Char) (token : Token) : Prop where
  stepBetween : ∀ before,
    LexState.stepBetween ⟨.between, before⟩ c = some ⟨.between, token :: before⟩
  endsWord : isWordChar c = false

theorem IsMark.closes (h : IsMark c token) : Closes [c] [token] := by
  intro before
  rw [List.foldlM_cons]
  show (LexState.stepBetween ⟨.between, before⟩ c >>= _) = _
  rw [h.stepBetween]
  rfl

/-- A mark ends the word that may be open. -/
theorem Lexes.close (h : Lexes a found) (hmark : IsMark c token) :
    Closes (a ++ [c]) (found ++ [token]) := by
  intro before
  obtain ⟨last, hrun, hend⟩ := h before
  have hstep : LexState.step last c = some ⟨.between, token :: (found.reverse ++ before)⟩ := by
    obtain ⟨mode, read⟩ := last
    cases mode with
    | between =>
        cases hend
        exact hmark.stepBetween _
    | word characters =>
        simp only [LexState.step, hmark.endsWord, hend, Bool.false_eq_true, if_false]
        exact hmark.stepBetween _
    | _ => cases hend
  rw [List.foldlM_append, hrun, Option.bind_eq_bind, Option.bind_some, List.foldlM_cons, hstep]
  simp

/-- A list of texts with commas between them. -/
theorem lexes_intercalate {texts : List (List Char)} {spelled : List (List Token)}
    (hcomma : IsMark ',' .comma) (h : List.Forall₂ Lexes texts spelled) :
    Lexes ([','].intercalate texts) ([.comma].intercalate spelled) := by
  induction h with
  | nil => exact closes_nil.lexes
  | @cons text first texts spelled hfirst hrest ih =>
      cases hrest with
      | nil => simpa using hfirst
      | cons hsecond hrest =>
          rw [List.intercalate_cons_cons, List.intercalate_cons_cons]
          exact (hfirst.close hcomma).append_lexes ih

theorem isMark_comma : IsMark ',' .comma := ⟨fun _ => rfl, by decide⟩

theorem isMark_colon : IsMark ':' .colon := ⟨fun _ => rfl, by decide⟩

theorem isMark_openBracket : IsMark '[' .openBracket := ⟨fun _ => rfl, by decide⟩

theorem isMark_closeBracket : IsMark ']' .closeBracket := ⟨fun _ => rfl, by decide⟩

theorem isMark_openBrace : IsMark '\x7b' .openBrace := ⟨fun _ => rfl, by decide⟩

theorem isMark_closeBrace : IsMark '\x7d' .closeBrace := ⟨fun _ => rfl, by decide⟩

/-! ## Words -/

theorem step_word (read : List Char) (before : List Token) (h : isWordChar c = true) :
    LexState.step ⟨.word read, before⟩ c = some ⟨.word (c :: read), before⟩ := by
  simp only [LexState.step, h, if_true]

/-- No mark, no quote and no space is a character of words. -/
theorem stepBetween_word (before : List Token) (h : isWordChar c = true) :
    LexState.stepBetween ⟨.between, before⟩ c = some ⟨.word [c], before⟩ := by
  unfold LexState.stepBetween
  split
  all_goals first
    | exact absurd h (by decide)
    | exact if_pos h

theorem foldlM_word {word : List Char} (read : List Char) (before : List Token)
    (h : ∀ c ∈ word, isWordChar c = true) :
    word.foldlM LexState.step ⟨.word read, before⟩
      = some ⟨.word (word.reverse ++ read), before⟩ := by
  induction word generalizing read with
  | nil => rfl
  | cons c rest ih =>
      obtain ⟨hfirst, hrest⟩ := List.forall_mem_cons.1 h
      rw [List.foldlM_cons, step_word read before hfirst, Option.bind_eq_bind, Option.bind_some,
        ih (c :: read) hrest]
      simp

theorem lexes_word {word : List Char} {value : Json} (hne : word ≠ [])
    (hchars : ∀ c ∈ word, isWordChar c = true) (hread : readWord? word = some value) :
    Lexes word [.word value] := by
  intro before
  cases word with
  | nil => exact absurd rfl hne
  | cons c rest =>
      obtain ⟨hfirst, hrest⟩ := List.forall_mem_cons.1 hchars
      refine ⟨⟨.word (rest.reverse ++ [c]), before⟩, ?_, ?_⟩
      · rw [List.foldlM_cons]
        show (LexState.stepBetween ⟨.between, before⟩ c >>= _) = _
        rw [stepBetween_word before hfirst, Option.bind_eq_bind, Option.bind_some,
          foldlM_word [c] before hrest]
      · simp only [LexState.endWord, List.reverse_append, List.reverse_reverse]
        show Option.map _ (readWord? (c :: rest)) = _
        rw [hread]
        rfl

/-! ## Strings -/

theorem hexValue?_digitChar {n : Nat} (h : n < 16) : hexValue? (Nat.digitChar n) = some n := by
  revert n
  decide

/-- What is written for a character inside a string is read as that character. -/
theorem foldlM_escapeChar (c : Char) (read : List Char) (before : List Token) :
    (escapeChar c).foldlM LexState.step ⟨.string (some read), before⟩
      = some ⟨.string (some (c :: read)), before⟩ := by
  unfold escapeChar
  split_ifs with hquote hslash hb ht hn hf hr hcontrol
  · rw [hquote]; rfl
  · rw [hslash]; rfl
  · rw [hb]; rfl
  · rw [ht]; rfl
  · rw [hn]; rfl
  · rw [hf]; rfl
  · rw [hr]; rfl
  · -- Two digits behind two zeros spell the number of the character, which is no surrogate.
    have hhigh : hexValue? (Nat.digitChar (c.toNat / 16)) = some (c.toNat / 16) :=
      hexValue?_digitChar (by omega)
    have hlow : hexValue? (Nat.digitChar (c.toNat % 16)) = some (c.toNat % 16) :=
      hexValue?_digitChar (by omega)
    have hvalue : 16 * (c.toNat / 16) + c.toNat % 16 = c.toNat := Nat.div_add_mod ..
    have hunit : LexMode.afterUnit (some read) c.toNat none = .string (some (c :: read)) := by
      have hsurrogates : ¬ (0xd800 ≤ c.toNat) ∧ ¬ (0xdc00 ≤ c.toNat) := by omega
      simp [LexMode.afterUnit, LexMode.inString, hsurrogates]
    show List.foldlM LexState.step ⟨.unit (some read) 2 0 none, before⟩
      [Nat.digitChar (c.toNat / 16), Nat.digitChar (c.toNat % 16)] = _
    simp [LexState.step, hhigh, hlow, hvalue, hunit]
  · show (LexState.stepString _ _ c >>= _) = _
    rw [LexState.stepString, if_neg hquote, if_neg hslash, if_neg hcontrol]
    rfl

theorem foldlM_escaped (characters read : List Char) (before : List Token) :
    (characters.flatMap escapeChar).foldlM LexState.step ⟨.string (some read), before⟩
      = some ⟨.string (some (characters.reverse ++ read)), before⟩ := by
  induction characters generalizing read with
  | nil => rfl
  | cons c rest ih =>
      rw [List.flatMap_cons, List.foldlM_append, foldlM_escapeChar, Option.bind_eq_bind,
        Option.bind_some, ih]
      simp

theorem closes_renderString (value : String) :
    Closes (renderString value).toList [.string (some value)] := by
  intro before
  rw [renderString, String.toList_ofList, List.cons_append, List.foldlM_cons]
  show (List.foldlM _ _ (value.toList.flatMap escapeChar ++ ['"'])) = _
  rw [List.foldlM_append, foldlM_escaped, List.append_nil]
  show some (LexState.mk .between (.string (some (String.ofList value.toList.reverse.reverse)) ::
    before)) = _
  rw [List.reverse_reverse, String.ofList_toList]
  rfl

/-! ## Numbers -/

theorem isWordChar_of_isNumberChar (h : Decimal.IsNumberChar c) : isWordChar c = true := by
  rcases h with hdigit | hmark
  · obtain ⟨hlow, hhigh⟩ := Decimal.toNat_of_isDigit hdigit
    have halpha : c.isAlphanum = true := by
      have hdigit' : c.isDigit = true := by
        simp only [Char.isDigit, Bool.and_eq_true, decide_eq_true_eq]
        exact ⟨hlow, hhigh⟩
      rw [Char.isAlphanum, hdigit', Bool.or_true]
    rw [isWordChar, halpha]
    rfl
  · simp only [List.mem_cons, List.not_mem_nil, or_false] at hmark
    rcases hmark with rfl | rfl | rfl | rfl | rfl | rfl | rfl | rfl | rfl <;> decide

/-- Digits of a number do not begin with a zero, unless the number is zero. -/
theorem toDigits_head_ne_zero {n : Nat} (hn : n ≠ 0) {rest : List Char} :
    Nat.toDigits 10 n ≠ '0' :: rest := by
  induction n using Nat.strongRecOn generalizing rest with
  | _ n ih =>
      by_cases hsmall : n < 10
      · rw [Nat.toDigits_of_lt_base hsmall]
        intro heq
        have hcode := Nat.toNat_digitChar_of_lt_ten hsmall
        rw [(List.cons.inj heq).1] at hcode
        exact hn (Nat.add_left_cancel (n := 48) hcode.symm)
      · have hsplit : Nat.toDigits 10 n = Nat.toDigits 10 (n / 10) ++ Nat.toDigits 10 (n % 10) := by
          rw [Nat.toDigits_append_toDigits (by decide) (by omega) (by omega), Nat.div_add_mod]
        intro heq
        rw [hsplit] at heq
        cases hfirst : Nat.toDigits 10 (n / 10) with
        | nil => exact Nat.toDigits_ne_nil hfirst
        | cons d digits =>
            rw [hfirst, List.cons_append, List.cons.injEq] at heq
            exact ih (n / 10) (by omega) (by omega) (heq.1 ▸ hfirst)

/-- Digits that a number may begin with: at least one, and no needless zero. -/
structure IsWhole (digits : List Char) : Prop where
  areDigits : ∀ c ∈ digits, Decimal.isDigit c = true
  ne_nil : digits ≠ []
  noNeedlessZero : ∀ d rest, digits ≠ '0' :: d :: rest

theorem isWhole_toDigits (n : Nat) : IsWhole (Nat.toDigits 10 n) where
  areDigits _ hc := Decimal.isDigit_of_mem_toDigits hc
  ne_nil := Nat.toDigits_ne_nil
  noNeedlessZero d rest heq := by
    by_cases hzero : n = 0
    · rw [hzero] at heq
      cases heq
    · exact toDigits_head_ne_zero hzero heq

theorem IsWhole.readNumber? {digits : List Char} (h : IsWhole digits)
    (hfits : Decimal.natOfDigits digits < 1 <<< 64) :
    readNumber? digits = some (int (Int.ofNat (Decimal.natOfDigits digits))) := by
  have htake := List.takeWhile_eq_self_iff.2 h.areDigits
  have hdrop := List.dropWhile_eq_nil_iff.2 h.areDigits
  have hempty : digits.isEmpty = false := List.isEmpty_eq_false_iff.2 h.ne_nil
  -- What the digits do not begin with settles how the number is taken apart.
  have hlead := h.noNeedlessZero
  have hsign : ∀ rest, digits ≠ '-' :: rest := by
    intro rest heq
    exact absurd (h.areDigits '-' (heq ▸ List.mem_cons_self ..)) (by decide)
  unfold Json.readNumber?
  simp only [htake, hdrop, hempty, decide_eq_true hfits, splitFraction?, Decimal.readExponent?,
    Option.bind_eq_bind, Option.bind_some, Bool.or_self, Bool.false_eq_true, if_false, if_true,
    List.isEmpty_nil, Bool.and_self]

theorem IsWhole.readNumber?_minus {digits : List Char} (h : IsWhole digits)
    (hpositive : 0 < Decimal.natOfDigits digits)
    (hfits : Decimal.natOfDigits digits ≤ 1 <<< 63) :
    Json.readNumber? ('-' :: digits) = some (int (-Int.ofNat (Decimal.natOfDigits digits))) := by
  have htake := List.takeWhile_eq_self_iff.2 h.areDigits
  have hdrop := List.dropWhile_eq_nil_iff.2 h.areDigits
  have hempty : digits.isEmpty = false := List.isEmpty_eq_false_iff.2 h.ne_nil
  have hlead := h.noNeedlessZero
  unfold Json.readNumber?
  simp only [htake, hdrop, hempty, decide_eq_true hpositive, decide_eq_true hfits, splitFraction?,
    Decimal.readExponent?, Option.bind_eq_bind, Option.bind_some, Bool.or_self, Bool.false_eq_true,
    if_false, if_true, List.isEmpty_nil, Bool.and_self]

theorem readNumber?_integerText {n : Int} (hlow : -((1 <<< 63 : Nat) : Int) ≤ n)
    (hhigh : n < ((1 <<< 64 : Nat) : Int)) :
    readNumber? (Decimal.integerText n).toList = some (int n) := by
  have hwhole := isWhole_toDigits n.natAbs
  have hvalue := Decimal.natOfDigits_toDigits n.natAbs
  rw [Decimal.integerText, String.toList_ofList]
  by_cases hneg : n < 0
  · have habs : -Int.ofNat n.natAbs = n := by
      show -(n.natAbs : Int) = n
      omega
    rw [if_pos hneg, List.singleton_append, hwhole.readNumber?_minus (by omega) (by omega), hvalue,
      habs]
  · have habs : Int.ofNat n.natAbs = n := by
      show (n.natAbs : Int) = n
      omega
    rw [if_neg hneg, List.nil_append, hwhole.readNumber? (by omega), hvalue, habs]

/-- No constant is a number. -/
theorem readWord?_of_readNumber? {word : List Char} {value : Json}
    (h : readNumber? word = some value) : readWord? word = some value := by
  unfold readWord?
  split_ifs with hnull htrue hfalse
  · rw [hnull] at h; cases h
  · rw [htrue] at h; cases h
  · rw [hfalse] at h; cases h
  · exact h

/-! ## Documents -/

/-- What a scalar has to satisfy for its text to be read as that scalar: integers fit in sixty-four
    bits, and doubles are read back from their digits. -/
def ReadsBack : Json → Prop
  | int n => -((1 <<< 63 : Nat) : Int) ≤ n ∧ n < ((1 <<< 64 : Nat) : Int)
  | float x => readNumber? (renderFloat x).toList = some (float x)
  | unreadable => False
  | _ => True

/-- The text of a document spells every scalar in it. -/
def Legible : Json → Prop := Everywhere ReadsBack

theorem lexes_null : Lexes "null".toList [.word null] :=
  lexes_word (by decide) (List.all_eq_true.1 rfl) rfl

theorem lexes_bool (value : Bool) :
    Lexes (if value then "true" else "false").toList [.word (bool value)] := by
  cases value with
  | true => exact lexes_word (by decide) (List.all_eq_true.1 rfl) rfl
  | false => exact lexes_word (by decide) (List.all_eq_true.1 rfl) rfl

theorem lexes_int {n : Int} (h : ReadsBack (int n)) :
    Lexes (Decimal.integerText n).toList [.word (int n)] := by
  refine lexes_word ?_ ?_ (readWord?_of_readNumber? (readNumber?_integerText h.1 h.2))
  · rw [Decimal.integerText, String.toList_ofList]
    simp [Nat.toDigits_ne_nil]
  · exact fun c hc => isWordChar_of_isNumberChar (Decimal.isNumberChar_of_mem_integerText hc)

theorem lexes_float {x : Float} (h : ReadsBack (float x)) :
    Lexes (renderFloat x).toList [.word (float x)] := by
  refine lexes_word ?_ ?_ (readWord?_of_readNumber? h)
  · intro hnil
    rw [ReadsBack, hnil] at h
    cases h
  · intro c hc
    rw [renderFloat] at hc
    split at hc
    · have hshows := Decimal.documentLayout.showsDouble_text x
      exact isWordChar_of_isNumberChar (hshows.numberChars c hc)
    · exact List.all_eq_true.1 (show "null".toList.all isWordChar = true from rfl) c hc

theorem renderItems_eq (items : List Json) : renderItems items = items.map render := by
  induction items with
  | nil => rw [renderItems, List.map_nil]
  | cons item rest ih => rw [renderItems, List.map_cons, ih]

theorem renderMembers_eq (members : List (String × Json)) :
    renderMembers members
      = members.map fun member => renderString member.1 ++ ":" ++ render member.2 := by
  induction members with
  | nil => rw [renderMembers, List.map_nil]
  | cons member rest ih => rw [renderMembers, List.map_cons, ih]

/-- The lexer finds in the text of a document the tokens of the document. -/
theorem lexes_render {json : Json} (h : json.Legible) : Lexes json.render.toList json.tokens := by
  induction h with
  | @intro json here inside ih =>
      cases json with
      | null => simpa only [render, tokens] using lexes_null
      | bool value => simpa only [render, tokens] using lexes_bool value
      | int n => simpa only [render, tokens] using lexes_int here
      | float x => simpa only [render, tokens] using lexes_float here
      | text value => simpa only [render, tokens] using (closes_renderString value).lexes
      | array items =>
          have hitems : List.Forall₂ Lexes ((renderItems items).map String.toList)
              (tokensOfItems items) := by
            rw [renderItems_eq, tokensOfItems_eq, List.map_map, List.forall₂_map_left_iff,
              List.forall₂_map_right_iff, List.forall₂_same]
            exact ih
          have hclosed := (isMark_openBracket.closes.append_lexes
            (lexes_intercalate isMark_comma hitems)).close isMark_closeBracket
          simpa [render, tokens] using hclosed.lexes
      | object members =>
          have hmembers : List.Forall₂ Lexes ((renderMembers members).map String.toList)
              (tokensOfMembers members) := by
            rw [renderMembers_eq, tokensOfMembers_eq, List.map_map, List.forall₂_map_left_iff,
              List.forall₂_map_right_iff, List.forall₂_same]
            intro member hmember
            have hvalue := ih member.2 (List.mem_map_of_mem hmember)
            simpa [tokensOfMember] using ((closes_renderString member.1).append
              isMark_colon.closes).append_lexes hvalue
          have hclosed := (isMark_openBrace.closes.append_lexes
            (lexes_intercalate isMark_comma hmembers)).close isMark_closeBrace
          simpa [render, tokens] using hclosed.lexes
      | unreadable => exact here.elim

/-- The text of a document consists of the tokens of the document. -/
theorem tokens?_render {json : Json} (h : json.Legible) :
    tokens? json.render.toList = some json.tokens := by
  obtain ⟨last, hrun, hend⟩ := lexes_render h []
  rw [tokens?, hrun, Option.bind_eq_bind, Option.bind_some, hend, Option.bind_some]
  simp

end PulseTimeline.Json
