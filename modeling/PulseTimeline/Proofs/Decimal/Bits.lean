import Mathlib
import PulseTimeline.Decimal.Binary64

set_option autoImplicit false

/-! # The codes of doubles

The bits of a double without its sign are a natural number, its code. The codes up to that of
infinity are in the order of the doubles that they stand for; what lies beyond is no number.
`ofFloat_ofCode` says what the codes stand for, and `exists_code` that every double but the one that
is no number has a code. -/

namespace PulseTimeline.Binary64

open Float.Model UnpackedFloat

/-! ## Words of bits

The bits of a double are unpacked when it is made of them, and packed again when they are asked for.
All that is lost on the way is the payload of what is no number. -/

theorem toNat_unpackMantissa (bits : BitVec Format.binary64.numBits) :
    (unpackMantissa bits).toNat = bits.toNat % 2 ^ 52 := by
  simp [unpackMantissa]

theorem toNat_unpackExponent (bits : BitVec Format.binary64.numBits) :
    (unpackExponent bits).toNat = bits.toNat / 2 ^ 52 % 2 ^ 11 := by
  simp [unpackExponent, Nat.shiftRight_eq_div_pow]

theorem toNat_unpackSign (bits : BitVec Format.binary64.numBits) :
    (unpackSign bits).toNat = bits.toNat / 2 ^ 63 % 2 := by
  simp [unpackSign, Nat.shiftRight_eq_div_pow]

theorem toNat_packComponents (sign : Sign) (exponent : BitVec 11) (mantissa : BitVec 52) :
    (packComponents Format.binary64 sign exponent mantissa).toNat
      = sign.toBitVec.toNat * 2 ^ 63 + exponent.toNat * 2 ^ 52 + mantissa.toNat := by
  show (sign.toBitVec ++ exponent ++ mantissa).toNat = _
  rw [BitVec.toNat_append, BitVec.toNat_append, ← Nat.shiftLeft_add_eq_or_of_lt exponent.isLt,
    ← Nat.shiftLeft_add_eq_or_of_lt mantissa.isLt, Nat.shiftLeft_eq, Nat.shiftLeft_eq]
  omega

theorem toBitVec_ofBitVec (bit : BitVec 1) : (Sign.ofBitVec bit).toBitVec = bit := by
  revert bit
  decide

/-- A word is made of its sign, its exponent and its mantissa. -/
theorem packComponents_unpacked (bits : BitVec Format.binary64.numBits) :
    packComponents .binary64 (.ofBitVec (unpackSign bits)) (unpackExponent bits)
      (unpackMantissa bits) = bits := by
  refine BitVec.eq_of_toNat_eq ?_
  have hlt : bits.toNat < 2 ^ 64 := bits.isLt
  rw [toNat_packComponents, toBitVec_ofBitVec, toNat_unpackSign, toNat_unpackExponent,
    toNat_unpackMantissa]
  omega

theorem pack_subnormal (sign : Sign) {m : Nat} (hpos : 0 < m) (hm : m < 2 ^ 52) :
    UnpackedFloat.pack .binary64 (.finite sign m (-1074) hpos)
      = packComponents .binary64 sign 0#11 (BitVec.ofNat 52 m) := by
  have hlog : m.log2 < 52 := (Nat.log2_lt (Nat.ne_of_gt hpos)).2 hm
  have hbits : ¬m.log2 + 1 = Format.binary64.mantissaBits := by
    show ¬m.log2 + 1 = 53
    omega
  rw [UnpackedFloat.pack]
  exact (if_neg (by decide)).trans (if_neg hbits)

theorem pack_normal (sign : Sign) {m biased : Nat} (hpos : 0 < m) (hlow : 2 ^ 52 ≤ m)
    (hhigh : m < 2 ^ 53) (hbiased : biased < 2047) :
    UnpackedFloat.pack .binary64 (.finite sign m (biased - 1075) hpos)
      = packComponents .binary64 sign (BitVec.ofNat 11 biased) (BitVec.ofNat 52 m) := by
  have hlog : m.log2 + 1 = 53 :=
    congrArg (· + 1) ((Nat.log2_eq_iff (Nat.ne_of_gt hpos)).2 ⟨hlow, hhigh⟩)
  have hexponent : ((biased - 1075 : Int) + 1023 + 52).toNat = biased := by omega
  show (if 2048 ≤ ((biased - 1075 : Int) + 1023 + 52).toNat + 1 then packedInfinity .binary64 sign
    else if m.log2 + 1 = 53 then
      packComponents .binary64 sign (BitVec.ofNat 11 ((biased - 1075 : Int) + 1023 + 52).toNat)
        (BitVec.ofNat 52 m)
    else packComponents .binary64 sign 0#11 (BitVec.ofNat 52 m)) = _
  rw [hexponent, if_neg (by omega), if_pos hlog]

/-- Bits that do not say that there is no number are kept. -/
theorem pack_unpack {bits : BitVec Format.binary64.numBits}
    (h : unpackExponent bits = -1#11 → unpackMantissa bits = 0#52) :
    UnpackedFloat.pack .binary64 (UnpackedFloat.unpack .binary64 bits) = bits := by
  have hwhole := packComponents_unpacked bits
  have hmantissa : (unpackMantissa bits).toNat < 2 ^ 52 := (unpackMantissa bits).isLt
  have hexponent : (unpackExponent bits).toNat < 2 ^ 11 := (unpackExponent bits).isLt
  have hmantissaBits : BitVec.ofNat 52 (unpackMantissa bits).toNat = unpackMantissa bits := by simp
  have hexponentBits : BitVec.ofNat 11 (unpackExponent bits).toNat = unpackExponent bits := by simp
  unfold UnpackedFloat.unpack
  dsimp only
  split
  · next hones =>
      -- an infinity
      rw [if_pos (h hones)]
      show packComponents _ _ (-1#11) 0#52 = bits
      rwa [← hones, ← h hones]
  · next hones =>
      split
      · next hzero =>
          split
          · next hnone =>
              show packComponents _ _ 0#11 0#52 = bits
              rwa [← hzero, ← hnone]
          · rw [hzero]
            exact (pack_subnormal _ _ hmantissa).trans (by rwa [hmantissaBits, ← hzero])
      · have hle : (unpackExponent bits).toNat ≠ 2047 := fun heq =>
          hones (BitVec.eq_of_toNat_eq heq)
        -- The first bit of a normal significand is not stored.
        have hsignificand : (1#1 ++ unpackMantissa bits).toNat
            = 2 ^ 52 + (unpackMantissa bits).toNat := by
          rw [BitVec.toNat_append, ← Nat.shiftLeft_add_eq_or_of_lt hmantissa]
          rfl
        have hstored : BitVec.ofNat 52 (1#1 ++ unpackMantissa bits).toNat
            = unpackMantissa bits := by
          refine BitVec.eq_of_toNat_eq ?_
          rw [BitVec.toNat_ofNat, hsignificand]
          omega
        refine (pack_normal _ _ ?_ ?_ ?_).trans (by rwa [hstored, hexponentBits])
        · omega
        · omega
        · omega

/-- All bits of the exponent and some of the mantissa say that there is no number. -/
theorem isNaN_unpack {bits : BitVec Format.binary64.numBits}
    (hexponent : bits.toNat / 2 ^ 52 % 2 ^ 11 = 2047) (hmantissa : bits.toNat % 2 ^ 52 ≠ 0) :
    (UnpackedFloat.unpack .binary64 bits).isNaN = true := by
  have hones : unpackExponent bits = -1#11 :=
    BitVec.eq_of_toNat_eq ((toNat_unpackExponent bits).trans hexponent)
  have hsome : unpackMantissa bits ≠ 0#52 := fun hzero =>
    hmantissa ((toNat_unpackMantissa bits).symm.trans (congrArg BitVec.toNat hzero))
  unfold UnpackedFloat.unpack
  dsimp only
  rw [if_pos hones, if_neg hsome]
  rfl

theorem toBits_ofBits {bits : UInt64} (h : bits.toNat % 2 ^ 63 ≤ 2047 * 2 ^ 52) :
    (Float.ofBits bits).toBits = bits := by
  refine UInt64.toBitVec_inj.1 (pack_unpack fun hones => BitVec.eq_of_toNat_eq ?_)
  have hexponent : bits.toNat / 2 ^ 52 % 2 ^ 11 = 2047 :=
    (toNat_unpackExponent bits.toBitVec).symm.trans (congrArg BitVec.toNat hones)
  rw [toNat_unpackMantissa]
  show bits.toNat % 2 ^ 52 = 0
  omega

/-! ## Codes -/

/-- The code of infinity. -/
def infinityCode : Nat := 2047 * 2 ^ 52

/-- The bit of a sign. -/
def signBit (negative : Bool) : Nat := if negative then 2 ^ 63 else 0

/-- The double with a sign and a code. -/
def ofCode (negative : Bool) (code : Nat) : Float :=
  Float.ofBits (UInt64.ofNat (signBit negative + code))

theorem signBit_cases (negative : Bool) :
    negative = false ∧ signBit negative = 0 ∨ negative = true ∧ signBit negative = 2 ^ 63 := by
  cases negative <;> decide

theorem toNat_toBits_ofCode (negative : Bool) {code : Nat} (h : code ≤ infinityCode) :
    (ofCode negative code).toBits.toNat = signBit negative + code := by
  have hinfinity : infinityCode = 2047 * 2 ^ 52 := rfl
  have hsign := signBit_cases negative
  have hnat : (UInt64.ofNat (signBit negative + code)).toNat = signBit negative + code :=
    UInt64.toNat_ofNat_of_lt' (show signBit negative + code < 2 ^ 64 by omega)
  rw [ofCode, toBits_ofBits (by omega), hnat]

/-- What the codes of doubles stand for. -/
theorem ofFloat_ofCode (negative : Bool) {code : Nat} (h : code ≤ infinityCode) :
    ofFloat (ofCode negative code) =
      if code = infinityCode then .infinite negative
      else if code < 2 ^ 52 then .finite negative code (-1074)
      else .finite negative (2 ^ 52 + code % 2 ^ 52) (Int.ofNat (code / 2 ^ 52) - 1075) := by
  have hinfinity : infinityCode = 2047 * 2 ^ 52 := rfl
  have hsign := signBit_cases negative
  have hbits := toNat_toBits_ofCode negative h
  have hnegative : ((signBit negative + code) >>> 63 == 1) = negative := by
    rw [Nat.shiftRight_eq_div_pow]
    rcases hsign with ⟨rfl, hbit⟩ | ⟨rfl, hbit⟩
    · rw [beq_eq_false_iff_ne]
      omega
    · rw [beq_iff_eq]
      omega
  have hbiased : (signBit negative + code) >>> 52 % (1 <<< 11) = code / 2 ^ 52 := by
    rw [Nat.shiftRight_eq_div_pow]
    show _ % 2 ^ 11 = _
    omega
  have hfraction : (signBit negative + code) % (1 <<< 52) = code % 2 ^ 52 := by
    show _ % 2 ^ 52 = _
    omega
  simp only [ofFloat, hbits, hnegative, hbiased, hfraction]
  by_cases hinf : code = infinityCode
  · rw [if_pos hinf, if_pos (by omega), if_pos (by omega)]
  · rw [if_neg hinf, if_neg (by omega)]
    by_cases hsmall : code < 2 ^ 52
    · rw [if_pos hsmall, if_pos (by omega), Nat.mod_eq_of_lt hsmall]
    · rw [if_neg hsmall, if_neg (by omega)]
      rfl

theorem toBits_inj {x y : Float} (h : x.toBits = y.toBits) : x = y := by
  obtain ⟨⟨bits, hvalid⟩⟩ := x
  obtain ⟨⟨others, hothers⟩⟩ := y
  cases (h : bits = others)
  rfl

/-- Every double but the one that is no number has a code. -/
theorem exists_code {x : Float} (h : ofFloat x ≠ .nan) :
    ∃ negative code, code ≤ infinityCode ∧ x = ofCode negative code := by
  have hinfinity : infinityCode = 2047 * 2 ^ 52 := rfl
  have hlt : x.toBits.toNat < 2 ^ 64 := x.toBits.toNat_lt
  have hcode : x.toBits.toNat % 2 ^ 63 ≤ infinityCode := by
    -- The bits beyond the code of infinity say that there is no number.
    refine Nat.not_lt.1 fun hbeyond => h ?_
    have hbiased : x.toBits.toNat >>> 52 % (1 <<< 11) = 2047 := by
      rw [Nat.shiftRight_eq_div_pow]
      show _ % 2 ^ 11 = _
      omega
    have hfraction : x.toBits.toNat % (1 <<< 52) ≠ 0 := by
      show _ % 2 ^ 52 ≠ _
      omega
    simp only [ofFloat, if_pos hbiased, if_neg hfraction]
  refine ⟨decide (2 ^ 63 ≤ x.toBits.toNat), x.toBits.toNat % 2 ^ 63, hcode, ?_⟩
  have hwhole : signBit (decide (2 ^ 63 ≤ x.toBits.toNat)) + x.toBits.toNat % 2 ^ 63
      = x.toBits.toNat := by
    by_cases hnegative : 2 ^ 63 ≤ x.toBits.toNat
    · rw [decide_eq_true hnegative, signBit, if_pos rfl]
      omega
    · rw [decide_eq_false hnegative, signBit, if_neg Bool.false_ne_true]
      omega
  rw [ofCode, hwhole, UInt64.ofNat_toNat]
  exact toBits_inj (toBits_ofBits hcode).symm

/-! ## What is finite and what is not -/

theorem ofFloat_ne_nan {x : Float} (h : x.isNaN = false) : ofFloat x ≠ .nan := by
  intro hnan
  unfold ofFloat at hnan
  dsimp only at hnan
  split at hnan
  · next hbiased =>
      split at hnan
      · cases hnan
      · next hfraction =>
          rw [Nat.shiftRight_eq_div_pow] at hbiased
          exact absurd ((isNaN_unpack hbiased hfraction).symm.trans h) (by decide)
  · split at hnan <;> cases hnan

/-- The significand and the exponent of a finite double: fifty-three bits, or fewer at the least
    exponent. -/
structure Canonical (m : Nat) (q : Int) : Prop where
  lt : m < 2 ^ 53
  least : -1074 ≤ q
  greatest : q ≤ 971
  normal : q = -1074 ∨ 2 ^ 52 ≤ m

theorem ofCode_of_ofFloat_eq_infinite {x : Float} {negative : Bool}
    (h : ofFloat x = .infinite negative) : x = ofCode negative infinityCode := by
  obtain ⟨sign, code, hcode, rfl⟩ := exists_code (by rw [h]; nofun)
  rw [ofFloat_ofCode sign hcode] at h
  by_cases hinf : code = infinityCode
  · simp_all
  · rw [if_neg hinf] at h
    split at h <;> cases h

/-- A finite double has the code that its significand and its exponent give. -/
theorem ofCode_of_ofFloat_eq_finite {x : Float} {negative : Bool} {m : Nat} {q : Int}
    (h : ofFloat x = .finite negative m q) :
    x = ofCode negative ((q + 1074).toNat * 2 ^ 52 + m) ∧ Canonical m q := by
  have hinfinity : infinityCode = 2047 * 2 ^ 52 := rfl
  obtain ⟨sign, code, hcode, rfl⟩ := exists_code (by rw [h]; nofun)
  rw [ofFloat_ofCode sign hcode] at h
  by_cases hinf : code = infinityCode
  · simp [hinf] at h
  · rw [if_neg hinf] at h
    by_cases hsmall : code < 2 ^ 52
    · rw [if_pos hsmall] at h
      cases h
      exact ⟨by norm_num, by omega, le_rfl, by omega, Or.inl rfl⟩
    · rw [if_neg hsmall, Int.ofNat_eq_natCast] at h
      cases h
      refine ⟨congrArg _ ?_, ?_, ?_, ?_, Or.inr ?_⟩
      all_goals omega

end PulseTimeline.Binary64
