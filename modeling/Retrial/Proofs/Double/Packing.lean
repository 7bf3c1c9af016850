import Mathlib
import Retrial.Decimal.Binary

/-!
# The parts of a double

A double is computed with by its parts: a sign, a mantissa and an exponent.  What its bits are read
as when it is printed are the same parts (`ofFloat_eq`).  The parts of a finite double are in normal
form (`InForm`), and a double is made of its parts again (`pack_unpack`); parts in the form of a
normal double make the double with these parts (`unpack_pack_normal`).
-/

namespace Retrial.Double

open Float.Model Float.Model.UnpackedFloat
open Decimal (Reading)

variable {s : Sign} {m : Nat} {e : Int}

/-- The parts that a double is computed with. -/
def parts (x : Float) : UnpackedFloat := x.toModel.unpack

/-! ### Bits -/

/-- The exponent's bits as a number. -/
lemma toNat_unpackExponent (b : BitVec Format.binary64.numBits) :
    (unpackExponent b).toNat = b.toNat / 2 ^ 52 % 2048 := by
  unfold unpackExponent
  simp [Nat.shiftRight_eq_div_pow]

/-- The mantissa's bits as a number. -/
lemma toNat_unpackMantissa (b : BitVec Format.binary64.numBits) :
    (unpackMantissa b).toNat = b.toNat % 2 ^ 52 := by
  unfold unpackMantissa
  simp

/-- The sign's bit as a number. -/
lemma toNat_unpackSign (b : BitVec Format.binary64.numBits) :
    (unpackSign b).toNat = b.toNat / 2 ^ 63 := by
  have hlt : b.toNat < 2 ^ 64 := b.isLt
  unfold unpackSign
  simp only [BitVec.toNat_cast, BitVec.extractLsb_toNat, Nat.shiftRight_eq_div_pow]
  exact Nat.mod_eq_of_lt (by omega)

/-- A sign from its bit. -/
lemma ofBitVec_beq_negative (v : BitVec 1) :
    (Sign.ofBitVec v == .negative) = (v.toNat == 1) := by
  revert v
  decide

/-- The sign's bit is the sign. -/
lemma toBitVec_ofBitVec (v : BitVec 1) : (Sign.ofBitVec v).toBitVec = v := by
  revert v
  decide

/-- A leading one before some bits. -/
lemma toNat_one_append {w : Nat} (v : BitVec w) : (1#1 ++ v).toNat = v.toNat + 2 ^ w := by
  rw [BitVec.toNat_append, ← Nat.shiftLeft_add_eq_or_of_lt v.isLt, Nat.shiftLeft_eq]
  simp [Nat.add_comm]

/-- What bits are read as. -/
lemma reading_unpack (b : BitVec Format.binary64.numBits) :
    Reading.ofBits (UInt64.ofBitVec b) =
      match UnpackedFloat.unpack Format.binary64 b with
      | .notANumber => .notANumber
      | .infinity s => .infinite (s == .negative)
      | .zero s => .finite ⟨s == .negative, 0, -1074⟩
      | .finite s m e _ => .finite ⟨s == .negative, m, e⟩ := by
  have hexponent := toNat_unpackExponent b
  have hmantissa := toNat_unpackMantissa b
  have hsign : (Sign.ofBitVec (unpackSign b) == .negative) = (b.toNat / 2 ^ 63 == 1) := by
    rw [ofBitVec_beq_negative, toNat_unpackSign]
  have hbits : (UInt64.ofBitVec b).toNat = b.toNat := rfl
  have hones : unpackExponent b = -1#_ ↔ b.toNat / 2 ^ 52 % 2048 = 2047 := by
    rw [← BitVec.toNat_inj, hexponent]
    rfl
  have hzeros : unpackExponent b = 0#_ ↔ b.toNat / 2 ^ 52 % 2048 = 0 := by
    rw [← BitVec.toNat_inj, hexponent]
    rfl
  have hnothing : unpackMantissa b = 0#_ ↔ b.toNat % 2 ^ 52 = 0 := by
    rw [← BitVec.toNat_inj, hmantissa]
    rfl
  have hbias : (Format.binary64.exponentBias : Int) = 1023 := rfl
  have hwidth : (Format.binary64.mantissaBitsWithoutImplicit : Int) = 52 := rfl
  unfold Reading.ofBits UnpackedFloat.unpack
  simp only [hbits, beq_iff_eq, Nat.pow_eq, hones, hzeros, hnothing]
  split_ifs with h1 h2 h3 h4
  · simp [hsign]
  · rfl
  · simp [hsign, show b.toNat % 4503599627370496 = 0 from h4]
  · simp only [hmantissa, hexponent, h3, hsign, hbias, hwidth]
    rfl
  · simp only [toNat_one_append, hmantissa, hexponent, hsign, hbias, hwidth]
    rfl

/-- The bits of a double are read as its parts. -/
theorem ofFloat_eq (x : Float) :
    Reading.ofFloat x =
      match parts x with
      | .notANumber => .notANumber
      | .infinity s => .infinite (s == .negative)
      | .zero s => .finite ⟨s == .negative, 0, -1074⟩
      | .finite s m e _ => .finite ⟨s == .negative, m, e⟩ :=
  reading_unpack x.toModel.toBits.toBitVec

/-! ### Forms -/

/-- The mantissa and the exponent of a finite double. -/
structure InForm (m : Nat) (e : Int) : Prop where
  pos : 0 < m
  lt : m < 2 ^ 53
  low : -1074 ≤ e
  high : e ≤ 971
  normal : 2 ^ 52 ≤ m ∨ e = -1074

/-- The parts of bits that stand for a finite number: the leading one is there unless the exponent's
bits are nothing. -/
lemma unpack_eq_finite {b : BitVec Format.binary64.numBits} {h : 0 < m}
    (hb : UnpackedFloat.unpack Format.binary64 b = .finite s m e h) :
    s = Sign.ofBitVec (unpackSign b) ∧
      (b.toNat / 2 ^ 52 % 2048 = 0 ∧ m = b.toNat % 2 ^ 52 ∧ e = -1074 ∨
        0 < b.toNat / 2 ^ 52 % 2048 ∧ b.toNat / 2 ^ 52 % 2048 < 2047 ∧
          m = b.toNat % 2 ^ 52 + 2 ^ 52 ∧ e = (b.toNat / 2 ^ 52 % 2048 : Nat) - 1075) := by
  have hexponent := toNat_unpackExponent b
  have hmantissa := toNat_unpackMantissa b
  have hones : unpackExponent b = -1#_ ↔ b.toNat / 2 ^ 52 % 2048 = 2047 := by
    rw [← BitVec.toNat_inj, hexponent]
    rfl
  have hzeros : unpackExponent b = 0#_ ↔ b.toNat / 2 ^ 52 % 2048 = 0 := by
    rw [← BitVec.toNat_inj, hexponent]
    rfl
  have hbias : (Format.binary64.exponentBias : Int) = 1023 := rfl
  unfold UnpackedFloat.unpack at hb
  simp only at hb
  split_ifs at hb with h1 h2 h3 h4
  · simp only [UnpackedFloat.finite.injEq, hmantissa, h3, hbias] at hb
    obtain ⟨rfl, rfl, rfl⟩ := hb
    exact ⟨rfl, .inl ⟨hzeros.mp h3, rfl, rfl⟩⟩
  · simp only [UnpackedFloat.finite.injEq, toNat_one_append, hmantissa, hexponent, hbias] at hb
    obtain ⟨rfl, rfl, rfl⟩ := hb
    rw [hones] at h1
    rw [hzeros] at h3
    have hfull : b.toNat / 2 ^ 52 % 2048 < 2048 := Nat.mod_lt _ (by decide)
    exact ⟨rfl, .inr ⟨by omega, by omega, rfl, by omega⟩⟩

/-- Bits that stand for a finite number stand for one in form. -/
lemma inForm_of_unpack {b : BitVec Format.binary64.numBits} {h : 0 < m}
    (hb : UnpackedFloat.unpack Format.binary64 b = .finite s m e h) : InForm m e := by
  have hlt : b.toNat % 2 ^ 52 < 2 ^ 52 := Nat.mod_lt _ (by decide)
  rcases (unpack_eq_finite hb).2 with ⟨-, hm, he⟩ | ⟨hpos, hfull, hm, he⟩
  · exact ⟨h, by omega, by omega, by omega, .inr he⟩
  · exact ⟨h, by omega, by omega, by omega, .inl (by omega)⟩

/-- The parts of a finite double are in form. -/
lemma inForm_of_parts {x : Float} {h : 0 < m} (hx : parts x = .finite s m e h) : InForm m e :=
  inForm_of_unpack hx

/-! ### Making doubles -/

/-- The parts of what parts make. -/
lemma parts_pack (u : UnpackedFloat) :
    parts ⟨Float.Model.pack u⟩ =
      UnpackedFloat.unpack Format.binary64 (UnpackedFloat.pack Format.binary64 u) := rfl

/-- Three groups of bits as a number. -/
lemma toNat_packComponents (e : BitVec Format.binary64.exponentBits)
    (v : BitVec Format.binary64.mantissaBitsWithoutImplicit) :
    (packComponents Format.binary64 s e v).toNat =
      s.toBitVec.toNat * 2 ^ 63 + e.toNat * 2 ^ 52 + v.toNat := by
  unfold packComponents
  rw [BitVec.toNat_append, ← Nat.shiftLeft_add_eq_or_of_lt v.isLt, BitVec.toNat_append,
    ← Nat.shiftLeft_add_eq_or_of_lt e.isLt, Nat.shiftLeft_eq, Nat.shiftLeft_eq]
  ring

/-- The sign's bit among three groups of bits. -/
lemma unpackSign_packComponents (e : BitVec Format.binary64.exponentBits)
    (v : BitVec Format.binary64.mantissaBitsWithoutImplicit) :
    Sign.ofBitVec (unpackSign (packComponents Format.binary64 s e v)) = s := by
  have he : e.toNat < 2 ^ 11 := e.isLt
  have hv : v.toNat < 2 ^ 52 := v.isLt
  have hs : unpackSign (packComponents Format.binary64 s e v) = s.toBitVec := by
    refine BitVec.eq_of_toNat_eq ?_
    rw [toNat_unpackSign, toNat_packComponents]
    omega
  rw [hs]
  cases s <;> rfl

/-- Bits are made of their sign, exponent and mantissa. -/
lemma packComponents_unpack (b : BitVec Format.binary64.numBits) :
    packComponents Format.binary64 (Sign.ofBitVec (unpackSign b)) (unpackExponent b)
      (unpackMantissa b) = b := by
  have hlt : b.toNat < 2 ^ 64 := b.isLt
  refine BitVec.eq_of_toNat_eq ?_
  rw [toNat_packComponents, toBitVec_ofBitVec, toNat_unpackSign, toNat_unpackExponent,
    toNat_unpackMantissa]
  omega

/-- A finite number in form has the bits of its sign, of its exponent above the least and of its
mantissa without the leading one. -/
lemma pack_finite (h : 0 < m) (hform : InForm m e) :
    UnpackedFloat.pack Format.binary64 (.finite s m e h) =
      packComponents Format.binary64 s
        (if 2 ^ 52 ≤ m then BitVec.ofNat 11 (e + 1075).toNat else 0#11) (BitVec.ofNat 52 m) := by
  have hlow := hform.low
  have hhigh := hform.high
  have hlt := hform.lt
  have hbiased : (e + (Format.binary64.exponentBias : Int) +
      (Format.binary64.mantissaBitsWithoutImplicit : Int)).toNat = (e + 1075).toNat := by
    have hbias : (Format.binary64.exponentBias : Int) = 1023 := rfl
    simp only [hbias]
    congr 1
    omega
  have hroom : ¬ 2 ^ Format.binary64.exponentBits ≤ (e + 1075).toNat + 1 := by
    simp only [not_le]
    omega
  have hnormal : m.log2 + 1 = Format.binary64.mantissaBits ↔ 2 ^ 52 ≤ m := by
    have hbits : Format.binary64.mantissaBits = 53 := rfl
    rw [hbits, ← Nat.le_log2 h.ne']
    have hlog : m.log2 < 53 := (Nat.log2_lt h.ne').mpr hlt
    omega
  unfold UnpackedFloat.pack
  simp only [hbiased, if_neg hroom, hnormal]
  split_ifs <;> rfl

/-- A finite number in form is the parts of the double that it makes. -/
theorem parts_pack_finite (h : 0 < m) (hform : InForm m e) :
    parts ⟨Float.Model.pack (.finite s m e h)⟩ = .finite s m e h := by
  have hlow := hform.low
  have hhigh := hform.high
  have hlt := hform.lt
  have hbias : (Format.binary64.exponentBias : Int) = 1023 := rfl
  rw [parts_pack, pack_finite h hform]
  unfold UnpackedFloat.unpack
  simp only [unpackExponent_packComponents, unpackMantissa_packComponents,
    unpackSign_packComponents]
  have hmantissa : (BitVec.ofNat 52 m).toNat = m % 2 ^ 52 := BitVec.toNat_ofNat ..
  by_cases hfull : 2 ^ 52 ≤ m
  · have hexponent : (BitVec.ofNat 11 (e + 1075).toNat).toNat = (e + 1075).toNat := by
      rw [BitVec.toNat_ofNat]
      omega
    have hones : BitVec.ofNat 11 (e + 1075).toNat ≠ -1#11 := by
      rw [Ne, ← BitVec.toNat_inj, hexponent]
      simp only [BitVec.reduceNeg, BitVec.reduceToNat]
      omega
    have hzeros : BitVec.ofNat 11 (e + 1075).toNat ≠ 0#11 := by
      rw [Ne, ← BitVec.toNat_inj, hexponent]
      simp only [BitVec.reduceToNat]
      omega
    simp only [if_pos hfull]
    rw [if_neg hones, if_neg hzeros]
    simp only [UnpackedFloat.finite.injEq, toNat_one_append, hmantissa, hexponent, hbias, true_and]
    omega
  · have hleast : e = -1074 := hform.normal.resolve_left hfull
    have hsmall : m % 2 ^ 52 = m := Nat.mod_eq_of_lt (by omega)
    have hsome : BitVec.ofNat 52 m ≠ 0#52 := by
      rw [Ne, ← BitVec.toNat_inj, hmantissa, hsmall]
      exact h.ne'
    simp only [if_neg hfull]
    rw [if_neg (by decide), if_pos trivial, dif_neg hsome]
    simp only [UnpackedFloat.finite.injEq, hmantissa, hsmall, hbias, true_and]
    rw [hleast]
    rfl

/-- Bits that stand for a finite number are made of its parts. -/
lemma pack_of_unpack_finite {b : BitVec Format.binary64.numBits} {h : 0 < m}
    (hb : UnpackedFloat.unpack Format.binary64 b = .finite s m e h) :
    UnpackedFloat.pack Format.binary64 (.finite s m e h) = b := by
  obtain ⟨hs, hcases⟩ := unpack_eq_finite hb
  have hlt : b.toNat % 2 ^ 52 < 2 ^ 52 := Nat.mod_lt _ (by decide)
  have hmantissa : BitVec.ofNat 52 m = unpackMantissa b := by
    refine BitVec.eq_of_toNat_eq ?_
    rw [BitVec.toNat_ofNat, toNat_unpackMantissa]
    omega
  have hexponent : (if 2 ^ 52 ≤ m then BitVec.ofNat 11 (e + 1075).toNat else 0#11) =
      unpackExponent b := by
    refine BitVec.eq_of_toNat_eq ?_
    rw [toNat_unpackExponent]
    split_ifs with hfull
    · rw [BitVec.toNat_ofNat]
      omega
    · rw [BitVec.toNat_ofNat]
      omega
  rw [pack_finite h (inForm_of_unpack hb), hexponent, hmantissa, hs, packComponents_unpack]

/-- A double is made of its parts. -/
theorem pack_parts (x : Float) : (⟨Float.Model.pack (parts x)⟩ : Float) = x := by
  obtain ⟨⟨bits, hvalid⟩⟩ := x
  have hpack : UnpackedFloat.pack Format.binary64
      (UnpackedFloat.unpack Format.binary64 bits.toBitVec) = bits.toBitVec := by
    have hmade := packComponents_unpack bits.toBitVec
    generalize hu : UnpackedFloat.unpack Format.binary64 bits.toBitVec = u
    cases u with
    | finite s m e h => exact pack_of_unpack_finite hu
    | _ =>
      unfold UnpackedFloat.unpack at hu
      simp only at hu
      split_ifs at hu with h1 h2 h3 h4
      first
        | exact (hvalid.eq_packedNaN h1 h2).symm
        | (simp only [UnpackedFloat.infinity.injEq] at hu
           rw [← hu]
           rwa [h1, h2] at hmade)
        | (simp only [UnpackedFloat.zero.injEq] at hu
           rw [← hu]
           rwa [h3, h4] at hmade)
  unfold parts Float.Model.unpack Float.Model.pack
  simp only [hpack]

/-- Bits that stand for no number have an exponent of ones before some mantissa. -/
lemma of_unpack_eq_notANumber {b : BitVec Format.binary64.numBits}
    (hb : UnpackedFloat.unpack Format.binary64 b = .notANumber) :
    unpackExponent b = -1#_ ∧ unpackMantissa b ≠ 0#_ := by
  unfold UnpackedFloat.unpack at hb
  simp only at hb
  split_ifs at hb with h1 h2
  exact ⟨h1, h2⟩

/-- What is a number makes a double that is one. -/
theorem parts_pack_ne_notANumber {u : UnpackedFloat} (hu : u ≠ .notANumber) :
    parts ⟨Float.Model.pack u⟩ ≠ .notANumber := by
  rw [parts_pack]
  intro hb
  obtain ⟨hones, hsome⟩ := of_unpack_eq_notANumber hb
  revert hones hsome
  fun_cases UnpackedFloat.pack Format.binary64 u with
  | case1 => exact absurd rfl hu
  | case2 s => simp [packedInfinity]
  | case3 s => simp [packedZero]
  | case4 s m e h biased hover => simp [packedInfinity]
  | case5 s m e h bits biased hroom hbits =>
    intro hones
    have hwidth : 2 ^ Format.binary64.exponentBits = 2048 := rfl
    rw [hwidth] at hroom
    have hexponent := congrArg BitVec.toNat hones
    rw [unpackExponent_packComponents, BitVec.toNat_ofNat] at hexponent
    simp only [BitVec.reduceNeg, BitVec.reduceToNat] at hexponent
    omega
  | case6 s m e h bits biased hroom hbits => simp

end Retrial.Double
