import Retrial.Proofs.Double.Rounding
import Retrial.Json.Number

/-!
# Computing with doubles

The double of a positive natural number, and the quotient of two doubles of ordinary size, are what
the exact number rounds to (`parts_ofNat`, `parts_div`).  Natural numbers of 53 bits and the powers
of ten up to the 22nd are doubles themselves; so a decimal with few digits and places is read by one
division as the double that it rounds to (`div_powerOfTen_eq`).  With more digits it is read as one
that is close to it (`div_powerOfTen_near`).
-/

namespace Retrial.Double

open Float.Model Float.Model.UnpackedFloat
open Decimal (Reading)

variable {s : Sign} {m m' : Nat} {e e' : Int} {v : ℚ}

/-! ### Natural numbers -/

/-- Rounding a positive mantissa of any number of bits gives what its value rounds to. -/
lemma round_normal {q : Nat} (hpos : 0 < q) (hlow : -1022 ≤ e) (hhigh : e + q.log2 ≤ 1000) :
    ∃ m e' h, UnpackedFloat.round Format.binary64 s q e = .finite s m e' h ∧
      RoundsTo (q * 2 ^ e) m e' ∧ e + q.log2 - 52 ≤ e' ∧ e' ≤ e + q.log2 - 51 := by
  have hleast : 2 ^ q.log2 ≤ q := Nat.log2_self_le hpos.ne'
  have hmost : q < 2 ^ (q.log2 + 1) := Nat.lt_log2_self
  have htarget : Format.binary64.targetExponent (totalExponent q e) = q.log2 + e - 52 := by
    unfold Format.targetExponent totalExponent
    have hbits : Format.binary64.mantissaBits = 53 := rfl
    have hleast : Format.binary64.minExponent = -1074 := rfl
    rw [hbits, hleast]
    omega
  have hshift : (e - (q.log2 + e - 52)).toNat = 52 - q.log2 := by omega
  have hround : UnpackedFloat.round Format.binary64 s q e =
      roundWithAccuracy Format.binary64 s (q * 2 ^ (52 - q.log2)) (e - (52 - q.log2 : Nat))
        .exact := by
    unfold UnpackedFloat.round decreaseExponent
    simp only [htarget, hshift, Nat.shiftLeft_eq]
  have hlarge : 2 ^ (q.log2 + (52 - q.log2)) ≤ q * 2 ^ (52 - q.log2) := by
    rw [pow_add]
    exact Nat.mul_le_mul_right _ hleast
  have hsmall : q * 2 ^ (52 - q.log2) < 2 ^ (q.log2 + (52 - q.log2) + 1) := by
    rw [Nat.add_right_comm, pow_add]
    exact Nat.mul_lt_mul_of_pos_right hmost (Nat.two_pow_pos _)
  have hfull : 2 ^ 52 ≤ q * 2 ^ (52 - q.log2) :=
    le_trans (Nat.pow_le_pow_right (by norm_num) (by omega)) hlarge
  have hbits : (q * 2 ^ (52 - q.log2)).log2 = q.log2 + (52 - q.log2) :=
    le_antisymm (Nat.lt_succ_iff.mp ((Nat.log2_lt (by omega)).mpr hsmall))
      ((Nat.le_log2 (by omega)).mpr hlarge)
  have hstands : Stands (ExtendedMantissa.ofMantissaAndAccuracy (q * 2 ^ (52 - q.log2)) .exact)
      (q * 2 ^ e / 2 ^ (e - (52 - q.log2 : Nat))) := by
    simp only [Stands, ExtendedMantissa.ofMantissaAndAccuracy]
    rw [zpow_sub₀ (by norm_num), zpow_natCast]
    push_cast
    field_simp
  obtain ⟨m, e', h, hmade, hto, hfrom, hupto⟩ :=
    roundWithAccuracy_normal (s := s) hfull (by omega) (by omega) hstands
  exact ⟨m, e', h, hround.trans hmade, hto, by omega, by omega⟩

/-- The double of a positive natural number is what it rounds to. -/
theorem parts_ofNat {n : Nat} (hpos : 0 < n) (hn : n < 2 ^ 64) :
    ∃ m e h, parts n.toUInt64.toFloat = .finite .positive m e h ∧ RoundsTo n m e ∧ -52 ≤ e ∧
      e ≤ 12 := by
  have hlog : n.log2 < 64 := (Nat.log2_lt hpos.ne').mpr hn
  have hsame : n.toUInt64.toNat = n := Nat.mod_eq_of_lt hn
  have hfloat : n.toUInt64.toFloat =
      (⟨Float.Model.pack (UnpackedFloat.round Format.binary64 .positive n 0)⟩ : Float) := by
    have hcompare : compare (n : Int) 0 = .gt := by
      rw [Int.compare_eq_gt]
      exact_mod_cast hpos
    have hround : UnpackedFloat.ofNat Format.binary64 n =
        UnpackedFloat.round Format.binary64 .positive n 0 := by
      unfold UnpackedFloat.ofNat UnpackedFloat.ofInt UnpackedFloat.normalize
      simp only [hcompare, Int.toNat_natCast]
    have hmodel : n.toUInt64.toFloat =
        (⟨Float.Model.pack (UnpackedFloat.ofNat Format.binary64 n.toUInt64.toNat)⟩ : Float) := rfl
    rw [hmodel, hsame, hround]
  obtain ⟨m, e, h, hround, hto, hfrom, hupto⟩ :=
    round_normal (s := .positive) (e := 0) hpos (by omega) (by omega)
  rw [zpow_zero, mul_one] at hto
  refine ⟨m, e, h, ?_, hto, by omega, by omega⟩
  rw [hfloat, hround, parts_pack_finite h hto.inForm]

/-- The double of a positive natural number of at most 53 bits is that number. -/
theorem parts_ofNat_exact {n : Nat} (hpos : 0 < n) (hn : n < 2 ^ 53) :
    ∃ m e h, parts n.toUInt64.toFloat = .finite .positive m e h ∧ (m : ℚ) * 2 ^ e = n ∧
      2 ^ 52 ≤ m ∧ -52 ≤ e ∧ e ≤ 0 := by
  obtain ⟨m, e, h, hparts, hto, -⟩ := parts_ofNat hpos (by omega : n < 2 ^ 64)
  have hlog : n.log2 < 53 := (Nat.log2_lt hpos.ne').mpr hn
  have hlow : 2 ^ n.log2 ≤ n := Nat.log2_self_le hpos.ne'
  have hhigh : n < 2 ^ (n.log2 + 1) := Nat.lt_log2_self
  have hleast : 2 ^ 52 ≤ n * 2 ^ (52 - n.log2) := by
    calc 2 ^ 52 = 2 ^ (n.log2 + (52 - n.log2)) := by rw [Nat.add_sub_cancel' (by omega)]
      _ = 2 ^ n.log2 * 2 ^ (52 - n.log2) := pow_add ..
      _ ≤ n * 2 ^ (52 - n.log2) := Nat.mul_le_mul_right _ hlow
  have hmost : n * 2 ^ (52 - n.log2) < 2 ^ 53 := by
    calc n * 2 ^ (52 - n.log2) < 2 ^ (n.log2 + 1) * 2 ^ (52 - n.log2) :=
          Nat.mul_lt_mul_of_pos_right hhigh (Nat.two_pow_pos _)
      _ = 2 ^ (n.log2 + 1 + (52 - n.log2)) := (pow_add ..).symm
      _ = 2 ^ 53 := by rw [show n.log2 + 1 + (52 - n.log2) = 53 by omega]
  have hform : InForm (n * 2 ^ (52 - n.log2)) (-(52 - n.log2 : Nat)) :=
    ⟨by omega, hmost, by omega, by omega, .inl hleast⟩
  have hself := roundsTo_self hform
  have hvalue : ((n * 2 ^ (52 - n.log2) : Nat) : ℚ) * 2 ^ (-(52 - n.log2 : Nat) : Int) = n := by
    rw [zpow_neg, zpow_natCast]
    push_cast
    field_simp
  rw [hvalue] at hself
  obtain ⟨rfl, rfl⟩ := hto.unique hself
  exact ⟨_, _, h, hparts, hvalue, hleast, by omega, by omega⟩

/-! ### Powers of ten -/

/-- Whether a reading is exactly the natural number, with 53 bits, at most 52 of them after the
point and at most 21 of them nothing before it. -/
def isExactly (n : Nat) : Reading → Bool
  | .finite v => !v.negative && decide (2 ^ 52 ≤ v.mantissa) && decide (-52 ≤ v.exponent) &&
      decide (v.exponent ≤ 21) && v.mantissa * 2 ^ (v.exponent + 52).toNat == n * 2 ^ 52
  | _ => false

/-- The powers of ten up to the 22nd are doubles. -/
lemma isExactly_powerOfTen :
    ∀ k < 23, isExactly (10 ^ k) (Reading.ofFloat (Json.powerOfTen k)) = true := by
  decide +kernel

/-- The double of a power of ten up to the 22nd is that number. -/
theorem parts_powerOfTen {k : Nat} (hk : k ≤ 22) :
    ∃ m e h, parts (Json.powerOfTen k) = .finite .positive m e h ∧ (m : ℚ) * 2 ^ e = 10 ^ k ∧
      2 ^ 52 ≤ m ∧ -52 ≤ e ∧ e ≤ 21 := by
  have hexact := isExactly_powerOfTen k (by omega)
  rw [ofFloat_eq] at hexact
  generalize parts (Json.powerOfTen k) = u at hexact ⊢
  cases u with
  | finite s m e h =>
    simp only [isExactly, Bool.and_eq_true, decide_eq_true_eq, beq_iff_eq] at hexact
    obtain ⟨⟨⟨⟨hsign, hleast⟩, hlow⟩, hhigh⟩, hvalue⟩ := hexact
    have hpositive : s = .positive := by
      cases s with
      | positive => rfl
      | negative => exact absurd hsign (by decide)
    subst hpositive
    refine ⟨m, e, h, rfl, ?_, hleast, hlow, hhigh⟩
    have hcast : (m : ℚ) * 2 ^ (e + 52).toNat = 10 ^ k * 2 ^ 52 := by exact_mod_cast hvalue
    have hplace : (2 : ℚ) ^ (e + 52).toNat = 2 ^ e * 2 ^ 52 := by
      rw [← zpow_natCast, Int.toNat_of_nonneg (by omega), zpow_add₀ (by norm_num)]
      norm_num
    rw [hplace, ← mul_assoc] at hcast
    exact mul_right_cancel₀ (by norm_num) hcast
  | zero s =>
    simp only [isExactly, Bool.and_eq_true, decide_eq_true_eq] at hexact
    omega
  | infinity s => exact absurd hexact Bool.false_ne_true
  | notANumber => exact absurd hexact Bool.false_ne_true

/-! ### Quotients -/

/-- A quotient of natural numbers with what is left over stands for the exact quotient. -/
lemma stands_quotient (a : Nat) {b : Nat} (hb : 0 < b) :
    Stands (ExtendedMantissa.ofMantissaAndAccuracy (a / b) (accuracyOfFraction (a % b) b))
      (a / b : ℚ) := by
  have hb' : (0 : ℚ) < b := by exact_mod_cast hb
  have hsplit : (a : ℚ) / b = (a / b : Nat) + (a % b : Nat) / b := by
    have hdivide : (a : ℚ) = b * (a / b : Nat) + (a % b : Nat) := by
      exact_mod_cast (Nat.div_add_mod a b).symm
    rw [hdivide]
    field_simp
  have hrest : ((a % b : Nat) : ℚ) < b := by exact_mod_cast Nat.mod_lt a hb
  rw [hsplit]
  generalize a % b = r at *
  generalize a / b = q at *
  unfold accuracyOfFraction
  split_ifs with hzero
  · simp [Stands, ExtendedMantissa.ofMantissaAndAccuracy, hzero]
  · have hpos : (0 : ℚ) < r := by exact_mod_cast Nat.pos_of_ne_zero hzero
    have hfraction : (0 : ℚ) < r / b := div_pos hpos hb'
    have hone : (r : ℚ) / b < 1 := (div_lt_one hb').mpr hrest
    rcases lt_trichotomy (2 * r) b with hlt | heq | hgt
    · have hlt' : (r : ℚ) * 2 < b := by
        have : 2 * (r : ℚ) < b := by exact_mod_cast hlt
        linarith
      have hhalf : (r : ℚ) / b < 1 / 2 := (div_lt_div_iff₀ hb' two_pos).mpr (by linarith)
      simp only [compare_lt_iff_lt.mpr hlt, Stands, ExtendedMantissa.ofMantissaAndAccuracy]
      exact ⟨by linarith, by linarith⟩
    · have heq' : (b : ℚ) = 2 * r := by exact_mod_cast heq.symm
      have hhalf : (r : ℚ) / b = 1 / 2 := by
        rw [heq']
        field_simp
      simp only [compare_eq_iff_eq.mpr heq, Stands, ExtendedMantissa.ofMantissaAndAccuracy]
      rw [hhalf]
    · have hgt' : (b : ℚ) < 2 * r := by exact_mod_cast hgt
      have hhalf : 1 / 2 < (r : ℚ) / b := (div_lt_div_iff₀ two_pos hb').mpr (by linarith)
      simp only [compare_gt_iff_gt.mpr hgt, Stands, ExtendedMantissa.ofMantissaAndAccuracy]
      exact ⟨by linarith, by linarith⟩

/-- The quotient of two positive finite numbers of 53 bits is what the exact quotient rounds to,
with 53 bits. -/
lemma div_normal (h : 0 < m) (h' : 0 < m') (hm : 2 ^ 52 ≤ m) (hm' : 2 ^ 52 ≤ m') (hlt : m < 2 ^ 53)
    (hlt' : m' < 2 ^ 53) (hlow : -1000 ≤ e - e') (hhigh : e - e' ≤ 900) :
    ∃ q r hq, UnpackedFloat.div Format.binary64 (.finite .positive m e h)
        (.finite .positive m' e' h') = .finite .positive q r hq ∧
      RoundsTo (m * 2 ^ e / (m' * 2 ^ e')) q r ∧ 2 ^ 52 ≤ q := by
  have hbits : m.log2 = 52 :=
    le_antisymm (Nat.lt_succ_iff.mp ((Nat.log2_lt h.ne').mpr hlt)) ((Nat.le_log2 h.ne').mpr hm)
  have hbits' : m'.log2 = 52 :=
    le_antisymm (Nat.lt_succ_iff.mp ((Nat.log2_lt h'.ne').mpr hlt')) ((Nat.le_log2 h'.ne').mpr hm')
  have htarget : min (e - e')
      (Format.binary64.targetExponent (totalExponent m e - totalExponent m' e')) = e - e' - 53 := by
    unfold Format.targetExponent totalExponent
    have hwidth : Format.binary64.mantissaBits = 53 := rfl
    have hleast : Format.binary64.minExponent = -1074 := rfl
    rw [hwidth, hleast, hbits, hbits']
    omega
  have hshift : (e - e' - (e - e' - 53)).toNat = 53 := by omega
  have hdivide : UnpackedFloat.div Format.binary64 (.finite .positive m e h)
        (.finite .positive m' e' h') =
      roundWithAccuracy Format.binary64 .positive (m * 2 ^ 53 / m') (e - e' - 53)
        (accuracyOfFraction (m * 2 ^ 53 % m') m') := by
    unfold UnpackedFloat.div divCore
    simp only [htarget, hshift, Nat.shiftLeft_eq]
    rfl
  rw [hdivide]
  have hlarge : 2 ^ 52 ≤ m * 2 ^ 53 / m' := by
    rw [Nat.le_div_iff_mul_le h']
    omega
  have hmost : (m * 2 ^ 53 / m').log2 < 54 := by
    rw [Nat.log2_lt (by omega), Nat.div_lt_iff_lt_mul h']
    omega
  have hexact : (m : ℚ) * 2 ^ e / (m' * 2 ^ e') / 2 ^ (e - e' - 53) = (m * 2 ^ 53 : Nat) / m' := by
    rw [zpow_sub₀ (by norm_num), zpow_sub₀ (by norm_num)]
    push_cast
    field_simp
  have hstands := stands_quotient (m * 2 ^ 53) h'
  rw [← hexact] at hstands
  have hleast : 52 ≤ (m * 2 ^ 53 / m').log2 := (Nat.le_log2 (by omega)).mpr hlarge
  obtain ⟨q, r, hq, hmade, hto, hfrom, -⟩ :=
    roundWithAccuracy_normal (s := .positive) hlarge (by omega) (by omega) hstands
  exact ⟨q, r, hq, hmade, hto, hto.inForm.normal.resolve_right (by omega)⟩

/-- The quotient of two positive doubles of ordinary size is what the exact quotient rounds to, with
53 bits. -/
theorem parts_div {x y : Float} {h : 0 < m} {h' : 0 < m'} (hx : parts x = .finite .positive m e h)
    (hy : parts y = .finite .positive m' e' h') (hm : 2 ^ 52 ≤ m) (hm' : 2 ^ 52 ≤ m')
    (hlow : -1000 ≤ e - e') (hhigh : e - e' ≤ 900) :
    ∃ q r hq, parts (x / y) = .finite .positive q r hq ∧
      RoundsTo (m * 2 ^ e / (m' * 2 ^ e')) q r ∧ 2 ^ 52 ≤ q := by
  obtain ⟨q, r, hq, hround, hto, hleast⟩ := div_normal h h' hm hm' (inForm_of_parts hx).lt
    (inForm_of_parts hy).lt hlow hhigh
  refine ⟨q, r, hq, ?_, hto, hleast⟩
  have hdivide : x / y =
      ⟨Float.Model.pack (UnpackedFloat.div Format.binary64 (parts x) (parts y))⟩ := rfl
  rw [hdivide, hx, hy, hround, parts_pack_finite hq hto.inForm]

/-- A double that a short decimal rounds to is the digits divided by the power of ten. -/
theorem div_powerOfTen_eq {x : Float} {h : 0 < m} (hx : parts x = .finite .positive m e h)
    {d k : Nat} (hd : 0 < d) (hd' : d < 2 ^ 53) (hk : k ≤ 22) (hto : RoundsTo (d / 10 ^ k) m e) :
    d.toUInt64.toFloat / Json.powerOfTen k = x := by
  obtain ⟨a, b, ha, hdigits, hdvalue, haleast, hblow, hbhigh⟩ := parts_ofNat_exact hd hd'
  obtain ⟨p, r, hp, hpower, hpvalue, hpleast, hrlow, hrhigh⟩ := parts_powerOfTen hk
  obtain ⟨q, t, hq, hquotient, hto', -⟩ :=
    parts_div hdigits hpower haleast hpleast (by omega) (by omega)
  rw [hdvalue, hpvalue] at hto'
  obtain ⟨rfl, rfl⟩ := hto'.unique hto
  rw [← pack_parts x, ← pack_parts (_ / _), hquotient, hx]

/-! ### How far off a decimal is read -/

/-- The number that a finite double is, and zero for any other. -/
def value (x : Float) : ℚ :=
  match parts x with
  | .finite .positive m e _ => m * 2 ^ e
  | .finite .negative m e _ => -(m * 2 ^ e)
  | _ => 0

/-- The digits of a decimal with few places, divided by the power of ten, differ from a double that
the decimal rounds to by no more than one part in `2 ^ 51`. -/
theorem div_powerOfTen_near {x : Float} {h : 0 < m} (hx : parts x = .finite .positive m e h)
    (hm : 2 ^ 52 ≤ m) {d k : Nat} (hd : 0 < d) (hd' : d < 2 ^ 64) (hk : k ≤ 22)
    (hto : RoundsTo (d / 10 ^ k) m e) :
    |value (d.toUInt64.toFloat / Json.powerOfTen k) - value x| ≤ value x / 2 ^ 51 := by
  obtain ⟨a, b, ha, hdigits, hdto, hblow, hbhigh⟩ := parts_ofNat hd hd'
  obtain ⟨p, r, hp, hpower, hpvalue, hpleast, hrlow, hrhigh⟩ := parts_powerOfTen hk
  have haleast : 2 ^ 52 ≤ a := hdto.inForm.normal.resolve_right (by omega)
  obtain ⟨q, t, hq, hquotient, hqto, hqleast⟩ :=
    parts_div hdigits hpower haleast hpleast (by omega) (by omega)
  rw [hpvalue] at hqto
  unfold value
  simp only [hx, hquotient]
  -- The double was rounded to a decimal, and its digits and the quotient are rounded again.
  obtain ⟨hx₁, hx₂⟩ := hto.near hm
  obtain ⟨hd₁, hd₂⟩ := hdto.near haleast
  obtain ⟨hq₁, hq₂⟩ := hqto.near hqleast
  have hpow : (0 : ℚ) < 10 ^ k := by positivity
  have hdown := div_le_div_of_nonneg_right hd₁ hpow.le
  have hup := div_le_div_of_nonneg_right hd₂ hpow.le
  rw [mul_div_assoc] at hdown hup
  have hpos : (0 : ℚ) < m * 2 ^ e := by positivity
  generalize (m : ℚ) * 2 ^ e = original at *
  generalize (a : ℚ) * 2 ^ b / 10 ^ k = exact at *
  rw [abs_sub_le_iff]
  constructor <;> linarith

end Retrial.Double
