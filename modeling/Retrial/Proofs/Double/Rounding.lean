import Retrial.Proofs.Double.Packing

/-!
# Rounding to the nearest double

A number *rounds to* a mantissa and an exponent in form if it is no farther from their value than
the middles to the neighbouring values, and at a middle only if the mantissa is even (`RoundsTo`).
A number rounds to at most one mantissa and exponent (`RoundsTo.unique`), because intervals of
numbers that round to different ones have at most a middle in common, and of two neighbours one is
odd.

A mantissa with its two bits for what was cut off *stands for* a number (`Stands`).  This is kept by
cutting off one more bit, and the rounded mantissa is nearest to the number; so rounding a mantissa
of at least 53 bits gives what the number rounds to (`roundWithAccuracy_normal`).
-/

namespace Retrial.Double

open Float.Model Float.Model.UnpackedFloat

variable {s : Sign} {m m' : Nat} {e e' : Int} {v : ℚ} {em : ExtendedMantissa}

/-! ### Numbers that round to a value -/

/-- How far the middle below a value lies under it, in quarters of the last place: under a power of
two the neighbour is only half as far away. -/
def gapBelow (m : Nat) (e : Int) : ℚ := if m = 2 ^ 52 ∧ e ≠ -1074 then 1 else 2

lemma gapBelow_le (m : Nat) (e : Int) : gapBelow m e ≤ 2 := by
  unfold gapBelow
  split_ifs <;> norm_num

lemma le_gapBelow (m : Nat) (e : Int) : 1 ≤ gapBelow m e := by
  unfold gapBelow
  split_ifs <;> norm_num

/-- The number rounds to the mantissa and the exponent. -/
structure RoundsTo (v : ℚ) (m : Nat) (e : Int) : Prop where
  inForm : InForm m e
  lower : (4 * m - gapBelow m e) * 2 ^ (e - 2) ≤ v
  upper : v ≤ (4 * m + 2) * 2 ^ (e - 2)
  lower_ne : m % 2 = 1 → (4 * m - gapBelow m e) * 2 ^ (e - 2) ≠ v
  upper_ne : m % 2 = 1 → v ≠ (4 * m + 2) * 2 ^ (e - 2)

/-- Of two mantissas with the same exponent the greater is not what a number rounds to that rounds
to the smaller. -/
lemma RoundsTo.not_lt (h : RoundsTo v m e) (h' : RoundsTo v m' e) : ¬ m < m' := by
  intro hlt
  have hunit : (0 : ℚ) < 2 ^ (e - 2) := by positivity
  have hgap := gapBelow_le m' e
  have hstep : (m : ℚ) + 1 ≤ m' := by exact_mod_cast hlt
  have hbetween : (4 * (m' : ℚ) - gapBelow m' e) * 2 ^ (e - 2) ≤ (4 * m + 2) * 2 ^ (e - 2) :=
    h'.lower.trans h.upper
  have hle := le_of_mul_le_mul_right hbetween hunit
  have hnext : (m' : ℚ) = m + 1 := by linarith
  have hends : (4 * (m' : ℚ) - gapBelow m' e) * 2 ^ (e - 2) = (4 * m + 2) * 2 ^ (e - 2) := by
    congr 1
    linarith
  have hv : v = (4 * m + 2) * 2 ^ (e - 2) := le_antisymm h.upper (hends ▸ h'.lower)
  have hnext' : m' = m + 1 := by exact_mod_cast hnext
  rcases Nat.mod_two_eq_zero_or_one m with heven | hodd
  · exact h'.lower_ne (by omega) (hends.trans hv.symm)
  · exact h.upper_ne hodd hv

/-- Of two exponents the greater is not what a number rounds to that rounds to the smaller. -/
lemma RoundsTo.not_exponent_lt (h : RoundsTo v m e) (h' : RoundsTo v m' e') : ¬ e < e' := by
  intro hlt
  have hlow := h.inForm.low
  have hunit : (0 : ℚ) < 2 ^ (e - 2) := by positivity
  -- A value above the least exponent has its leading one, so its middle below is far up.
  have hbig : (2 : ℚ) ^ 54 - 1 ≤ 4 * m' - gapBelow m' e' := by
    have hnormal : 2 ^ 52 ≤ m' := h'.inForm.normal.resolve_right (by omega)
    unfold gapBelow
    split_ifs with hpower
    · rw [hpower.1]
      norm_num
    · have hmore : 2 ^ 52 + 1 ≤ m' := by
        rcases Nat.lt_or_ge (2 ^ 52) m' with hgt | hle
        · exact hgt
        · exact absurd ⟨le_antisymm hle hnormal, by omega⟩ hpower
      have hmore' : (2 : ℚ) ^ 52 + 1 ≤ m' := by exact_mod_cast hmore
      linarith
  have hsmall : (m : ℚ) + 1 ≤ 2 ^ 53 := by exact_mod_cast h.inForm.lt
  have htwice : (2 : ℚ) * 2 ^ (e - 2) ≤ 2 ^ (e' - 2) := by
    rw [← zpow_one_add₀ (by norm_num)]
    exact zpow_le_zpow_right₀ (by norm_num) (by omega)
  have hfrom : (2 ^ 55 - 2) * (2 : ℚ) ^ (e - 2) ≤ (4 * m' - gapBelow m' e') * 2 ^ (e' - 2) := by
    calc (2 ^ 55 - 2) * (2 : ℚ) ^ (e - 2) = (2 ^ 54 - 1) * (2 * 2 ^ (e - 2)) := by ring
      _ ≤ (4 * m' - gapBelow m' e') * 2 ^ (e' - 2) :=
          mul_le_mul hbig htwice (by positivity) (by linarith)
  have hall : (2 ^ 55 - 2) * (2 : ℚ) ^ (e - 2) ≤ (4 * m + 2) * 2 ^ (e - 2) :=
    (hfrom.trans h'.lower).trans h.upper
  have hle := le_of_mul_le_mul_right hall hunit
  have hlast : (m : ℚ) = 2 ^ 53 - 1 := by linarith
  have hodd : m % 2 = 1 := by
    have hlast' : m + 1 = 2 ^ 53 := by
      have : (m : ℚ) + 1 = 2 ^ 53 := by linarith
      exact_mod_cast this
    omega
  refine h.upper_ne hodd (le_antisymm h.upper ?_)
  calc (4 * (m : ℚ) + 2) * 2 ^ (e - 2) = (2 ^ 55 - 2) * 2 ^ (e - 2) := by rw [hlast]; ring
    _ ≤ v := hfrom.trans h'.lower

/-- A number rounds to at most one value. -/
theorem RoundsTo.unique (h : RoundsTo v m e) (h' : RoundsTo v m' e') : m = m' ∧ e = e' := by
  have hexponent : e = e' := by
    have := h.not_exponent_lt h'
    have := h'.not_exponent_lt h
    omega
  subst hexponent
  have := h.not_lt h'
  have := h'.not_lt h
  exact ⟨by omega, rfl⟩

/-- A value rounds to itself. -/
lemma roundsTo_self (h : InForm m e) : RoundsTo (m * 2 ^ e) m e := by
  have hunit : (0 : ℚ) < 2 ^ (e - 2) := by positivity
  have hvalue : (m : ℚ) * 2 ^ e = 4 * m * 2 ^ (e - 2) := by
    rw [zpow_sub₀ (by norm_num)]
    ring
  have hgap := le_gapBelow m e
  have hlower : (4 * (m : ℚ) - gapBelow m e) * 2 ^ (e - 2) < m * 2 ^ e := by
    rw [hvalue]
    exact mul_lt_mul_of_pos_right (by linarith) hunit
  have hupper : (m : ℚ) * 2 ^ e < (4 * m + 2) * 2 ^ (e - 2) := by
    rw [hvalue]
    exact mul_lt_mul_of_pos_right (by linarith) hunit
  exact ⟨h, hlower.le, hupper.le, fun _ => hlower.ne, fun _ => hupper.ne⟩

/-- A value of 53 bits differs from a number that rounds to it by no more than half a last place,
which is at most one part in `2 ^ 53`. -/
lemma RoundsTo.near (h : RoundsTo v m e) (hm : 2 ^ 52 ≤ m) :
    (1 - 1 / 2 ^ 53) * (m * 2 ^ e) ≤ v ∧ v ≤ (1 + 1 / 2 ^ 53) * (m * 2 ^ e) := by
  have hgap := gapBelow_le m e
  have hleast : (2 : ℚ) ^ 52 ≤ m := by exact_mod_cast hm
  have hunit : (0 : ℚ) < 2 ^ (e - 2) := by positivity
  have hvalue : (m : ℚ) * 2 ^ e = 4 * m * 2 ^ (e - 2) := by
    rw [zpow_sub₀ (by norm_num)]
    ring
  rw [hvalue]
  constructor
  · calc (1 - 1 / 2 ^ 53) * (4 * (m : ℚ) * 2 ^ (e - 2))
        = (4 * m - 4 * m / 2 ^ 53) * 2 ^ (e - 2) := by ring
      _ ≤ (4 * m - gapBelow m e) * 2 ^ (e - 2) :=
          mul_le_mul_of_nonneg_right (by linarith) hunit.le
      _ ≤ v := h.lower
  · calc v ≤ (4 * m + 2) * 2 ^ (e - 2) := h.upper
      _ ≤ (4 * m + 4 * m / 2 ^ 53) * 2 ^ (e - 2) :=
          mul_le_mul_of_nonneg_right (by linarith) hunit.le
      _ = (1 + 1 / 2 ^ 53) * (4 * (m : ℚ) * 2 ^ (e - 2)) := by ring

/-! ### Mantissas with what was cut off -/

/-- The number that a mantissa stands for with its two bits for what was cut off. -/
def Stands (em : ExtendedMantissa) (v : ℚ) : Prop :=
  match em.roundBit, em.stickyBit with
  | false, false => v = em.mantissa
  | false, true => em.mantissa < v ∧ v < em.mantissa + 1 / 2
  | true, false => v = em.mantissa + 1 / 2
  | true, true => em.mantissa + 1 / 2 < v ∧ v < em.mantissa + 1

/-- What was cut off is less than one. -/
lemma Stands.between (h : Stands em v) : (em.mantissa : ℚ) ≤ v ∧ v < em.mantissa + 1 := by
  obtain ⟨m, r, t⟩ := em
  cases r <;> cases t <;> simp only [Stands] at h ⊢ <;> constructor <;> linarith

/-- One more bit may be cut off. -/
lemma Stands.half (h : Stands em v) : Stands em.shiftRightOne (v / 2) := by
  obtain ⟨m, r, t⟩ := em
  have hsplit : (m : ℚ) = 2 * (m / 2 : Nat) + (m % 2 : Nat) := by
    exact_mod_cast (Nat.div_add_mod m 2).symm
  rcases Nat.mod_two_eq_zero_or_one m with hbit | hbit <;> rw [hbit] at hsplit <;>
    cases r <;> cases t <;>
    simp [Stands, ExtendedMantissa.shiftRightOne, hbit] at h hsplit ⊢ <;>
    first | linarith | constructor <;> linarith

/-- Many bits may be cut off. -/
lemma Stands.shift (h : Stands em v) (n : Nat) : Stands (em >>> n) (v / 2 ^ n) := by
  induction n with
  | zero => simpa [HShiftRight.hShiftRight, Nat.repeat] using h
  | succ n ih =>
    have hnext := ih.half
    rw [div_div, ← pow_succ] at hnext
    exact hnext

/-- The rounded mantissa is nearest to what the mantissa stands for, and even if another one is as
near. -/
lemma Stands.rounded (h : Stands em v) :
    (em.roundedMantissa : ℚ) - 1 / 2 ≤ v ∧ v ≤ em.roundedMantissa + 1 / 2 ∧
      (em.roundedMantissa % 2 = 1 →
        (em.roundedMantissa : ℚ) - 1 / 2 ≠ v ∧ v ≠ em.roundedMantissa + 1 / 2) := by
  obtain ⟨m, r, t⟩ := em
  cases r <;> cases t <;>
    simp only [Stands, ExtendedMantissa.roundedMantissa, ExtendedMantissa.accuracy,
      Accuracy.roundToNearestEven] at h ⊢
  · exact ⟨by linarith, by linarith, fun _ => ⟨by linarith, by linarith⟩⟩
  · exact ⟨by linarith, by linarith, fun _ => ⟨by linarith, by linarith⟩⟩
  · -- At a middle the even one of the two neighbours is taken.
    rcases Nat.mod_two_eq_zero_or_one m with hbit | hbit <;> rw [hbit]
    · exact ⟨by push_cast; linarith, by push_cast; linarith, fun hodd => by omega⟩
    · exact ⟨by push_cast; linarith, by push_cast; linarith, fun hodd => by omega⟩
  · push_cast
    exact ⟨by linarith, by linarith, fun _ => ⟨by linarith, by linarith⟩⟩

/-- The rounded mantissa is the mantissa or the next one. -/
lemma le_roundedMantissa (em : ExtendedMantissa) :
    em.mantissa ≤ em.roundedMantissa ∧ em.roundedMantissa ≤ em.mantissa + 1 := by
  obtain ⟨m, r, t⟩ := em
  cases r <;> cases t <;>
    simp only [ExtendedMantissa.roundedMantissa, ExtendedMantissa.accuracy,
      Accuracy.roundToNearestEven] <;> omega

/-- Cutting bits off divides the mantissa. -/
lemma mantissa_shift (em : ExtendedMantissa) (n : Nat) :
    (em >>> n).mantissa = em.mantissa / 2 ^ n := by
  induction n with
  | zero => simp [HShiftRight.hShiftRight, Nat.repeat]
  | succ n ih =>
    have hstep : (em >>> (n + 1)).mantissa = (em >>> n).mantissa / 2 := rfl
    rw [hstep, ih, Nat.div_div_eq_div_mul, ← pow_succ]

/-! ### Rounding -/

lemma mantissa_ofMantissaAndAccuracy (q : Nat) (a : Accuracy) :
    (ExtendedMantissa.ofMantissaAndAccuracy q a).mantissa = q := by
  unfold ExtendedMantissa.ofMantissaAndAccuracy
  split <;> rfl

/-- Bits are cut off down to 53 of them. -/
lemma shiftToTargetExponent_eq {q : Nat} (hq : 2 ^ 52 ≤ q) (he : -1074 ≤ e) (a : Accuracy) :
    shiftToTargetExponent Format.binary64 q e a =
      (ExtendedMantissa.ofMantissaAndAccuracy q a >>> (q.log2 - 52), e + (q.log2 - 52 : Nat)) := by
  have hlog : 52 ≤ q.log2 := (Nat.le_log2 (by omega)).mpr hq
  have htarget : Format.binary64.targetExponent (totalExponent q e) = q.log2 - 52 + e := by
    unfold Format.targetExponent totalExponent
    have hbits : Format.binary64.mantissaBits = 53 := rfl
    have hleast : Format.binary64.minExponent = -1074 := rfl
    rw [hbits, hleast]
    omega
  have hshift : ((q.log2 : Int) - 52 + e - e).toNat = q.log2 - 52 := by omega
  unfold shiftToTargetExponent shiftToExponent
  simp only [htarget, hshift]

/-- With bits cut off there are 53 of them. -/
lemma shiftRight_normal {q : Nat} (hq : 2 ^ 52 ≤ q) :
    2 ^ 52 ≤ q / 2 ^ (q.log2 - 52) ∧ q / 2 ^ (q.log2 - 52) < 2 ^ 53 := by
  have hlog : 52 ≤ q.log2 := (Nat.le_log2 (by omega)).mpr hq
  have hlow : 2 ^ q.log2 ≤ q := Nat.log2_self_le (by omega)
  have hhigh : q < 2 ^ (q.log2 + 1) := Nat.lt_log2_self
  have hroom : 0 < 2 ^ (q.log2 - 52) := Nat.two_pow_pos _
  rw [Nat.le_div_iff_mul_le hroom, Nat.div_lt_iff_lt_mul hroom, ← pow_add, ← pow_add]
  rw [show 52 + (q.log2 - 52) = q.log2 by omega, show 53 + (q.log2 - 52) = q.log2 + 1 by omega]
  exact ⟨hlow, hhigh⟩

/-- A number at most half a last place away from a mantissa of 53 bits, and not below the least of
these, rounds to it unless a tie is to go elsewhere. -/
lemma roundsTo_of_near (hform : InForm m e) (hleast : 2 ^ 52 ≤ v / 2 ^ e)
    (hlower : (m : ℚ) - 1 / 2 ≤ v / 2 ^ e) (hupper : v / 2 ^ e ≤ m + 1 / 2)
    (hodd : m % 2 = 1 → (m : ℚ) - 1 / 2 ≠ v / 2 ^ e ∧ v / 2 ^ e ≠ m + 1 / 2) :
    RoundsTo v m e := by
  have hunit : (0 : ℚ) < 2 ^ (e - 2) := by positivity
  have hvalue : v = 4 * (v / 2 ^ e) * 2 ^ (e - 2) := by
    rw [zpow_sub₀ (by norm_num)]
    field_simp
    norm_num
  generalize v / 2 ^ e = w at *
  have hfrom : 4 * (m : ℚ) - gapBelow m e ≤ 4 * w := by
    unfold gapBelow
    split_ifs with hpower
    · rw [hpower.1]
      push_cast
      linarith
    · linarith
  have hto : 4 * w ≤ 4 * (m : ℚ) + 2 := by linarith
  have hgap : m % 2 = 1 → gapBelow m e = 2 := fun hm => if_neg fun hpower => by omega
  rw [hvalue]
  refine ⟨hform, mul_le_mul_of_nonneg_right hfrom hunit.le, mul_le_mul_of_nonneg_right hto hunit.le,
    fun hm heq => ?_, fun hm heq => ?_⟩
  · have hsame := mul_right_cancel₀ hunit.ne' heq
    rw [hgap hm] at hsame
    exact (hodd hm).1 (by linarith)
  · have hsame := mul_right_cancel₀ hunit.ne' heq
    exact (hodd hm).2 (by linarith)

/-- A number just below the least mantissa of 54 bits rounds to it, written with 53 of them. -/
lemma roundsTo_power (hlow : -1074 ≤ e) (hhigh : e ≤ 970) (hlower : 2 ^ 53 - 1 / 2 ≤ v / 2 ^ e)
    (hupper : v / 2 ^ e < 2 ^ 53) : RoundsTo v (2 ^ 52) (e + 1) := by
  have hunit : (0 : ℚ) < 2 ^ (e - 1) := by positivity
  have hvalue : v = 2 * (v / 2 ^ e) * 2 ^ (e - 1) := by
    rw [zpow_sub₀ (by norm_num)]
    field_simp
  have hgap : gapBelow (2 ^ 52) (e + 1) = 1 := if_pos ⟨rfl, by omega⟩
  have hplace : e + 1 - 2 = e - 1 := by ring
  generalize v / 2 ^ e = w at *
  refine ⟨⟨by norm_num, by norm_num, by omega, by omega, .inl le_rfl⟩, ?_, ?_, by norm_num,
    by norm_num⟩
  · rw [hgap, hplace, hvalue]
    refine mul_le_mul_of_nonneg_right ?_ hunit.le
    push_cast
    linarith
  · rw [hplace, hvalue]
    refine mul_le_mul_of_nonneg_right ?_ hunit.le
    push_cast
    linarith

/-- Rounding cuts bits off twice: down to 53 of them, and once more after a carry. -/
lemma roundWithAccuracy_eq {q : Nat} (hq : 2 ^ 52 ≤ q) (hlow : -1074 ≤ e) {a : Accuracy}
    (hem : em = ExtendedMantissa.ofMantissaAndAccuracy q a >>> (q.log2 - 52)) :
    roundWithAccuracy Format.binary64 s q e a =
      if h : em.roundedMantissa / 2 ^ (em.roundedMantissa.log2 - 52) = 0 then .zero s
      else .finite s (em.roundedMantissa / 2 ^ (em.roundedMantissa.log2 - 52))
        (e + (q.log2 - 52 : Nat) + (em.roundedMantissa.log2 - 52 : Nat))
        (Nat.pos_of_ne_zero h) := by
  have hleast : 2 ^ 52 ≤ em.mantissa := by
    rw [hem, mantissa_shift, mantissa_ofMantissaAndAccuracy]
    exact (shiftRight_normal hq).1
  have hrounded := shiftToTargetExponent_eq (hleast.trans (le_roundedMantissa em).1)
    (by omega : -1074 ≤ e + (q.log2 - 52 : Nat)) .exact
  unfold roundWithAccuracy
  simp only [shiftToTargetExponent_eq hq hlow a, ← hem, hrounded, mantissa_shift,
    mantissa_ofMantissaAndAccuracy]

/-- A rounded mantissa of 53 bits, or of one more after a carry, is what the number rounds to that
it was rounded from. -/
lemma roundsTo_rounded {em : ExtendedMantissa} (hleast : 2 ^ 52 ≤ em.mantissa)
    (hmost : em.mantissa < 2 ^ 53) (hlow : -1074 ≤ e) (hhigh : e ≤ 970)
    (hstands : Stands em (v / 2 ^ e)) :
    0 < em.roundedMantissa / 2 ^ (em.roundedMantissa.log2 - 52) ∧
      RoundsTo v (em.roundedMantissa / 2 ^ (em.roundedMantissa.log2 - 52))
        (e + (em.roundedMantissa.log2 - 52 : Nat)) ∧
      em.roundedMantissa.log2 - 52 ≤ 1 := by
  obtain ⟨hfloor, hceil⟩ := le_roundedMantissa em
  obtain ⟨hlower, hupper, hodd⟩ := hstands.rounded
  obtain ⟨hfrom, hto⟩ := hstands.between
  rcases Nat.lt_or_ge em.roundedMantissa (2 ^ 53) with hsmall | hlarge
  · have hbits : em.roundedMantissa.log2 = 52 :=
      le_antisymm (Nat.lt_succ_iff.mp ((Nat.log2_lt (by omega)).mpr hsmall))
        ((Nat.le_log2 (by omega)).mpr (hleast.trans hfloor))
    rw [hbits, Nat.sub_self, pow_zero, Nat.div_one, Nat.cast_zero, add_zero]
    exact ⟨by omega, roundsTo_of_near ⟨by omega, hsmall, by omega, by omega, .inl (by omega)⟩
      (le_trans (by exact_mod_cast hleast) hfrom) hlower hupper hodd, by omega⟩
  · -- The rounded mantissa has got one bit more: it is the least mantissa with the next exponent.
    have hnext : em.roundedMantissa = 2 ^ 53 := by omega
    have hlast : (em.mantissa : ℚ) + 1 = 2 ^ 53 := by
      have hbefore : em.mantissa + 1 = 2 ^ 53 := by omega
      exact_mod_cast hbefore
    have hbits : (2 ^ 53).log2 = 53 := Nat.log2_two_pow
    rw [hnext, Nat.cast_pow, Nat.cast_ofNat] at hlower
    rw [hnext, hbits]
    exact ⟨by norm_num, roundsTo_power hlow hhigh hlower (by linarith), le_rfl⟩

/-- Rounding a mantissa of at least 53 bits gives what the number rounds to that the mantissa stands
for, with an exponent for 53 bits or, after a carry, the next one. -/
theorem roundWithAccuracy_normal {q : Nat} {a : Accuracy} (hq : 2 ^ 52 ≤ q) (hlow : -1074 ≤ e)
    (hhigh : e + q.log2 ≤ 1000)
    (hv : Stands (ExtendedMantissa.ofMantissaAndAccuracy q a) (v / 2 ^ e)) :
    ∃ m e' h, roundWithAccuracy Format.binary64 s q e a = .finite s m e' h ∧ RoundsTo v m e' ∧
      e + q.log2 - 52 ≤ e' ∧ e' ≤ e + q.log2 - 51 := by
  have hlog : 52 ≤ q.log2 := (Nat.le_log2 (by omega)).mpr hq
  have hstands := hv.shift (q.log2 - 52)
  have hscale : v / 2 ^ e / 2 ^ (q.log2 - 52) = v / 2 ^ (e + (q.log2 - 52 : Nat)) := by
    rw [zpow_add₀ (by norm_num), zpow_natCast, div_div]
  have hmantissa := mantissa_shift (ExtendedMantissa.ofMantissaAndAccuracy q a) (q.log2 - 52)
  rw [mantissa_ofMantissaAndAccuracy] at hmantissa
  obtain ⟨hleast, hmost⟩ := hmantissa ▸ shiftRight_normal hq
  rw [hscale] at hstands
  obtain ⟨hpos, hto, hcarry⟩ := roundsTo_rounded hleast hmost (by omega) (by omega) hstands
  exact ⟨_, _, hpos, (roundWithAccuracy_eq hq hlow rfl).trans (dif_neg hpos.ne'), hto, by omega,
    by omega⟩

end Retrial.Double
