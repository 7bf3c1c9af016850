import Retrial.Proofs.Double.Arithmetic
import Retrial.Retry.Average

/-!
# Averages stay between zero and one

A double *in the unit interval* is a zero, or positive and at most one (`InUnit`).  Keeping a number
between zero and one gives such a double unless the number is none (`inUnit_clampUnit`).  The new
average from one in the unit interval is a number, because nothing infinite is multiplied and
nothing is divided by zero; so averages stay in the unit interval (`inUnit_fold`).
-/

namespace Retrial.Double

open Float.Model Float.Model.UnpackedFloat

variable {s : Sign} {m : Nat} {e : Int} {x y : Float}

/-- Zero, or positive and at most one. -/
def InUnit (x : Float) : Prop :=
  (∃ s, parts x = .zero s) ∨
    ∃ m e h, parts x = .finite .positive m e h ∧ (e ≤ -53 ∨ m = 2 ^ 52 ∧ e = -52)

/-- The parts are finite. -/
def Limited : UnpackedFloat → Prop
  | .zero _ => True
  | .finite .. => True
  | _ => False

lemma InUnit.limited (h : InUnit x) : Limited (parts x) := by
  rcases h with ⟨s, hx⟩ | ⟨m, e, h, hx, -⟩ <;> rw [hx] <;> trivial

/-- The scalar zero. -/
lemma parts_zero : parts (Scalar.ofNat 0 : Float) = .zero .positive := rfl

/-- The scalar one. -/
lemma parts_one :
    parts (Scalar.ofNat 1 : Float) = .finite .positive (2 ^ 52) (-52) (by decide) := rfl

lemma inUnit_zero : InUnit (Scalar.ofNat 0 : Float) := .inl ⟨_, parts_zero⟩

lemma inUnit_one : InUnit (Scalar.ofNat 1 : Float) := .inr ⟨_, _, _, parts_one, .inr ⟨rfl, rfl⟩⟩

/-! ### Keeping a number between zero and one -/

/-- Doubles are compared by their parts. -/
lemma less_eq (x y : Float) : Scalar.less x y = UnpackedFloat.lt (parts x) (parts y) := by
  have hmodel : (x < y) ↔ UnpackedFloat.lt (parts x) (parts y) = true := by
    change (decide (UnpackedFloat.lt (parts x) (parts y) = true)) = true ↔ _
    exact decide_eq_true_iff
  change decide (x < y) = _
  rw [Bool.eq_iff_iff, decide_eq_true_iff]
  exact hmodel

/-- A number kept between zero and one is in the unit interval. -/
theorem inUnit_clampUnit (hx : parts x ≠ .notANumber) : InUnit (Average.clampUnit x) := by
  unfold Average.clampUnit
  rw [less_eq, less_eq, parts_zero, parts_one]
  generalize hu : parts x = u at hx ⊢
  cases u with
  | notANumber => exact absurd rfl hx
  | infinity s =>
    cases s with
    | negative => exact inUnit_zero
    | positive => exact inUnit_one
  | zero s =>
    have hbelow : UnpackedFloat.lt (.zero s) (.zero .positive) = false := by cases s <;> rfl
    have habove : UnpackedFloat.lt (.finite .positive (2 ^ 52) (-52) (by decide)) (.zero s) =
        false := by
      cases s <;> rfl
    rw [hbelow, habove]
    exact .inl ⟨s, hu⟩
  | finite s m e h =>
    cases s with
    | negative => exact inUnit_zero
    | positive =>
      have hbelow : UnpackedFloat.lt (.finite .positive m e h) (.zero .positive) = false := rfl
      rw [hbelow]
      simp only [Bool.false_eq_true, if_false]
      split_ifs with habove
      · exact inUnit_one
      · refine .inr ⟨m, e, h, hu, ?_⟩
        have hform := inForm_of_parts hu
        have hcompare : (compare (-52) e).then (compare (2 ^ 52) m) ≠ .lt := by
          intro hlt
          refine habove ?_
          unfold UnpackedFloat.lt UnpackedFloat.compare
          simp only [hlt]
          rfl
        rcases lt_trichotomy (-52) e with hlt | heq | hgt
        · rw [compare_lt_iff_lt.mpr hlt] at hcompare
          exact absurd rfl hcompare
        · rw [compare_eq_iff_eq.mpr heq] at hcompare
          have hle : m ≤ 2 ^ 52 := by
            by_contra hmore
            exact hcompare (compare_lt_iff_lt.mpr (by omega))
          have hnormal := hform.normal
          exact .inr ⟨by omega, heq.symm⟩
        · exact .inl (by omega)

/-! ### Numbers stay numbers -/

/-- Rounding gives a number. -/
lemma roundWithAccuracy_ne_notANumber (s : Sign) (q : Nat) (e : Int) (a : Accuracy) :
    roundWithAccuracy Format.binary64 s q e a ≠ .notANumber := by
  unfold roundWithAccuracy
  dsimp only
  split_ifs <;> simp

/-- Rounding an integer with an exponent gives a number. -/
lemma normalize_ne_notANumber (n e : Int) (s : Sign) :
    UnpackedFloat.normalize Format.binary64 n e s ≠ .notANumber := by
  unfold UnpackedFloat.normalize UnpackedFloat.round
  split
  · exact roundWithAccuracy_ne_notANumber _ _ _ _
  · simp
  · exact roundWithAccuracy_ne_notANumber _ _ _ _

/-- A product of finite numbers is a number. -/
lemma mul_ne_notANumber (hx : Limited (parts x)) (hy : Limited (parts y)) :
    parts (x * y) ≠ .notANumber := by
  have hmul : parts (x * y) =
      parts ⟨Float.Model.pack (UnpackedFloat.mul Format.binary64 (parts x) (parts y))⟩ := rfl
  rw [hmul]
  refine parts_pack_ne_notANumber ?_
  generalize parts x = u at *
  generalize parts y = w at *
  cases u <;> cases w <;> simp only [Limited] at hx hy
  · simp [UnpackedFloat.mul]
  · simp [UnpackedFloat.mul]
  · simp [UnpackedFloat.mul]
  · exact roundWithAccuracy_ne_notANumber _ _ _ _

/-- A sum of a number and a finite number is a number. -/
lemma add_ne_notANumber (hx : parts x ≠ .notANumber) (hy : Limited (parts y)) :
    parts (x + y) ≠ .notANumber := by
  have hadd : parts (x + y) =
      parts ⟨Float.Model.pack (UnpackedFloat.add Format.binary64 (parts x) (parts y))⟩ := rfl
  rw [hadd]
  refine parts_pack_ne_notANumber ?_
  generalize parts x = u at *
  generalize parts y = w at *
  cases w with
  | notANumber => exact absurd hy id
  | infinity => exact absurd hy id
  | zero t =>
    cases u with
    | notANumber => exact absurd rfl hx
    | zero s => cases s <;> cases t <;> simp [UnpackedFloat.add]
    | _ => simp [UnpackedFloat.add]
  | finite t m e h =>
    cases u with
    | notANumber => exact absurd rfl hx
    | finite => exact normalize_ne_notANumber _ _ _
    | _ => simp [UnpackedFloat.add]

/-- A number divided by a finite one that is not zero is a number. -/
lemma div_ne_notANumber {h : 0 < m} (hx : parts x ≠ .notANumber) (hy : parts y = .finite s m e h) :
    parts (x / y) ≠ .notANumber := by
  have hdiv : parts (x / y) =
      parts ⟨Float.Model.pack (UnpackedFloat.div Format.binary64 (parts x) (parts y))⟩ := rfl
  rw [hdiv, hy]
  refine parts_pack_ne_notANumber ?_
  generalize parts x = u at *
  cases u with
  | notANumber => exact absurd rfl hx
  | finite => exact roundWithAccuracy_ne_notANumber _ _ _ _
  | _ => simp [UnpackedFloat.div]

/-- A moderate integer with an exponent is rounded to a finite double. -/
lemma limited_normalize {n : Int} (hn : n.natAbs < 2 ^ 128) (s : Sign) (hlow : -1022 ≤ e)
    (hhigh : e ≤ 800) :
    Limited (parts ⟨Float.Model.pack (UnpackedFloat.normalize Format.binary64 n e s)⟩) := by
  have hround {t : Sign} {q : Nat} (hpos : 0 < q) (hq : q < 2 ^ 128) :
      Limited (parts ⟨Float.Model.pack (UnpackedFloat.round Format.binary64 t q e)⟩) := by
    have hlog : q.log2 < 128 := (Nat.log2_lt hpos.ne').mpr hq
    obtain ⟨m, e', h, hmade, hto, -⟩ := round_normal (s := t) hpos hlow (by omega)
    rw [hmade, parts_pack_finite h hto.inForm]
    trivial
  unfold UnpackedFloat.normalize
  split
  case h_1 hlt =>
    have hneg : n < 0 := compare_lt_iff_lt.mp hlt
    exact hround (by omega) (by omega)
  case h_2 => cases s <;> trivial
  case h_3 hgt =>
    have hpos : 0 < n := compare_gt_iff_gt.mp hgt
    exact hround (by omega) (by omega)

/-- One less than a natural number is finite. -/
lemma limited_sub_one {n : Nat} (hpos : 0 < n) (hn : n < 2 ^ 64) :
    Limited (parts (Scalar.sub (Scalar.ofNat n : Float) (Scalar.ofNat 1))) := by
  obtain ⟨m, e, h, hparts, hto, hlow, hhigh⟩ := parts_ofNat hpos hn
  have hsub : parts (Scalar.sub (Scalar.ofNat n : Float) (Scalar.ofNat 1)) =
      parts ⟨Float.Model.pack (UnpackedFloat.sub Format.binary64 (parts n.toUInt64.toFloat)
        (parts (Scalar.ofNat 1)))⟩ := rfl
  rw [hsub, hparts, parts_one]
  have hmost := hto.inForm.lt
  have hleast : min e (-52) = -52 := by omega
  unfold UnpackedFloat.sub decreaseExponent
  simp only [hleast, Nat.shiftLeft_eq, Sign.apply]
  refine limited_normalize ?_ _ (by norm_num) (by norm_num)
  have hshift : m * 2 ^ (e - -52).toNat < 2 ^ 127 := by
    calc m * 2 ^ (e - -52).toNat < 2 ^ 53 * 2 ^ (e - -52).toNat :=
          Nat.mul_lt_mul_of_pos_right hmost (Nat.two_pow_pos _)
      _ = 2 ^ (53 + (e - -52).toNat) := (pow_add ..).symm
      _ ≤ 2 ^ 127 := Nat.pow_le_pow_right (by norm_num) (by omega)
  have hone : 2 ^ 52 * 2 ^ (-52 - -52 : Int).toNat = 2 ^ 52 := by norm_num
  rw [hone]
  omega

/-! ### Averages -/

/-- An average stays between zero and one. -/
theorem inUnit_fold {rate : Float} (hrate : InUnit rate) {count : Nat} (hpos : 0 < count)
    (hcount : count < 2 ^ 64) (success : Bool) : InUnit (Average.fold rate count success) := by
  obtain ⟨m, e, h, hparts, -⟩ := parts_ofNat hpos hcount
  have houtcome : Limited (parts (Average.outcome success : Float)) := by
    unfold Average.outcome
    split_ifs
    · exact inUnit_one.limited
    · exact inUnit_zero.limited
  have hproduct := mul_ne_notANumber hrate.limited (limited_sub_one hpos hcount)
  exact inUnit_clampUnit (div_ne_notANumber (add_ne_notANumber hproduct houtcome) hparts)

end Retrial.Double
