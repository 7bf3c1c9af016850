import Mathlib
import Retrial.Retry.Average

/-!
# Averages in exact fractions

In exact fractions the running average of outcomes is their average.  What carries this is the
weight of the average, the average times the number of outcomes: each outcome adds one to it or
nothing (`blend_mul`), whatever there was before, so after any outcomes the weight has gone up by
the number of successes (`foldAll_mul`).  The average of a number between zero and one and an
outcome lies between zero and one again, so keeping it there changes nothing (`fold_eq_blend`).
-/

namespace Retrial.Average

open Scalar

/-- The average of `count` outcomes, the last of them given apart from the average of the others,
before it is kept between zero and one. -/
def blend {K : Type} [Scalar K] (rate : K) (count : ℕ) (success : Bool) : K :=
  div (add (mul rate (sub (ofNat count) (ofNat 1))) (outcome success)) (ofNat count)

/-- The number of outcomes goes up by one for each. -/
lemma foldAll_fst {K : Type} [Scalar K] (rate : K) (count : ℕ) (outcomes : List Bool) :
    (foldAll rate count outcomes).1 = count + outcomes.length := by
  induction outcomes generalizing rate count with
  | nil => rfl
  | cons success rest ih =>
    rw [foldAll, ih, List.length_cons]
    omega

variable {rate : ℚ}

/-- The new average weighs as much as the old one and the outcome. -/
lemma blend_mul (rate : ℚ) (count : ℕ) (success : Bool) :
    blend rate (count + 1) success * (count + 1) =
      rate * count + if success then 1 else 0 := by
  have hcount : ((count : ℚ) + 1) ≠ 0 := by positivity
  have hblend : blend rate (count + 1) success =
      (rate * (((count + 1 : ℕ) : ℚ) - ((1 : ℕ) : ℚ)) + ((if success then 1 else 0 : ℕ) : ℚ)) /
        ((count + 1 : ℕ) : ℚ) := rfl
  rw [hblend]
  push_cast
  rw [div_mul_cancel₀ _ hcount, add_sub_cancel_right]

/-- The average with one more outcome lies between zero and one. -/
lemma blend_mem (hrate : rate ∈ Set.Icc 0 1) (count : ℕ) (success : Bool) :
    blend rate (count + 1) success ∈ Set.Icc (0 : ℚ) 1 := by
  have hpos : (0 : ℚ) < count + 1 := by positivity
  have hweight := blend_mul rate count success
  have houtcome : (if success then 1 else 0 : ℚ) ∈ Set.Icc (0 : ℚ) 1 := by
    cases success <;> norm_num
  have hold : rate * count ∈ Set.Icc (0 : ℚ) count :=
    ⟨mul_nonneg hrate.1 (Nat.cast_nonneg _), mul_le_of_le_one_left (Nat.cast_nonneg _) hrate.2⟩
  constructor
  · refine nonneg_of_mul_nonneg_left ?_ hpos
    rw [hweight]
    exact add_nonneg hold.1 houtcome.1
  · refine le_of_mul_le_mul_right ?_ hpos
    rw [hweight, one_mul]
    exact add_le_add hold.2 houtcome.2

/-- A fraction between zero and one is kept as it is. -/
lemma clampUnit_of_mem {x : ℚ} (hx : x ∈ Set.Icc 0 1) : clampUnit x = x := by
  have hbelow : less x (ofNat 0) = false := decide_eq_false (not_lt.mpr hx.1)
  have habove : less (ofNat 1) x = false := decide_eq_false (not_lt.mpr hx.2)
  unfold clampUnit
  rw [hbelow, habove]
  rfl

/-- Keeping the new average between zero and one does not change it. -/
lemma fold_eq_blend (hrate : rate ∈ Set.Icc 0 1) (count : ℕ) (success : Bool) :
    fold rate (count + 1) success = blend rate (count + 1) success :=
  clampUnit_of_mem (blend_mem hrate count success)

/-- After any outcomes the average lies between zero and one, and its weight has gone up by the
number of successes. -/
lemma foldAll_mul (hrate : rate ∈ Set.Icc 0 1) (count : ℕ) (outcomes : List Bool) :
    (foldAll rate count outcomes).2 ∈ Set.Icc (0 : ℚ) 1 ∧
      (foldAll rate count outcomes).2 * (count + outcomes.length) =
        rate * count + outcomes.count true := by
  induction outcomes generalizing rate count with
  | nil => exact ⟨hrate, by simp [foldAll]⟩
  | cons success rest ih =>
    have hnext : fold rate (count + 1) success ∈ Set.Icc (0 : ℚ) 1 := by
      rw [fold_eq_blend hrate]
      exact blend_mem hrate count success
    obtain ⟨hmem, hweight⟩ := ih hnext (count + 1)
    refine ⟨hmem, ?_⟩
    have hcounted : ((success :: rest).count true : ℚ) =
        (if success then 1 else 0) + rest.count true := by
      rw [List.count_cons, Nat.cast_add, add_comm]
      cases success <;> rfl
    calc (foldAll rate count (success :: rest)).2 * (count + (success :: rest).length)
        = (foldAll (fold rate (count + 1) success) (count + 1) rest).2 *
            ((count + 1 : ℕ) + rest.length) := by
          rw [foldAll, List.length_cons]
          push_cast
          ring
      _ = blend rate (count + 1) success * (count + 1) + rest.count true := by
          rw [hweight, fold_eq_blend hrate, Nat.cast_succ]
      _ = rate * count + (success :: rest).count true := by
          rw [blend_mul, hcounted, add_assoc]

/-- After some outcomes the average is that of all of them: the weight there was, and one for each
success, over the number of outcomes. -/
theorem foldAll_eq (hrate : rate ∈ Set.Icc 0 1) (count : ℕ) {outcomes : List Bool}
    (hsome : outcomes ≠ []) :
    foldAll rate count outcomes = (count + outcomes.length,
      (rate * count + outcomes.count true) / (count + outcomes.length)) := by
  have hlength : (0 : ℚ) < outcomes.length := by
    exact_mod_cast List.length_pos_of_ne_nil hsome
  have hpos : (count + outcomes.length : ℚ) ≠ 0 := by positivity
  exact Prod.ext (foldAll_fst rate count outcomes)
    (eq_div_of_mul_eq hpos (foldAll_mul hrate count outcomes).2)

/-- The order of outcomes does not matter. -/
theorem foldAll_perm (hrate : rate ∈ Set.Icc 0 1) (count : ℕ) {outcomes outcomes' : List Bool}
    (h : outcomes'.Perm outcomes) :
    foldAll rate count outcomes' = foldAll rate count outcomes := by
  cases outcomes with
  | nil => rw [h.eq_nil]
  | cons success rest =>
    have hsome : outcomes' ≠ [] := fun hnil => by
      rw [hnil] at h
      exact List.cons_ne_nil _ _ h.symm.eq_nil
    rw [foldAll_eq hrate count hsome, foldAll_eq hrate count (List.cons_ne_nil success rest),
      h.length_eq, h.count_eq]

/-- From nothing, the average is the fraction of successes; without outcomes it stays at zero. -/
theorem foldAll_zero (outcomes : List Bool) :
    foldAll (0 : ℚ) 0 outcomes =
      (outcomes.length, (outcomes.count true : ℚ) / outcomes.length) := by
  cases outcomes with
  | nil => simp [foldAll]
  | cons success rest =>
    have hzero : (0 : ℚ) ∈ Set.Icc 0 1 := ⟨le_rfl, zero_le_one⟩
    have h := foldAll_eq hzero 0 (List.cons_ne_nil success rest)
    rwa [zero_mul, zero_add, Nat.cast_zero, zero_add, zero_add] at h

end Retrial.Average
