import Mathlib
import Retrial.Retry.Policy

/-!
# Delays without overflow

The delay before a retry is computed in numbers of 64 bits: the power of two stops at the largest
such number, and so does the product with the base, before the cap is applied.  Under a cap of 64
bits neither stop is seen.  Each is a minimum, and a minimum inside of a product can be moved under
the cap, since a product with what has stopped is zero or beyond every cap (`min_mul_min`).  So the
delay is the capped ideal one, and it grows with the attempt (`RetryPolicy.delay_eq_min_ideal`).
-/

namespace Retrial

/-! ### Numbers that stop -/

/-- A power of two stops at the largest number of 64 bits. -/
lemma saturatingPow2_eq_min (n : ℕ) : saturatingPow2 n = min (2 ^ n) maxWord64 := by
  unfold saturatingPow2
  split_ifs with hn
  · have hle : 2 ^ n ≤ 2 ^ 63 := Nat.pow_le_pow_right Nat.two_pos (Nat.le_of_lt_succ hn)
    exact (min_eq_left (hle.trans (by decide))).symm
  · have hle : 2 ^ 64 ≤ 2 ^ n := Nat.pow_le_pow_right Nat.two_pos (Nat.le_of_not_lt hn)
    exact (min_eq_right (le_trans (by decide) hle)).symm

section Cap

variable {cap : ℕ} (hcap : cap ≤ maxWord64)
include hcap

/-- That a number stops is not seen under the cap. -/
lemma min_min_maxWord64 (a : ℕ) : min (min a maxWord64) cap = min a cap := by
  rw [min_assoc, min_eq_right hcap]

/-- That a factor stops is not seen under the cap either: the product is zero, or as large as the
factor. -/
lemma min_mul_min (a b : ℕ) : min (a * min b maxWord64) cap = min (a * b) cap := by
  obtain rfl | hpos := Nat.eq_zero_or_pos a
  · rw [Nat.zero_mul, Nat.zero_mul]
  · obtain hle | hle := le_total b maxWord64
    · rw [min_eq_left hle]
    · have hstopped : cap ≤ a * maxWord64 := hcap.trans (Nat.le_mul_of_pos_left _ hpos)
      have hwhole : a * maxWord64 ≤ a * b := Nat.mul_le_mul_left a hle
      rw [min_eq_right hle, min_eq_right hstopped, min_eq_right (hstopped.trans hwhole)]

/-- A product that stops, under the cap. -/
lemma min_saturatingMul (a b : ℕ) : min (saturatingMul a b) cap = min (a * b) cap :=
  min_min_maxWord64 hcap (a * b)

end Cap

/-! ### Ideal delays -/

/-- The delay that a backoff asks for after the attempt, in numbers without end. -/
def Backoff.ideal (base attempt : ℕ) : Backoff → ℕ
  | .fixed => base
  | .linear => base * attempt
  | .exponential => base * 2 ^ (attempt - 1)

/-- The ideal delay does not get less from attempt to attempt. -/
lemma Backoff.ideal_mono (base : ℕ) (kind : Backoff) :
    Monotone fun attempt => kind.ideal base attempt := by
  intro attempt later h
  cases kind with
  | fixed => exact le_rfl
  | linear => exact Nat.mul_le_mul_left base h
  | exponential =>
    exact Nat.mul_le_mul_left base (Nat.pow_le_pow_right Nat.two_pos (Nat.sub_le_sub_right h 1))

namespace RetryPolicy

/-- Under a cap of 64 bits, the delay after an attempt is the ideal one up to the cap. -/
lemma delay_eq (p : RetryPolicy) (hcap : p.maxDelayMs ≤ maxWord64) (attempt : ℕ) :
    p.delay attempt = min (p.backoff.ideal p.baseDelayMs (max attempt 1)) p.maxDelayMs := by
  unfold delay
  cases p.backoff with
  | fixed => rfl
  | linear => exact min_saturatingMul hcap _ _
  | exponential =>
    change min (saturatingMul p.baseDelayMs (saturatingPow2 (max attempt 1 - 1))) p.maxDelayMs = _
    rw [saturatingPow2_eq_min, min_saturatingMul hcap, min_mul_min hcap]
    rfl

/-- For every base, and every cap that is a number of 64 bits: the delay after an attempt, the first
one if it is none, is the lesser of the cap and the ideal delay.  So it never exceeds the cap, and
it does not get less from attempt to attempt. -/
theorem delay_eq_min_ideal (p : RetryPolicy) (hcap : p.maxDelayMs ≤ maxWord64) :
    (∀ attempt, p.delay attempt =
      min p.maxDelayMs (p.backoff.ideal p.baseDelayMs (max attempt 1))) ∧
    (∀ attempt, p.delay attempt ≤ p.maxDelayMs) ∧
    Monotone p.delay := by
  refine ⟨fun attempt => ?_, fun attempt => ?_, fun attempt later h => ?_⟩
  · rw [p.delay_eq hcap, min_comm]
  · exact min_le_right _ _
  · have hideal := p.backoff.ideal_mono p.baseDelayMs (max_le_max_right 1 h)
    rw [p.delay_eq hcap, p.delay_eq hcap]
    exact min_le_min_right p.maxDelayMs hideal

/-- A policy that doubles one millisecond, with the largest of all caps. -/
def doubling : RetryPolicy :=
  { fallback "boom" with baseDelayMs := 1, maxDelayMs := maxWord64 }

/-- After the 65th attempt the ideal delay is the first power of two beyond 64 bits, and the delay
is the cap, one less. -/
theorem delay_eq_min_ideal_doubling :
    doubling.maxDelayMs ≤ maxWord64 ∧ doubling.backoff.ideal doubling.baseDelayMs 65 = 2 ^ 64 ∧
      doubling.delay 65 = 2 ^ 64 - 1 ∧ doubling.delay 64 = 2 ^ 63 ∧
      doubling.delay 64 ≤ doubling.delay 65 ∧ doubling.delay 65 ≤ doubling.maxDelayMs := by
  obtain ⟨hideal, hcap, hmono⟩ := delay_eq_min_ideal doubling le_rfl
  refine ⟨le_rfl, rfl, ?_, ?_, hmono (by decide), hcap 65⟩
  · rw [hideal]
    decide
  · rw [hideal]
    decide

end RetryPolicy

end Retrial
