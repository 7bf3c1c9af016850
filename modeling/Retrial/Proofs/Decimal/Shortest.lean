import Retrial.Decimal.Shortest
import Retrial.Proofs.Double.Rounding

/-!
# The shortest decimal rounds to the double

The interval of a double is the interval of the numbers that round to it (`holds_iff`).  On the grid
of decimals with a last place the double lies between two neighbours; whichever is taken lies in the
interval (`onGrid_spec`), and with seventeen digits the nearer one always does (`onGrid_isSome`),
because the grid is then finer than the doubles.  So the decimal that is printed rounds to the
double, and its digits are few (`shortest_spec`).
-/

namespace Retrial.Decimal

open Double (RoundsTo InForm gapBelow)

variable {m : Nat} {e : Int}

/-- The value of a decimal. -/
def Scientific.value (s : Scientific) : ℚ := s.digits * 10 ^ s.exponent

/-! ### The interval -/

lemma scaled_snd_pos (a : Nat) (e : Int) : 0 < (scaled a e).2 := by
  unfold scaled
  simp only [Nat.pow_eq]
  split_ifs
  · exact Nat.one_pos
  · exact Nat.two_pow_pos _

/-- The denominator is a matter of the exponent. -/
lemma scaled_snd (a b : Nat) (e : Int) : (scaled a e).2 = (scaled b e).2 := by
  unfold scaled
  split_ifs <;> rfl

/-- The fraction is the mantissa with the exponent. -/
lemma scaled_value (a : Nat) (e : Int) : ((scaled a e).1 : ℚ) / (scaled a e).2 = a * 2 ^ e := by
  unfold scaled
  simp only [Nat.pow_eq]
  split_ifs with he
  · have hexponent : (2 : ℚ) ^ e = 2 ^ e.toNat := by
      rw [← zpow_natCast, Int.toNat_of_nonneg he]
    rw [hexponent]
    push_cast
    ring
  · have hexponent : (2 : ℚ) ^ e = (2 ^ (-e).toNat)⁻¹ := by
      rw [← zpow_natCast, Int.toNat_of_nonneg (by omega), zpow_neg, inv_inv]
    rw [hexponent]
    push_cast
    ring

lemma Interval.den_pos (m : Nat) (e : Int) : 0 < (Interval.of m e).den := scaled_snd_pos _ _

/-- The interval's value. -/
lemma Interval.value_div (m : Nat) (e : Int) :
    ((Interval.of m e).value : ℚ) / (Interval.of m e).den = m * 2 ^ e := by
  have hvalue := scaled_value (4 * m) (e - 2)
  have hquarter : (2 : ℚ) ^ (e - 2) = 2 ^ e / 4 := by
    rw [zpow_sub₀ (by norm_num)]
    norm_num
  rw [hquarter] at hvalue
  refine hvalue.trans ?_
  push_cast
  ring

/-- The interval's lower end. -/
lemma Interval.lower_div (hm : 0 < m) (e : Int) :
    ((Interval.of m e).lower : ℚ) / (Interval.of m e).den =
      (4 * m - gapBelow m e) * 2 ^ (e - 2) := by
  have hgap : ((if m == Nat.pow 2 52 && e != -1074 then 1 else 2 : Nat) : ℚ) = gapBelow m e := by
    unfold gapBelow
    simp only [Nat.pow_eq, Bool.and_eq_true, beq_iff_eq, bne_iff_ne]
    split_ifs <;> norm_num
  have hle : (if m == Nat.pow 2 52 && e != -1074 then 1 else 2) ≤ 4 * m := by
    split_ifs <;> omega
  unfold Interval.of
  simp only
  rw [scaled_snd (4 * m) (4 * m - if m == Nat.pow 2 52 && e != -1074 then 1 else 2), scaled_value,
    Nat.cast_sub hle, hgap]
  push_cast
  ring

/-- The interval's upper end. -/
lemma Interval.upper_div (m : Nat) (e : Int) :
    ((Interval.of m e).upper : ℚ) / (Interval.of m e).den = (4 * m + 2) * 2 ^ (e - 2) := by
  unfold Interval.of
  simp only
  rw [scaled_snd (4 * m) (4 * m + 2), scaled_value]
  push_cast
  ring

/-- The interval holds the numbers that round to the double. -/
theorem Interval.holds_iff (h : InForm m e) {c k : Nat} (hk : 0 < k) :
    (Interval.of m e).holds c k = true ↔ RoundsTo (c / ((Interval.of m e).den * k)) m e := by
  have hden := Interval.den_pos m e
  have hlower := Interval.lower_div h.pos e
  have hupper := Interval.upper_div m e
  have hclosed : (Interval.of m e).closed = (m % 2 == 0) := rfl
  generalize Interval.of m e = i at *
  have hden' : (0 : ℚ) < i.den := by exact_mod_cast hden
  have hk' : (0 : ℚ) < k := by exact_mod_cast hk
  have hle {a b : Nat} : (a : ℚ) / i.den ≤ b / (i.den * k) ↔ a * k ≤ b := by
    rw [div_le_div_iff₀ hden' (by positivity), mul_comm (i.den : ℚ) k, ← mul_assoc,
      mul_le_mul_iff_left₀ hden']
    exact_mod_cast Iff.rfl
  have hge {a b : Nat} : (b : ℚ) / (i.den * k) ≤ a / i.den ↔ b ≤ a * k := by
    rw [div_le_div_iff₀ (by positivity) hden', mul_comm (i.den : ℚ) k, ← mul_assoc,
      mul_le_mul_iff_left₀ hden']
    exact_mod_cast Iff.rfl
  have hends : RoundsTo (c / (i.den * k)) m e ↔
      (i.lower * k ≤ c ∧ c ≤ i.upper * k) ∧ (m % 2 = 1 → i.lower * k < c ∧ c < i.upper * k) := by
    constructor
    · rintro ⟨-, hl, hu, hl', hu'⟩
      rw [← hlower] at hl hl'
      rw [← hupper] at hu hu'
      refine ⟨⟨hle.mp hl, hge.mp hu⟩, fun hodd => ⟨?_, ?_⟩⟩
      · exact not_le.mp fun hback => hl' hodd (le_antisymm hl (hge.mpr hback))
      · exact not_le.mp fun hback => hu' hodd (le_antisymm hu (hle.mpr hback))
    · rintro ⟨⟨hl, hu⟩, hstrict⟩
      refine ⟨h, ?_, ?_, fun hodd heq => ?_, fun hodd heq => ?_⟩
      · rw [← hlower]
        exact hle.mpr hl
      · rw [← hupper]
        exact hge.mpr hu
      · rw [← hlower] at heq
        exact absurd (hge.mp heq.ge) (not_le.mpr (hstrict hodd).1)
      · rw [← hupper] at heq
        exact absurd (hle.mp heq.ge) (not_le.mpr (hstrict hodd).2)
  rw [hends]
  unfold Interval.holds
  rw [hclosed]
  rcases Nat.mod_two_eq_zero_or_one m with heven | hodd
  · simp [heven]
  · simp only [hodd, Nat.reduceBEq, Bool.false_eq_true, if_false, Bool.and_eq_true,
      decide_eq_true_eq]
    exact ⟨fun hin => ⟨⟨hin.1.le, hin.2.le⟩, fun _ => hin⟩, fun hin => hin.2 trivial⟩

/-! ### The grid -/

/-- What is known of a look at the two neighbours on the grid of multiples of a power of ten. -/
structure Look (m : Nat) (e place : Int) where
  /-- How many steps of the grid lie below the double. -/
  floor : Nat
  /-- Whether the neighbour below lies in the interval. -/
  low : Bool
  /-- Whether the neighbour above does. -/
  high : Bool
  /-- Whether the neighbour below is taken if both do. -/
  near : Bool
  floor_le : floor * 10 ^ place ≤ m * (2 : ℚ) ^ e
  lt_floor : m * (2 : ℚ) ^ e < (floor + 1) * 10 ^ place
  low_iff : low = true ↔ 0 < floor ∧ RoundsTo (floor * 10 ^ place) m e
  high_iff : high = true ↔ RoundsTo ((floor + 1) * 10 ^ place) m e
  le_of_near : near = true → m * (2 : ℚ) ^ e ≤ (floor + 1 / 2) * 10 ^ place
  le_of_far : near = false → (floor + 1 / 2) * 10 ^ place ≤ m * (2 : ℚ) ^ e

/-- The neighbour that a look decides for. -/
def Look.choice {m : Nat} {e place : Int} (l : Look m e place) : Option Scientific :=
  if l.low && (l.near || !l.high) then some ⟨l.floor, place⟩
  else if l.high then some ⟨l.floor + 1, place⟩
  else none

/-- A step of the grid is a quotient of two positive numbers. -/
lemma exists_gridStep (place : Int) :
    ∃ down up : Nat, (if 0 ≤ place then 1 else 10 ^ (-place).toNat) = down ∧
      (if 0 ≤ place then 10 ^ place.toNat else 1) = up ∧ 0 < down ∧ 0 < up ∧
      (up : ℚ) / down = 10 ^ place := by
  refine ⟨_, _, rfl, rfl, ?_⟩
  split_ifs with hplace
  · refine ⟨Nat.one_pos, by positivity, ?_⟩
    rw [Nat.cast_one, div_one]
    push_cast
    rw [← zpow_natCast, Int.toNat_of_nonneg hplace]
  · refine ⟨by positivity, Nat.one_pos, ?_⟩
    rw [Nat.cast_one, one_div]
    push_cast
    rw [← zpow_natCast, Int.toNat_of_nonneg (by omega), zpow_neg, inv_inv]

/-- How far the double lies above the step of the grid below it. -/
lemma Interval.exists_rest (m : Nat) (e : Int) {place : Int} {down up : Nat} (hdown : 0 < down)
    (hup : 0 < up) (hstep : (up : ℚ) / down = 10 ^ place) {floor rest : Nat}
    (hdivide : (Interval.of m e).den * up * floor + rest = (Interval.of m e).value * down)
    (hrest : rest < (Interval.of m e).den * up) :
    ∃ r : ℚ, m * 2 ^ e = floor * 10 ^ place + r ∧ 0 ≤ r ∧ r < 10 ^ place ∧
      (2 * rest ≤ (Interval.of m e).den * up → 2 * r ≤ 10 ^ place) ∧
      ((Interval.of m e).den * up ≤ 2 * rest → 10 ^ place ≤ 2 * r) := by
  have hden := Interval.den_pos m e
  have hvalue := Interval.value_div m e
  generalize Interval.of m e = i at *
  have hden' : (0 : ℚ) < i.den := by exact_mod_cast hden
  have hdown' : (0 : ℚ) < down := by exact_mod_cast hdown
  have hscale : (0 : ℚ) < i.den * down := mul_pos hden' hdown'
  have hunit : (10 : ℚ) ^ place = (i.den * up : Nat) / (i.den * down) := by
    rw [← hstep]
    push_cast
    field_simp
  rw [hunit]
  refine ⟨rest / (i.den * down), ?_, by positivity, ?_, fun hhalf => ?_, fun hhalf => ?_⟩
  · have hdivide' : (i.den * up : Nat) * (floor : ℚ) + rest = i.value * down := by
      exact_mod_cast hdivide
    rw [← hvalue, mul_div_assoc', ← add_div, mul_comm (floor : ℚ), hdivide']
    field_simp
  · exact div_lt_div_of_pos_right (by exact_mod_cast hrest) hscale
  · rw [mul_div_assoc']
    exact div_le_div_of_nonneg_right (by exact_mod_cast hhalf) hscale.le
  · rw [mul_div_assoc']
    exact div_le_div_of_nonneg_right (by exact_mod_cast hhalf) hscale.le

/-- The grid is looked at. -/
lemma Interval.exists_look (h : InForm m e) (place : Int) :
    ∃ l : Look m e place, (Interval.of m e).onGrid place = l.choice := by
  obtain ⟨down, up, hdowneq, hupeq, hdown, hup, hstep⟩ := exists_gridStep place
  have hden := Interval.den_pos m e
  have hunit : 0 < (Interval.of m e).den * up := Nat.mul_pos hden hup
  -- A neighbour fits if it rounds to the double.
  have hfits (c : Nat) :
      (Interval.of m e).holds (c * ((Interval.of m e).den * up)) down = true ↔
        RoundsTo (c * 10 ^ place) m e := by
    have hden' : ((Interval.of m e).den : ℚ) ≠ 0 := by exact_mod_cast hden.ne'
    have hsteps : ((c * ((Interval.of m e).den * up) : Nat) : ℚ) / ((Interval.of m e).den * down) =
        c * 10 ^ place := by
      rw [← hstep]
      push_cast
      field_simp
    rw [Interval.holds_iff h hdown, hsteps]
  unfold Interval.onGrid
  simp only [Nat.pow_eq, hdowneq, hupeq]
  have hdivide := Nat.div_add_mod ((Interval.of m e).value * down) ((Interval.of m e).den * up)
  have hrest := Nat.mod_lt ((Interval.of m e).value * down) hunit
  generalize (Interval.of m e).value * down / ((Interval.of m e).den * up) = floor at *
  generalize (Interval.of m e).value * down % ((Interval.of m e).den * up) = rest at *
  obtain ⟨r, hbetween, hnonneg, hlt, hnear, hfar⟩ :=
    Interval.exists_rest m e hdown hup hstep hdivide hrest
  have hsplit : (Interval.of m e).value * down - floor * ((Interval.of m e).den * up) = rest := by
    rw [← hdivide, Nat.mul_comm floor, Nat.add_sub_cancel_left]
  rw [← Nat.succ_mul]
  simp only [hsplit]
  refine ⟨⟨floor, decide (0 < floor) &&
      (Interval.of m e).holds (floor * ((Interval.of m e).den * up)) down,
    (Interval.of m e).holds (floor.succ * ((Interval.of m e).den * up)) down,
    decide (2 * rest < (Interval.of m e).den * up) ||
      2 * rest == (Interval.of m e).den * up && floor % 2 == 0, ?_, ?_, ?_, ?_, ?_, ?_⟩, rfl⟩
  · rw [hbetween]
    linarith
  · rw [hbetween]
    linarith
  · rw [Bool.and_eq_true, decide_eq_true_eq, hfits]
  · rw [hfits, Nat.cast_succ]
  · intro htrue
    simp only [Bool.or_eq_true, Bool.and_eq_true, decide_eq_true_eq, beq_iff_eq] at htrue
    have hhalf := hnear (by omega)
    rw [hbetween]
    linarith
  · intro hfalse
    simp only [Bool.or_eq_false_iff, decide_eq_false_iff_not] at hfalse
    have hhalf := hfar (by omega)
    rw [hbetween]
    linarith

/-- What is taken from the grid rounds to the double, and lies less than a step above it. -/
theorem Interval.onGrid_spec (h : InForm m e) {place : Int} {s : Scientific}
    (hs : (Interval.of m e).onGrid place = some s) :
    s.exponent = place ∧ 0 < s.digits ∧ ((s.digits : ℚ) - 1) * 10 ^ place ≤ m * 2 ^ e ∧
      RoundsTo s.value m e := by
  obtain ⟨l, hlook⟩ := Interval.exists_look h place
  have hstep : (0 : ℚ) < 10 ^ place := by positivity
  have hfloor := l.floor_le
  rw [hlook] at hs
  unfold Look.choice at hs
  split_ifs at hs with hlow hhigh
  · obtain ⟨hpos, hto⟩ := l.low_iff.mp (Bool.and_eq_true_iff.mp hlow).1
    obtain rfl := Option.some.inj hs
    exact ⟨rfl, hpos, by simp only; linarith, hto⟩
  · have hto := l.high_iff.mp hhigh
    obtain rfl := Option.some.inj hs
    refine ⟨rfl, Nat.succ_pos _, ?_, ?_⟩
    · push_cast
      linarith
    · unfold Scientific.value
      push_cast
      exact hto

/-- A number close to the double rounds to it. -/
lemma roundsTo_of_close (h : InForm m e) {v : ℚ}
    (hlower : m * 2 ^ e - m * 2 ^ e / (2 * 10 ^ 16) ≤ v)
    (hupper : v ≤ m * 2 ^ e + m * 2 ^ e / (2 * 10 ^ 16)) : RoundsTo v m e := by
  have hunit : (0 : ℚ) < 2 ^ (e - 2) := by positivity
  have hvalue : (m : ℚ) * 2 ^ e = 4 * m * 2 ^ (e - 2) := by
    rw [zpow_sub₀ (by norm_num)]
    ring
  have hlt : (m : ℚ) < 2 ^ 53 := by exact_mod_cast h.lt
  have hgap : 4 * (m : ℚ) / (2 * 10 ^ 16) < gapBelow m e := by
    unfold gapBelow
    split_ifs with hpower
    · rw [hpower.1]
      norm_num
    · rw [div_lt_iff₀ (by norm_num)]
      linarith
  have htwo : 4 * (m : ℚ) / (2 * 10 ^ 16) < 2 := by
    rw [div_lt_iff₀ (by norm_num)]
    linarith
  rw [hvalue] at hlower hupper
  have hfrom : (4 * (m : ℚ) - gapBelow m e) * 2 ^ (e - 2) < v := by
    refine lt_of_lt_of_le ?_ hlower
    calc (4 * (m : ℚ) - gapBelow m e) * 2 ^ (e - 2)
        < (4 * m - 4 * m / (2 * 10 ^ 16)) * 2 ^ (e - 2) :=
          mul_lt_mul_of_pos_right (by linarith) hunit
      _ = 4 * m * 2 ^ (e - 2) - 4 * m * 2 ^ (e - 2) / (2 * 10 ^ 16) := by ring
  have hto : v < (4 * (m : ℚ) + 2) * 2 ^ (e - 2) := by
    refine lt_of_le_of_lt hupper ?_
    calc 4 * (m : ℚ) * 2 ^ (e - 2) + 4 * m * 2 ^ (e - 2) / (2 * 10 ^ 16)
        = (4 * m + 4 * m / (2 * 10 ^ 16)) * 2 ^ (e - 2) := by ring
      _ < (4 * (m : ℚ) + 2) * 2 ^ (e - 2) := mul_lt_mul_of_pos_right (by linarith) hunit
  exact ⟨h, hfrom.le, hto.le, fun _ => hfrom.ne, fun _ => hto.ne⟩

/-- On a grid of seventeen digits a neighbour is taken. -/
theorem Interval.onGrid_isSome (h : InForm m e) {place : Int}
    (hfine : (10 : ℚ) ^ 16 * 10 ^ place ≤ m * 2 ^ e) :
    ((Interval.of m e).onGrid place).isSome = true := by
  obtain ⟨l, hlook⟩ := Interval.exists_look h place
  have hstep : (0 : ℚ) < 10 ^ place := by positivity
  have hfloor := l.floor_le
  have hceil := l.lt_floor
  have hhalf : (10 : ℚ) ^ place / 2 ≤ m * 2 ^ e / (2 * 10 ^ 16) := by
    rw [div_le_div_iff₀ (by norm_num) (by norm_num)]
    linarith
  rw [hlook]
  unfold Look.choice
  cases hnear : l.near with
  | true =>
    have hle := l.le_of_near hnear
    have hlow : l.low = true := by
      refine l.low_iff.mpr ⟨Nat.pos_of_ne_zero fun hzero => ?_, roundsTo_of_close h ?_ ?_⟩
      · rw [hzero] at hceil
        push_cast at hceil
        linarith
      · linarith
      · linarith
    simp [hlow]
  | false =>
    have hle := l.le_of_far hnear
    have hhigh : l.high = true := l.high_iff.mpr (roundsTo_of_close h (by linarith) (by linarith))
    simp [hhigh]

/-! ### The leading digit -/

/-- A positive number has as many digits as its size says. -/
lemma length_toDigits_spec {q : Nat} (hq : 0 < q) :
    10 ^ ((Nat.toDigits 10 q).length - 1) ≤ q ∧ q < 10 ^ (Nat.toDigits 10 q).length := by
  have hlength : 0 < (Nat.toDigits 10 q).length := Nat.length_toDigits_pos
  refine ⟨?_, (Nat.length_toDigits_le_iff (by norm_num) hlength).mp le_rfl⟩
  rcases Nat.eq_zero_or_pos ((Nat.toDigits 10 q).length - 1) with hone | hmore
  · rw [hone]
    exact hq
  · refine not_lt.mp fun hlt => ?_
    have hle := (Nat.length_toDigits_le_iff (by norm_num) hmore).mpr hlt
    omega

/-- The place of the leading digit, for a number of at least one. -/
lemma leadingPlace_whole {num den : Nat} (hden : 0 < den) (hle : den ≤ num) :
    (10 : ℚ) ^ leadingPlace num den ≤ num / den ∧
      (num : ℚ) / den < 10 ^ (leadingPlace num den + 1) := by
  have hden' : (0 : ℚ) < den := by exact_mod_cast hden
  have hdigits : (toString (num / den)).length = (Nat.toDigits 10 (num / den)).length := by
    rw [← String.length_toList]
    exact congrArg List.length Nat.toList_repr
  have hpos : 0 < (Nat.toDigits 10 (num / den)).length := Nat.length_toDigits_pos
  have hlead : leadingPlace num den = ((Nat.toDigits 10 (num / den)).length - 1 : Nat) := by
    unfold leadingPlace
    rw [if_pos hle, hdigits]
    omega
  obtain ⟨hleast, hmost⟩ := length_toDigits_spec (Nat.div_pos hle hden)
  have hup : (num / den : Nat) + 1 ≤ 10 ^ ((Nat.toDigits 10 (num / den)).length - 1 + 1) := by
    rw [Nat.sub_add_cancel hpos]
    exact hmost
  rw [hlead]
  generalize (Nat.toDigits 10 (num / den)).length - 1 = k at *
  have hsplit := Nat.div_add_mod num den
  have hrest := Nat.mod_lt num hden
  constructor
  · rw [le_div_iff₀ hden', zpow_natCast]
    have hle' : 10 ^ k * den ≤ num :=
      (Nat.mul_le_mul_right den hleast).trans (Nat.div_mul_le_self num den)
    exact_mod_cast hle'
  · rw [div_lt_iff₀ hden', ← Nat.cast_succ, zpow_natCast]
    have hlt' : num < 10 ^ (k + 1) * den := by
      calc num < (num / den + 1) * den := by
            rw [add_one_mul, Nat.mul_comm]
            omega
        _ ≤ 10 ^ (k + 1) * den := Nat.mul_le_mul_right den hup
    exact_mod_cast hlt'

/-- The place of the leading digit, for a number below one. -/
lemma leadingPlace_fraction {num den : Nat} (hlt : num < den)
    (hsize : den ≤ num * 10 ^ (399 + 1)) :
    (10 : ℚ) ^ leadingPlace num den ≤ num / den ∧
      (num : ℚ) / den < 10 ^ (leadingPlace num den + 1) := by
  have hden' : (0 : ℚ) < den := by exact_mod_cast (Nat.zero_le num).trans_lt hlt
  have hlead : leadingPlace num den =
      -((((List.range 400).find? fun j => den ≤ num * 10 ^ (j + 1)).getD 0 + 1 : Nat) : Int) := by
    unfold leadingPlace
    rw [if_neg (not_le.mpr hlt)]
    rfl
  cases hfind : (List.range 400).find? fun j => den ≤ num * 10 ^ (j + 1) with
  | none =>
    have hnone := List.find?_range_eq_none.mp hfind 399 (by norm_num)
    simp only [Bool.not_eq_true', decide_eq_false_iff_not] at hnone
    exact absurd hsize hnone
  | some j =>
    obtain ⟨hj, -, hfirst⟩ := List.find?_range_eq_some.mp hfind
    rw [decide_eq_true_eq] at hj
    have hbefore : num * 10 ^ j < den := by
      rcases Nat.eq_zero_or_pos j with rfl | hpos
      · simpa using hlt
      · have hlast := hfirst (j - 1) (by omega)
        rw [Nat.sub_add_cancel hpos, Bool.not_eq_true', decide_eq_false_iff_not] at hlast
        exact not_le.mp hlast
    rw [hlead, hfind, Option.getD_some]
    constructor
    · rw [zpow_neg, zpow_natCast, le_div_iff₀ hden', inv_mul_le_iff₀ (by positivity), mul_comm]
      exact_mod_cast hj
    · have hplace : -((j + 1 : Nat) : Int) + 1 = -(j : Int) := by
        push_cast
        ring
      rw [hplace, zpow_neg, zpow_natCast, div_lt_iff₀ hden', ← div_eq_inv_mul,
        lt_div_iff₀ (by positivity)]
      exact_mod_cast hbefore

/-- The doubles lie above a power of ten. -/
lemma tiny_le_zpow (he : -1200 ≤ e) : (10 : ℚ) ^ (-400 : Int) ≤ 2 ^ e := by
  have hthree : (2 : ℚ) ^ (-1200 : Int) = (8 ^ (400 : Int))⁻¹ := by
    rw [show (8 : ℚ) = 2 ^ (3 : Int) by norm_num, ← zpow_mul, ← zpow_neg]
    norm_num
  have hten : (8 : ℚ) ^ (400 : Int) ≤ 10 ^ (400 : Int) :=
    zpow_le_zpow_left₀ (by norm_num) (by norm_num) (by norm_num)
  calc (10 : ℚ) ^ (-400 : Int) = (10 ^ (400 : Int))⁻¹ := zpow_neg _ _
    _ ≤ (8 ^ (400 : Int))⁻¹ := inv_anti₀ (by positivity) hten
    _ = 2 ^ (-1200 : Int) := hthree.symm
    _ ≤ 2 ^ e := zpow_le_zpow_right₀ (by norm_num) he

/-- The place of the leading digit of a double. -/
lemma leadingPlace_spec (h : InForm m e) :
    (10 : ℚ) ^ leadingPlace (Interval.of m e).value (Interval.of m e).den ≤ m * 2 ^ e ∧
      m * (2 : ℚ) ^ e < 10 ^ (leadingPlace (Interval.of m e).value (Interval.of m e).den + 1) := by
  have hden := Interval.den_pos m e
  have hvalue := Interval.value_div m e
  have htiny : 1 ≤ (m : ℚ) * 2 ^ e * 10 ^ (399 + 1) := by
    have hone : (1 : ℚ) ≤ m := by exact_mod_cast h.pos
    have hleast := tiny_le_zpow (by linarith [h.low] : -1200 ≤ e)
    have hplaces : (10 : ℚ) ^ (-400 : Int) = (10 ^ (399 + 1))⁻¹ := by
      rw [show (-400 : Int) = -((399 + 1 : Nat) : Int) by norm_num, zpow_neg, zpow_natCast]
    rw [hplaces] at hleast
    calc (1 : ℚ) = 1 * (10 ^ (399 + 1))⁻¹ * 10 ^ (399 + 1) := by
          rw [one_mul, inv_mul_cancel₀ (by positivity)]
      _ ≤ m * 2 ^ e * 10 ^ (399 + 1) := by gcongr
  rw [← hvalue] at htiny ⊢
  generalize Interval.of m e = i at *
  have hden' : (0 : ℚ) < i.den := by exact_mod_cast hden
  rcases Nat.lt_or_ge i.value i.den with hlt | hle
  · refine leadingPlace_fraction hlt ?_
    rw [div_mul_eq_mul_div, le_div_iff₀ hden', one_mul] at htiny
    exact_mod_cast htiny
  · exact leadingPlace_whole hden hle

/-! ### The shortest decimal -/

/-- Dropping trailing zeros keeps the value and makes the digits no more. -/
lemma Scientific.trim_spec (fuel : Nat) (s : Scientific) (hs : 0 < s.digits) :
    (s.trim fuel).value = s.value ∧ 0 < (s.trim fuel).digits ∧
      (s.trim fuel).digits ≤ s.digits := by
  induction fuel generalizing s with
  | zero => exact ⟨rfl, hs, le_rfl⟩
  | succ fuel ih =>
    unfold Scientific.trim
    split_ifs with hzero
    · simp only [Bool.and_eq_true, beq_iff_eq] at hzero
      have hpos : 0 < s.digits / 10 := by omega
      obtain ⟨hvalue, hdigits, hle⟩ := ih ⟨s.digits / 10, s.exponent + 1⟩ hpos
      refine ⟨hvalue.trans ?_, hdigits, hle.trans (Nat.div_le_self _ _)⟩
      have htens : (s.digits : ℚ) = (s.digits / 10 : Nat) * 10 := by
        exact_mod_cast (Nat.div_mul_cancel (Nat.dvd_of_mod_eq_zero hzero.1)).symm
      unfold Scientific.value
      rw [htens, zpow_add_one₀ (by norm_num)]
      ring
    · exact ⟨rfl, hs, le_rfl⟩

/-- The decimal that is printed has at most seventeen digits and rounds to the double. -/
theorem shortest_spec (h : InForm m e) :
    0 < (shortest m e).digits ∧ (shortest m e).digits ≤ 10 ^ 17 ∧
      RoundsTo (shortest m e).value m e := by
  obtain ⟨hleast, hmost⟩ := leadingPlace_spec h
  unfold shortest
  simp only
  generalize leadingPlace (Interval.of m e).value (Interval.of m e).den = lead at *
  cases hfind : (List.range 17).findSome? fun (n : Nat) => (Interval.of m e).onGrid (lead - n) with
  | none =>
    have hnone := List.findSome?_eq_none_iff.mp hfind 16 (by simp)
    have hfine : (10 : ℚ) ^ 16 * 10 ^ (lead - (16 : Nat)) ≤ m * 2 ^ e := by
      refine le_trans (le_of_eq ?_) hleast
      rw [zpow_sub₀ (by norm_num), zpow_natCast]
      field_simp
    have hsome := Interval.onGrid_isSome h hfine
    rw [hnone] at hsome
    exact absurd hsome Bool.false_ne_true
  | some s =>
    obtain ⟨n, hn, hs⟩ := List.exists_of_findSome?_eq_some hfind
    obtain ⟨-, hpos, hbelow, hto⟩ := Interval.onGrid_spec h hs
    obtain ⟨hvalue, hpos', hle⟩ := Scientific.trim_spec 20 s hpos
    refine ⟨hpos', hle.trans ?_, hvalue ▸ hto⟩
    have hstep : (0 : ℚ) < 10 ^ (lead - (n : Int)) := by positivity
    have hdigits : (s.digits : ℚ) - 1 < 10 ^ 17 := by
      have hlt := hbelow.trans_lt hmost
      rw [← lt_div_iff₀ hstep, ← zpow_sub₀ (by norm_num)] at hlt
      refine hlt.trans_le ?_
      rw [show lead + 1 - (lead - (n : Int)) = (n + 1 : Nat) by push_cast; ring, zpow_natCast]
      exact pow_le_pow_right₀ (by norm_num) (by have := List.mem_range.mp hn; omega)
    have hdigits' : (s.digits : ℚ) < 10 ^ 17 + 1 := by linarith
    exact Nat.lt_succ_iff.mp (by exact_mod_cast hdigits')

/-- A neighbour on a grid is taken only if it is not zero. -/
lemma Interval.digits_pos_of_onGrid {i : Interval} {place : Int} {s : Scientific}
    (h : i.onGrid place = some s) : 0 < s.digits := by
  unfold Interval.onGrid at h
  generalize (if 0 ≤ place then 1 else Nat.pow 10 (-place).toNat) = down at h
  generalize (if 0 ≤ place then Nat.pow 10 place.toNat else 1) = up at h
  simp only at h
  split_ifs at h with hlow hhigh
  · obtain rfl := Option.some.inj h
    simp only [Bool.and_eq_true, decide_eq_true_eq] at hlow
    exact hlow.1.1
  · obtain rfl := Option.some.inj h
    exact Nat.succ_pos _

/-- The decimal that is printed has no exponent if it is zero. -/
lemma exponent_shortest (m : Nat) (e : Int) (h : (shortest m e).digits = 0) :
    (shortest m e).exponent = 0 := by
  unfold shortest at h ⊢
  simp only at h ⊢
  split at h
  · rename_i s hfind
    obtain ⟨n, -, hs⟩ := List.exists_of_findSome?_eq_some hfind
    have hpos := (Scientific.trim_spec 20 s (Interval.digits_pos_of_onGrid hs)).2.1
    exact absurd h hpos.ne'
  · rfl

end Retrial.Decimal
