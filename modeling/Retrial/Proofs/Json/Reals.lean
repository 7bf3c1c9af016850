import Retrial.Proofs.Decimal.Shortest
import Retrial.Proofs.Double.Unit
import Retrial.Proofs.Json.Decimals

/-!
# Reading doubles back

What is read from the text of a double is the quotient of the digits of its shortest decimal and a
power of ten, both as doubles (`reread`, `reads_real`).  Both of them and their quotient are
rounded, so it need not be the double that was written; it is that double if the digits and the
power of ten are doubles themselves (`reread_eq`), and close to it unless it is small
(`reread_near`).
-/

namespace Retrial.Json

open Text (Glyph)
open Decimal (Scientific Reading shortest)
open Double (parts InForm InUnit RoundsTo)
open Float.Model (UnpackedFloat)
open Float.Model.UnpackedFloat (Sign)

variable {m : Nat} {e : Int} {x : Float}

/-- What the reader makes of the text of a double: the digits of the shortest decimal that rounds to
it over a power of ten. -/
def reread (x : Float) : Float :=
  match Reading.ofFloat x with
  | .finite v =>
    if v.mantissa = 0 then x
    else divideByPower 20 (shortest v.mantissa v.exponent).digits.toUInt64.toFloat
      (shortest v.mantissa v.exponent).exponent.natAbs
  | _ => x

/-! ### The shortest decimal of a double up to one -/

/-- A number that rounds to a double up to one is less than two and not too small. -/
lemma bounds_of_roundsTo {v : ℚ} (hto : RoundsTo v m e)
    (hunit : e ≤ -53 ∨ m = 2 ^ 52 ∧ e = -52) : (10 : ℚ) ^ (-400 : Int) ≤ v ∧ v < 2 := by
  have hlow := hto.inForm.low
  have hgap := Double.gapBelow_le m e
  have hone : (1 : ℚ) ≤ m := by exact_mod_cast hto.inForm.pos
  have hmost : (m : ℚ) + 1 ≤ 2 ^ 53 := by exact_mod_cast hto.inForm.lt
  constructor
  · calc (10 : ℚ) ^ (-400 : Int) ≤ 2 ^ (e - 2) := Decimal.tiny_le_zpow (by omega)
      _ = 1 * 2 ^ (e - 2) := (one_mul _).symm
      _ ≤ (4 * m - Double.gapBelow m e) * 2 ^ (e - 2) := by
          gcongr
          linarith
      _ ≤ v := hto.lower
  · refine hto.upper.trans_lt ?_
    rcases hunit with he | ⟨rfl, rfl⟩
    · calc (4 * (m : ℚ) + 2) * 2 ^ (e - 2) ≤ 2 ^ 55 * 2 ^ (-55 : Int) := by
            gcongr
            · linarith
            · norm_num
            · omega
        _ < 2 := by norm_num
    · norm_num

/-- The shortest decimal of a double up to one is not large: it has no digits before the point but
possibly a one. -/
lemma shortest_small (h : InForm m e) (hunit : e ≤ -53 ∨ m = 2 ^ 52 ∧ e = -52) :
    (shortest m e).exponent ≤ 0 ∧ -1000 ≤ (shortest m e).exponent ∧
      (Nat.toDigits 10 (shortest m e).digits).length + (shortest m e).exponent ≤ 1 := by
  obtain ⟨hpos, hmax, hto⟩ := Decimal.shortest_spec h
  obtain ⟨hleast, hmost⟩ := bounds_of_roundsTo hto hunit
  unfold Scientific.value at hleast hmost
  generalize shortest m e = s at *
  have hone : (1 : ℚ) ≤ s.digits := by exact_mod_cast hpos
  have hpoint : (Nat.toDigits 10 s.digits).length + s.exponent ≤ 1 := by
    by_contra hlarge
    have hlength : 0 < (Nat.toDigits 10 s.digits).length := Nat.length_toDigits_pos
    have hdigits : (10 : ℚ) ^ ((Nat.toDigits 10 s.digits).length - 1) ≤ s.digits := by
      exact_mod_cast (Decimal.length_toDigits_spec hpos).1
    have hten : (10 : ℚ) ^ (1 : Int) ≤ s.digits * 10 ^ s.exponent := by
      calc (10 : ℚ) ^ (1 : Int)
          ≤ 10 ^ (((Nat.toDigits 10 s.digits).length - 1 : Nat) + s.exponent) :=
            zpow_le_zpow_right₀ (by norm_num) (by omega)
        _ = 10 ^ ((Nat.toDigits 10 s.digits).length - 1) * 10 ^ s.exponent := by
            rw [zpow_add₀ (by norm_num), zpow_natCast]
        _ ≤ s.digits * 10 ^ s.exponent := by gcongr
    norm_num at hten
    linarith
  refine ⟨?_, ?_, hpoint⟩
  · have hlength : 0 < (Nat.toDigits 10 s.digits).length := Nat.length_toDigits_pos
    omega
  · by_contra htiny
    have hmax' : (s.digits : ℚ) ≤ 10 ^ (17 : Int) := by exact_mod_cast hmax
    have hless : (s.digits : ℚ) * 10 ^ s.exponent < 10 ^ (-400 : Int) := by
      calc (s.digits : ℚ) * 10 ^ s.exponent ≤ 10 ^ (17 : Int) * 10 ^ s.exponent := by gcongr
        _ = 10 ^ (17 + s.exponent) := (zpow_add₀ (by norm_num) _ _).symm
        _ < 10 ^ (-400 : Int) := zpow_lt_zpow_right₀ (by norm_num) (by omega)
    linarith

/-! ### Reading -/

/-- With nothing after the point of the decimal the double is one. -/
lemma digits_eq_one (h : InForm m e) (hunit : e ≤ -53 ∨ m = 2 ^ 52 ∧ e = -52)
    (hzero : (shortest m e).exponent = 0) : (shortest m e).digits = 1 := by
  obtain ⟨hpos, -, hto⟩ := Decimal.shortest_spec h
  have hmost := (bounds_of_roundsTo hto hunit).2
  unfold Scientific.value at hmost
  rw [hzero, zpow_zero, mul_one] at hmost
  have hlt : (shortest m e).digits < 2 := by exact_mod_cast hmost
  omega

/-- Dividing is all that is done with an exponent below zero. -/
lemma assemble_of_neg (negative : Bool) (n : Nat) (he : e < 0) :
    assemble negative n e = .ok (if negative then -divideByPower 20 n.toUInt64.toFloat e.natAbs
      else divideByPower 20 n.toUInt64.toFloat e.natAbs) := by
  unfold assemble
  simp only [if_neg (not_le.mpr he)]
  rfl

/-- The text of a positive double up to one is read as its digits over a power of ten. -/
lemma unsignedNumber_shortest (h : InForm m e) (hunit : e ≤ -53 ∨ m = 2 ^ 52 ∧ e = -52)
    {rest : List Glyph} (hrest : Stops rest) :
    unsignedNumber false (chars (shortest m e).text.toList ++ rest) =
      .ok (.real (divideByPower 20 (shortest m e).digits.toUInt64.toFloat
        (shortest m e).exponent.natAbs), rest) := by
  obtain ⟨hpos, hmax, hto⟩ := Decimal.shortest_spec h
  obtain ⟨hexponent, hlow, hpoint⟩ := shortest_small h hunit
  have hone := digits_eq_one h hunit
  rw [unsignedNumber_text false hpos hmax hexponent hlow (by omega) hrest]
  generalize shortest m e = s at *
  split_ifs with hzero
  · -- Ten over ten is one over one.
    rw [hone hzero, hzero]
    unfold realNumber
    rw [assemble_of_neg false _ (by norm_num)]
    have hsame : divideByPower 20 (1 * 10 : Nat).toUInt64.toFloat (-1 : Int).natAbs =
        divideByPower 20 (1 : Nat).toUInt64.toFloat (0 : Int).natAbs := by decide +kernel
    rw [hsame]
    rfl
  · unfold realNumber
    rw [assemble_of_neg false _ (by omega)]
    rfl

/-- A number that starts with a minus sign is read as a negative one. -/
lemma readNumber_of_minus {s more : List Glyph} (hs : skipSpace s = .char '-' :: more) :
    readNumber s = unsignedNumber true more := by
  unfold readNumber
  rw [hs]
  rfl

/-- The text of zero is read as zero, with its sign. -/
lemma unsignedNumber_zero (negative : Bool) {rest : List Glyph} (hrest : Stops rest) :
    unsignedNumber negative (chars "0.0".toList ++ rest) =
      .ok (.real ⟨Float.Model.pack (.zero (if negative then .negative else .positive))⟩, rest) := by
  have hwhole := unsignedNumber_whole negative (d := 0) (by simp) hrest
  rw [Nat.toDigits_zero] at hwhole
  refine hwhole.trans ?_
  unfold realNumber
  rw [assemble_of_neg negative _ (by norm_num)]
  have hquotient : divideByPower 20 (0 * 10 : Nat).toUInt64.toFloat (-1 : Int).natAbs =
      ⟨Float.Model.pack (.zero .positive)⟩ := by decide +kernel
  have hminus : -divideByPower 20 (0 * 10 : Nat).toUInt64.toFloat (-1 : Int).natAbs =
      ⟨Float.Model.pack (.zero .negative)⟩ := by decide +kernel
  rw [hquotient] at hminus
  rw [hquotient, hminus]
  cases negative <;> rfl

/-- A double in the unit interval is read as its digits over a power of ten. -/
theorem reads_real (hx : InUnit x) : Reads readReal (.real x) (reread x) := by
  intro cs rest s hcs hrest hs
  unfold Spells realText Decimal.shortestText? at hcs
  have hnumber {y : Float} (h : readNumber s = .ok (.real y, rest)) :
      readReal s = .ok (y, rest) := by
    unfold readReal
    rw [h]
  refine hnumber ?_
  have hreading := Double.ofFloat_eq x
  unfold reread
  rcases hx with ⟨sign, hzero⟩ | ⟨m, e, h, hfinite, hunit⟩
  · have hx := Double.pack_parts x
    rw [hzero] at hreading hx
    simp only [hreading] at hcs ⊢
    cases sign with
    | positive =>
      subst hcs
      rw [readNumber_of_digit (c := '0') (by decide) hs]
      exact (unsignedNumber_zero false hrest).trans (by simp [hx])
    | negative =>
      subst hcs
      rw [readNumber_of_minus hs]
      exact (unsignedNumber_zero true hrest).trans (by simp [hx])
  · have hform := Double.inForm_of_parts hfinite
    have hread := unsignedNumber_shortest hform hunit hrest
    rw [hfinite] at hreading
    simp only [hreading] at hcs ⊢
    have hsome : (m == 0) = false := beq_eq_false_iff_ne.mpr h.ne'
    obtain ⟨c, more, htext, hc⟩ := (shortest m e).exists_text_eq
    rw [if_neg h.ne', ← hread]
    simp only [hsome, Bool.false_eq_true, if_false] at hcs
    rw [hcs] at hs
    change skipSpace s = chars (shortest m e).text.toList ++ rest at hs
    rw [htext, chars_cons, List.cons_append] at hs ⊢
    exact readNumber_of_digit hc hs

/-! ### When the double comes back -/

/-- The digits of the shortest decimal of a double have at most 53 bits, and no more than 22 of them
stand after the point. -/
def IsShort (x : Float) : Prop :=
  match Reading.ofFloat x with
  | .finite v => (shortest v.mantissa v.exponent).digits < 2 ^ 53 ∧
      -22 ≤ (shortest v.mantissa v.exponent).exponent
  | _ => True

instance (x : Float) : Decidable (IsShort x) := by
  unfold IsShort
  split <;> infer_instance

/-- A double whose shortest decimal has few places is read by one division. -/
lemma reread_of_fewPlaces {h : 0 < m} (hfinite : parts x = .finite .positive m e h)
    (hunit : e ≤ -53 ∨ m = 2 ^ 52 ∧ e = -52) (hplaces : -22 ≤ (shortest m e).exponent) :
    ∃ k ≤ 22, reread x = (shortest m e).digits.toUInt64.toFloat / powerOfTen k ∧
      RoundsTo ((shortest m e).digits / 10 ^ k) m e := by
  have hform := Double.inForm_of_parts hfinite
  have hreading := Double.ofFloat_eq x
  obtain ⟨-, -, hto⟩ := Decimal.shortest_spec hform
  obtain ⟨hexponent, -, -⟩ := shortest_small hform hunit
  have hvalue : (shortest m e).value =
      (shortest m e).digits / 10 ^ (shortest m e).exponent.natAbs := by
    unfold Scientific.value
    rw [← zpow_natCast, Int.ofNat_natAbs_of_nonpos hexponent, zpow_neg, div_inv_eq_mul]
  rw [hvalue] at hto
  refine ⟨_, by omega, ?_, hto⟩
  rw [hfinite] at hreading
  unfold reread
  simp only [hreading, if_neg h.ne']
  exact if_pos (by omega)

/-- A double in the unit interval is read back if its shortest decimal is short. -/
theorem reread_eq (hx : InUnit x) (hshort : IsShort x) : reread x = x := by
  have hreading := Double.ofFloat_eq x
  rcases hx with ⟨sign, hzero⟩ | ⟨m, e, h, hfinite, hunit⟩
  · rw [hzero] at hreading
    unfold reread
    simp only [hreading, if_true]
  · have hform := Double.inForm_of_parts hfinite
    obtain ⟨hpos, -, -⟩ := Decimal.shortest_spec hform
    unfold IsShort at hshort
    rw [hfinite] at hreading
    simp only [hreading] at hshort
    obtain ⟨hdigits, hplaces⟩ := hshort
    obtain ⟨k, hk, hreread, hto⟩ := reread_of_fewPlaces hfinite hunit hplaces
    rw [hreread]
    exact Double.div_powerOfTen_eq hfinite hpos hdigits hk hto

/-- A double in the unit interval that is not small is read back but for one part in `2 ^ 51`. -/
theorem reread_near (hx : InUnit x) (hleast : 1 / 10 ^ 5 ≤ Double.value x) :
    |Double.value (reread x) - Double.value x| ≤ Double.value x / 2 ^ 51 := by
  rcases hx with ⟨sign, hzero⟩ | ⟨m, e, h, hfinite, hunit⟩
  · unfold Double.value at hleast
    simp only [hzero] at hleast
    norm_num at hleast
  · have hform := Double.inForm_of_parts hfinite
    obtain ⟨hpos, hmax, hto⟩ := Decimal.shortest_spec hform
    have hvalue : Double.value x = m * 2 ^ e := by
      unfold Double.value
      simp only [hfinite]
    have hnormal : 2 ^ 52 ≤ m := by
      refine hform.normal.resolve_right fun hlowest => ?_
      have hlt : (m : ℚ) < 2 ^ 53 := by exact_mod_cast hform.lt
      have htiny : (m : ℚ) * 2 ^ (-1074 : Int) < 1 / 10 ^ 5 := by
        calc (m : ℚ) * 2 ^ (-1074 : Int) ≤ 2 ^ 53 * 2 ^ (-100 : Int) := by
              gcongr <;> norm_num
          _ < 1 / 10 ^ 5 := by norm_num
      rw [hvalue, hlowest] at hleast
      linarith
    -- Seventeen digits reach down to the 22nd place.
    have hplaces : -22 ≤ (shortest m e).exponent := by
      by_contra hmany
      have hdigits : ((shortest m e).digits : ℚ) ≤ 10 ^ 17 := by exact_mod_cast hmax
      have hsmall : (shortest m e).value ≤ 10 ^ 17 * 10 ^ (-23 : Int) := by
        unfold Scientific.value
        gcongr
        · norm_num
        · omega
      have hclose := (hto.near hnormal).1
      rw [hvalue] at hleast
      norm_num at hsmall hleast
      linarith
    obtain ⟨k, hk, hreread, hto'⟩ := reread_of_fewPlaces hfinite hunit hplaces
    rw [hreread]
    exact Double.div_powerOfTen_near hfinite hnormal hpos (by omega) hk hto'

end Retrial.Json
