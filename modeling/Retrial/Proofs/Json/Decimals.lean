import Retrial.Proofs.Decimal.Text
import Retrial.Proofs.Json.Leaves

/-!
# Reading the text of a decimal

However the text of a decimal is laid out, the reader gathers the digits into the significand and
counts the places after the point, so that it puts the double together from the digits and the
exponent of the decimal (`unsignedNumber_text`).  The one exception is a decimal without places
after the point: its text has a point all the same and a zero after it.
-/

namespace Retrial.Json

open Text (Glyph)
open Decimal (Scientific)

variable {rest : List Glyph} {n : Nat} {start : Int}

/-! ### The parts of a number -/

/-- Nothing ends a double. -/
lemma realEnd_of_stops (h : Stops rest) (negative : Bool) (n : Nat) (e : Int) :
    realEnd negative n e rest = (assemble negative n e).map fun x => (x, rest) := by
  have hsmall := h.noSmallE
  have hlarge := h.noLargeE
  unfold realEnd
  split <;> simp_all

/-- Digits after the point count down the exponent. -/
lemma fractionRest_digits (negative : Bool) {ds : List Char} (hds : Digits ds) (hne : ds ≠ [])
    (hfits : Nat.ofDigitChars 10 ds n ≤ maxSignificand) (hrest : NoDigit rest) (start : Int) :
    fractionRest negative n start (chars ds ++ rest) =
      realEnd negative (Nat.ofDigitChars 10 ds n) (start - ds.length) rest := by
  have hcount : ds.length ≠ 0 := fun hzero => hne (List.length_eq_zero_iff.mp hzero)
  unfold fractionRest
  rw [gather_digits hds hrest hfits 0]
  simp only [Nat.zero_add, beq_iff_eq, if_neg hcount]

/-- The digits of a moderate exponent are taken off. -/
lemma exponentDigits_digits {ds : List Char} (hds : Digits ds) (hrest : NoDigit rest)
    (hfits : Nat.ofDigitChars 10 ds n ≤ maxExponent) :
    exponentDigits (chars ds ++ rest) n = (some (Nat.ofDigitChars 10 ds n), rest) := by
  induction ds generalizing n with
  | nil =>
    cases rest with
    | nil => rfl
    | cons g more =>
      have hnone : digit? [g] = none := (digit?_head g more).trans hrest
      simp [exponentDigits, hnone, Nat.ofDigitChars]
  | cons c ds ih =>
    obtain ⟨hc, hds⟩ := List.forall_mem_cons.mp hds
    have hvalue : Nat.ofDigitChars 10 (c :: ds) n =
        Nat.ofDigitChars 10 ds (n * 10 + (c.toNat - 48)) := by
      rw [Nat.mul_comm n 10]
      rfl
    rw [hvalue] at hfits ⊢
    have hle := le_ofDigitChars ds (n * 10 + (c.toNat - 48))
    rw [chars_cons, List.cons_append, exponentDigits, digit?_cons hc]
    simp only
    rw [if_neg (by omega), ih hds hfits]

/-- A moderate exponent below zero counts down the exponent. -/
lemma exponentRest_down (negative : Bool) (n : Nat) {k : Nat} (hk : k ≤ 10000)
    (hstart : start ≤ 0) (hlow : -10000 ≤ start) (hrest : Stops rest) :
    exponentRest negative n start (.char '-' :: (chars (Nat.toDigits 10 k) ++ rest)) =
      (assemble negative n (start - k)).map fun x => (x, rest) := by
  have hmax : maxExponent = 2147483647 := rfl
  have hvalue := Nat.ofDigitChars_ten_toDigits (n := k)
  have hdigits := exponentDigits_digits (n := 0) (digits_toDigits k) hrest.noDigit
    (by rw [hvalue]; omega)
  rw [hvalue] at hdigits
  have hclamp : clampExponent (start - k) = start - k := by
    unfold clampExponent
    rw [if_neg (by omega), if_neg (by omega)]
  obtain ⟨c, ds, hcons, hc⟩ := exists_toDigits_cons k
  rw [hcons] at hdigits ⊢
  rw [chars_cons, List.cons_append] at hdigits ⊢
  unfold exponentRest
  simp only [digit?_cons hc, Option.isNone_some, Bool.false_eq_true, if_false, hdigits, if_true,
    hclamp]

/-! ### The layouts -/

/-- What the reader makes of a significand and an exponent, before what is left. -/
def realNumber (negative : Bool) (n : Nat) (e : Int) (rest : List Glyph) :
    Except Fault (Number × List Glyph) :=
  (assemble negative n e).map fun x => (.real x, rest)

/-- Digits after the point of a number without exponent. -/
lemma numberEnd_fraction (negative : Bool) {ds : List Char} (hds : Digits ds) (hne : ds ≠ [])
    (hfits : Nat.ofDigitChars 10 ds n ≤ maxSignificand) (hrest : Stops rest) :
    numberEnd negative n (.char '.' :: (chars ds ++ rest)) =
      realNumber negative (Nat.ofDigitChars 10 ds n) (-ds.length) rest := by
  have hpoint : numberEnd negative n (.char '.' :: (chars ds ++ rest)) =
      (fractionRest negative n 0 (chars ds ++ rest)).map fun p => (.real p.1, p.2) := rfl
  rw [hpoint, fractionRest_digits negative hds hne hfits hrest.noDigit, realEnd_of_stops hrest,
    zero_sub]
  unfold realNumber
  cases assemble negative (Nat.ofDigitChars 10 ds n) (-ds.length) <;> rfl

/-- An exponent below zero of a number without a point. -/
lemma numberEnd_down (negative : Bool) (n : Nat) {k : Nat} (hk : k ≤ 10000) (hrest : Stops rest) :
    numberEnd negative n (.char 'e' :: .char '-' :: (chars (Nat.toDigits 10 k) ++ rest)) =
      realNumber negative n (-k) rest := by
  have hletter : numberEnd negative n
        (.char 'e' :: .char '-' :: (chars (Nat.toDigits 10 k) ++ rest)) =
      (exponentRest negative n 0 (.char '-' :: (chars (Nat.toDigits 10 k) ++ rest))).map
        fun p => (.real p.1, p.2) := rfl
  rw [hletter, exponentRest_down negative n hk le_rfl (by omega) hrest, zero_sub]
  unfold realNumber
  cases assemble negative n (-k) <;> rfl

/-- Digits after the point of a number with an exponent below zero. -/
lemma numberEnd_fraction_down (negative : Bool) {ds : List Char} (hds : Digits ds) (hne : ds ≠ [])
    (hfits : Nat.ofDigitChars 10 ds n ≤ maxSignificand) (hlength : ds.length ≤ 10000) {k : Nat}
    (hk : k ≤ 10000) (hrest : Stops rest) :
    numberEnd negative n
        (.char '.' :: (chars ds ++ .char 'e' :: .char '-' :: (chars (Nat.toDigits 10 k) ++ rest))) =
      realNumber negative (Nat.ofDigitChars 10 ds n) (-ds.length - k) rest := by
  have hpoint (s : List Glyph) : numberEnd negative n (.char '.' :: s) =
      (fractionRest negative n 0 s).map fun p => (.real p.1, p.2) := rfl
  have hletter : realEnd negative (Nat.ofDigitChars 10 ds n) (0 - ds.length)
        (.char 'e' :: .char '-' :: (chars (Nat.toDigits 10 k) ++ rest)) =
      exponentRest negative (Nat.ofDigitChars 10 ds n) (0 - ds.length)
        (.char '-' :: (chars (Nat.toDigits 10 k) ++ rest)) := rfl
  rw [hpoint, fractionRest_digits negative hds hne hfits (noDigit_cons (by decide) _), hletter,
    zero_sub, exponentRest_down negative _ hk (by omega) (by omega) hrest]
  unfold realNumber
  cases assemble negative (Nat.ofDigitChars 10 ds n) (-ds.length - k) <;> rfl

/-- The text of a decimal with nothing after the point. -/
lemma unsignedNumber_whole (negative : Bool) {d : Nat} (hd : d * 10 ≤ maxSignificand)
    (hrest : Stops rest) :
    unsignedNumber negative (chars (Nat.toDigits 10 d ++ ['.', '0']) ++ rest) =
      realNumber negative (d * 10) (-1) rest := by
  have hzero : Nat.ofDigitChars 10 ['0'] d = d * 10 := by
    rw [Nat.ofDigitChars_cons, Nat.ofDigitChars_nil, Nat.mul_comm]
    rfl
  have hfraction := numberEnd_fraction negative (digits_replicate 1) (by simp)
    (by simpa [hzero] using hd) (n := d) hrest
  have hwhole := unsignedNumber_toDigits negative (by omega : d ≤ maxSignificand)
    (noDigit_cons (by decide : ('.').isDigit = false) (chars ['0'] ++ rest))
  rw [show List.replicate 1 '0' = ['0'] from rfl, hzero] at hfraction
  rw [chars_append, List.append_assoc]
  exact hwhole.trans hfraction

/-- The text of a decimal whose digits all stand after the point. -/
lemma unsignedNumber_small (negative : Bool) {d : Nat} (hd : d ≤ maxSignificand) (k : Nat)
    (hrest : Stops rest) :
    unsignedNumber negative
        (chars ('0' :: '.' :: (List.replicate k '0' ++ Nat.toDigits 10 d)) ++ rest) =
      realNumber negative d (-(k + (Nat.toDigits 10 d).length : Nat)) rest := by
  have hvalue : Nat.ofDigitChars 10 (List.replicate k '0' ++ Nat.toDigits 10 d) 0 = d := by
    rw [Nat.ofDigitChars_append, Nat.ofDigitChars_replicate_zero, Nat.mul_zero,
      Nat.ofDigitChars_ten_toDigits]
  have hfraction := numberEnd_fraction negative ((digits_replicate k).append (digits_toDigits d))
    (List.append_ne_nil_of_right_ne_nil _ Nat.toDigits_ne_nil) (by rw [hvalue]; exact hd)
    (n := 0) hrest
  have hzero := unsignedNumber_toDigits negative (Nat.zero_le maxSignificand)
    (noDigit_cons (by decide : ('.').isDigit = false)
      (chars (List.replicate k '0' ++ Nat.toDigits 10 d) ++ rest))
  rw [Nat.toDigits_zero] at hzero
  rw [hvalue, List.length_append, List.length_replicate] at hfraction
  exact hzero.trans hfraction

/-- The digits of a number, cut in two after the first of them. -/
lemma ofDigitChars_cut {d : Nat} {c : Char} {ds es : List Char}
    (h : Nat.toDigits 10 d = c :: ds ++ es) :
    Nat.ofDigitChars 10 es (Nat.ofDigitChars 10 (c :: ds) 0) = d := by
  rw [← Nat.ofDigitChars_append, ← h, Nat.ofDigitChars_ten_toDigits]

/-- The whole part of a decimal's text, up to where its digits are cut. -/
lemma unsignedNumber_cut (negative : Bool) {d : Nat} (hpos : 0 < d) (hd : d ≤ maxSignificand)
    {c : Char} {ds es : List Char} (h : Nat.toDigits 10 d = c :: ds ++ es) {s : List Glyph}
    (hs : NoDigit s) :
    unsignedNumber negative (chars (c :: ds) ++ s) =
      numberEnd negative (Nat.ofDigitChars 10 (c :: ds) 0) s := by
  have hdigits : Digits (c :: ds ++ es) := h ▸ digits_toDigits d
  have hle := le_ofDigitChars es (Nat.ofDigitChars 10 (c :: ds) 0)
  rw [ofDigitChars_cut h] at hle
  exact unsignedNumber_digits negative (fun x hx => hdigits x (List.mem_append_left _ hx))
    (head_toDigits hpos.ne' h) (hle.trans hd) hs

/-- The text of a decimal with a point between its digits. -/
lemma unsignedNumber_between (negative : Bool) {d : Nat} (hpos : 0 < d)
    (hd : d ≤ maxSignificand) {c : Char} {ds es : List Char}
    (h : Nat.toDigits 10 d = c :: ds ++ es) (hne : es ≠ [])
    (hrest : Stops rest) :
    unsignedNumber negative (chars (c :: ds ++ '.' :: es) ++ rest) =
      realNumber negative d (-es.length) rest := by
  have hdigits : Digits (c :: ds ++ es) := h ▸ digits_toDigits d
  have hvalue := ofDigitChars_cut h
  have hfraction := numberEnd_fraction negative
    (fun x hx => hdigits x (List.mem_append_right _ hx)) hne (by rw [hvalue]; exact hd) hrest
  rw [hvalue] at hfraction
  rw [chars_append, List.append_assoc]
  exact (unsignedNumber_cut negative hpos hd h (noDigit_cons (by decide) _)).trans hfraction

/-- The text of a decimal with an exponent below zero. -/
lemma unsignedNumber_scientific (negative : Bool) {d : Nat} (hpos : 0 < d)
    (hd : d ≤ maxSignificand) {c : Char} {es : List Char} (h : Nat.toDigits 10 d = c :: es)
    {k : Nat} (hk : k ≤ 10000) (hlength : es.length ≤ 10000) (hrest : Stops rest) :
    unsignedNumber negative
        (chars (c :: ((if es = [] then [] else '.' :: es) ++ 'e' :: '-' :: Nat.toDigits 10 k))
          ++ rest) =
      realNumber negative d (-es.length - k) rest := by
  have hdigits : Digits (c :: es) := h ▸ digits_toDigits d
  have hvalue : Nat.ofDigitChars 10 es (Nat.ofDigitChars 10 [c] 0) = d := ofDigitChars_cut h
  have hcut {s : List Glyph} (hs : NoDigit s) : unsignedNumber negative (chars [c] ++ s) =
      numberEnd negative (Nat.ofDigitChars 10 [c] 0) s := unsignedNumber_cut negative hpos hd h hs
  split_ifs with hone
  · subst hone
    have hread := hcut (noDigit_cons (by decide : ('e').isDigit = false)
      (.char '-' :: (chars (Nat.toDigits 10 k) ++ rest)))
    rw [numberEnd_down negative _ hk hrest] at hread
    rw [List.length_nil, Nat.cast_zero, neg_zero, zero_sub, ← hvalue]
    exact hread
  · have hread := hcut (noDigit_cons (by decide : ('.').isDigit = false)
      (chars es ++ .char 'e' :: .char '-' :: (chars (Nat.toDigits 10 k) ++ rest)))
    rw [numberEnd_fraction_down negative (fun x hx => hdigits x (List.mem_cons_of_mem _ hx)) hone
      (by rw [hvalue]; exact hd) hlength hk hrest, hvalue] at hread
    have hchars : chars (c :: ('.' :: es ++ 'e' :: '-' :: Nat.toDigits 10 k)) ++ rest =
        chars [c] ++ .char '.' ::
          (chars es ++ .char 'e' :: .char '-' :: (chars (Nat.toDigits 10 k) ++ rest)) := by
      simp
    rw [hchars, hread]

/-- The text of a decimal of at most seventeen digits that is not large is read as its digits and
its exponent, but for the zero that is written after a point with nothing after it. -/
theorem unsignedNumber_text (negative : Bool) {s : Scientific} (hpos : 0 < s.digits)
    (hmax : s.digits ≤ 10 ^ 17) (hexponent : s.exponent ≤ 0) (hlow : -1000 ≤ s.exponent)
    (hpoint : (Nat.toDigits 10 s.digits).length + s.exponent ≤ 16) (hrest : Stops rest) :
    unsignedNumber negative (chars s.text.toList ++ rest) =
      if s.exponent = 0 then realNumber negative (s.digits * 10) (-1) rest
      else realNumber negative s.digits s.exponent rest := by
  have hsignificand : maxSignificand = 18446744073709551615 := rfl
  have hfew : (Nat.toDigits 10 s.digits).length ≤ 18 :=
    (Nat.length_toDigits_le_iff (by norm_num) (by norm_num)).mpr (by omega)
  obtain ⟨c, tail, hcons, -⟩ := exists_toDigits_cons s.digits
  have hlength : (Nat.toDigits 10 s.digits).length = tail.length + 1 := by
    rw [hcons, List.length_cons]
  rw [Scientific.toList_text]
  simp only
  by_cases hzero : s.exponent = 0
  · rw [if_pos ⟨hzero.ge, hpoint⟩, if_pos hzero, hzero]
    simp only [Int.toNat_zero, List.replicate_zero, List.append_nil]
    exact unsignedNumber_whole negative (by omega) hrest
  rw [if_neg (fun h => hzero (le_antisymm hexponent h.1)), if_neg hzero]
  by_cases hbetween : 0 < (Nat.toDigits 10 s.digits).length + s.exponent
  · -- The point stands between the digits.
    rw [if_pos ⟨hbetween, hpoint⟩]
    obtain ⟨k, hk⟩ : ∃ k, ((Nat.toDigits 10 s.digits).length + s.exponent).toNat = k + 1 :=
      Nat.exists_eq_succ_of_ne_zero (by omega)
    have hcut : Nat.toDigits 10 s.digits = c :: tail.take k ++ tail.drop k := by
      rw [List.cons_append, List.take_append_drop, hcons]
    have hdrop : (tail.drop k).length = tail.length - k := List.length_drop
    have hread := unsignedNumber_between negative hpos (by omega) hcut
      (fun hnil => by rw [hnil, List.length_nil] at hdrop; omega) hrest
    rw [show -((tail.drop k).length : Int) = s.exponent by omega] at hread
    rw [hk, hcons, List.take_succ_cons, List.drop_succ_cons]
    exact hread
  rw [if_neg (fun h => hbetween h.1)]
  by_cases hsmall : -5 < (Nat.toDigits 10 s.digits).length + s.exponent
  · -- All digits stand after the point, with some zeros before them.
    rw [if_pos ⟨hsmall, not_lt.mp hbetween⟩]
    have hread := unsignedNumber_small negative (d := s.digits) (by omega)
      (-((Nat.toDigits 10 s.digits).length + s.exponent)).toNat hrest
    rw [show (-((-((Nat.toDigits 10 s.digits).length + s.exponent)).toNat +
      (Nat.toDigits 10 s.digits).length : Nat) : Int) = s.exponent by omega] at hread
    exact hread
  · -- The text has an exponent.
    have hread := unsignedNumber_scientific negative hpos (by omega) hcons
      (k := ((Nat.toDigits 10 s.digits).length + s.exponent - 1).natAbs) (by omega) (by omega) hrest
    rw [show -(tail.length : Int) - ((Nat.toDigits 10 s.digits).length + s.exponent - 1).natAbs =
      s.exponent by omega] at hread
    have hfraction : (if (Nat.toDigits 10 s.digits).length ≤ 1 then []
        else '.' :: (Nat.toDigits 10 s.digits).drop 1) = if tail = [] then [] else '.' :: tail := by
      rw [hcons]
      cases tail with
      | nil => rfl
      | cons d ds => rfl
    rw [if_neg (fun h => hsmall h.1), if_neg (by omega : ¬(0 : Int) ≤ _ - 1), hfraction]
    rw [← hread, hcons]
    rfl

end Retrial.Json
