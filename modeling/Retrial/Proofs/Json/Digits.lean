import Retrial.Json.Number
import Retrial.Proofs.Json.Spelling

/-!
# Reading digits

The digits of a natural number, read as a significand, give the number again if it fits
(`gather_digits`).  A number is read to its end if what follows could not belong to it (`Stops`).
-/

namespace Retrial.Json

open Text (Glyph)

/-! ### Where a number ends -/

/-- The content does not start with a digit. -/
def NoDigit (s : List Glyph) : Prop := digit? s = none

/-- The content does not start with anything that could belong to a number before it. -/
structure Stops (s : List Glyph) : Prop where
  noDigit : NoDigit s
  noPoint : s.head? ≠ some (.char '.')
  noSmallE : s.head? ≠ some (.char 'e')
  noLargeE : s.head? ≠ some (.char 'E')

/-- Nothing follows. -/
lemma stops_nil : Stops [] := ⟨rfl, by simp, by simp, by simp⟩

/-- A character that is no digit follows. -/
lemma noDigit_cons {c : Char} (h : c.isDigit = false) (s : List Glyph) : NoDigit (.char c :: s) :=
  if_neg (by simp [h])

/-- A blank follows. -/
lemma stops_space {c : Char} (h : isSpace (.char c) = true) (s : List Glyph) :
    Stops (.char c :: s) := by
  have hc : c = ' ' ∨ c = '\n' ∨ c = '\t' ∨ c = '\r' := by
    simpa [isSpace, or_assoc] using h
  rcases hc with rfl | rfl | rfl | rfl <;>
    exact ⟨noDigit_cons (by decide) s, by simp, by simp, by simp⟩

/-- A comma follows. -/
lemma stops_comma (s : List Glyph) : Stops (.char ',' :: s) :=
  ⟨noDigit_cons (by decide) s, by simp, by simp, by simp⟩

/-- The closing bracket of a list follows. -/
lemma stops_bracket (s : List Glyph) : Stops (.char ']' :: s) :=
  ⟨noDigit_cons (by decide) s, by simp, by simp, by simp⟩

/-- The closing bracket of a record follows. -/
lemma stops_brace (s : List Glyph) : Stops (.char '}' :: s) :=
  ⟨noDigit_cons (by decide) s, by simp, by simp, by simp⟩

/-- What follows some blanks and then something that stops. -/
lemma stops_blank {bs : List Char} (h : Blank bs) {s : List Glyph} (hs : Stops s) :
    Stops (chars bs ++ s) := by
  cases bs with
  | nil => exact hs
  | cons c bs => exact stops_space (h c List.mem_cons_self) _

/-! ### Digits -/

/-- All characters are decimal digits. -/
def Digits (ds : List Char) : Prop := ∀ c ∈ ds, c.isDigit = true

/-- The digits of a number. -/
lemma digits_toDigits (n : Nat) : Digits (Nat.toDigits 10 n) := fun _ hc =>
  Nat.isDigit_of_mem_toDigits (by decide) (by decide) hc

/-- Zeros are digits. -/
lemma digits_replicate (n : Nat) : Digits (List.replicate n '0') := by
  intro c hc
  rw [List.eq_of_mem_replicate hc]
  decide

lemma Digits.append {ds es : List Char} (h : Digits ds) (h' : Digits es) : Digits (ds ++ es) :=
  fun c hc => (List.mem_append.mp hc).elim (h c) (h' c)

/-- A digit is read as its value. -/
lemma digit?_cons {c : Char} (h : c.isDigit = true) (s : List Glyph) :
    digit? (.char c :: s) = some (c.toNat - 48) := if_pos h

/-- Whether the content starts with a digit is said by its first glyph. -/
lemma digit?_head (g : Glyph) (s : List Glyph) : digit? [g] = digit? (g :: s) := by
  cases g <;> rfl

/-- Further digits make a number no smaller. -/
lemma le_ofDigitChars (ds : List Char) (n : Nat) : n ≤ Nat.ofDigitChars 10 ds n := by
  induction ds generalizing n with
  | nil => exact le_rfl
  | cons c ds ih =>
    have hstep := ih (10 * n + (c.toNat - '0'.toNat))
    have : Nat.ofDigitChars 10 (c :: ds) n =
      Nat.ofDigitChars 10 ds (10 * n + (c.toNat - '0'.toNat)) := rfl
    omega

/-- Digits that fit into the significand are all taken off. -/
lemma gather_digits {ds : List Char} (hds : Digits ds) {s : List Glyph} (hs : NoDigit s)
    {n : Nat} (hfits : Nat.ofDigitChars 10 ds n ≤ maxSignificand) (count : Nat) :
    gather (chars ds ++ s) n count =
      ((Nat.ofDigitChars 10 ds n, count + ds.length, false), s) := by
  induction ds generalizing n count with
  | nil =>
    cases s with
    | nil => rfl
    | cons g s =>
      have hnone : digit? [g] = none := (digit?_head g s).trans hs
      simp [gather, hnone, Nat.ofDigitChars]
  | cons c ds ih =>
    obtain ⟨hc, hds⟩ := List.forall_mem_cons.mp hds
    have hvalue : Nat.ofDigitChars 10 (c :: ds) n =
      Nat.ofDigitChars 10 ds (n * 10 + (c.toNat - 48)) := by
      rw [Nat.mul_comm n 10]
      rfl
    rw [hvalue] at hfits
    have hle := le_ofDigitChars ds (n * 10 + (c.toNat - 48))
    rw [chars_cons, List.cons_append, gather, digit?_cons hc]
    simp only
    rw [if_neg (by omega), ih hds hfits, hvalue]
    simp only [List.length_cons]
    congr 3
    omega

/-- A positive number does not start with a zero. -/
lemma head_toDigits {n : Nat} (hn : n ≠ 0) {c : Char} {ds : List Char}
    (h : Nat.toDigits 10 n = c :: ds) : c ≠ '0' := by
  induction n using Nat.strong_induction_on generalizing c ds with
  | _ n ih =>
    rw [Nat.toDigits_eq_if (by decide)] at h
    split_ifs at h with hlt
    · obtain ⟨rfl, -⟩ := List.cons.inj h
      interval_cases n <;> simp_all
    · cases hfront : Nat.toDigits 10 (n / 10) with
      | nil => exact absurd hfront Nat.toDigits_ne_nil
      | cons d front =>
        rw [hfront, List.cons_append] at h
        obtain ⟨rfl, -⟩ := List.cons.inj h
        exact ih (n / 10) (by omega) (by omega) hfront

/-- Digits that do not start with a zero are read as the whole part of a number, and then its end
is. -/
lemma unsignedNumber_digits (negative : Bool) {c : Char} {ds : List Char} (hall : Digits (c :: ds))
    (hc : c ≠ '0') (hfits : Nat.ofDigitChars 10 (c :: ds) 0 ≤ maxSignificand) {s : List Glyph}
    (hs : NoDigit s) :
    unsignedNumber negative (chars (c :: ds) ++ s) =
      numberEnd negative (Nat.ofDigitChars 10 (c :: ds) 0) s := by
  have hgather := gather_digits hall hs (n := 0) hfits 0
  have hne : Glyph.char c ≠ .char '0' := fun heq => hc (Glyph.char.inj heq)
  have hsome := digit?_cons (List.forall_mem_cons.mp hall).1 (chars ds ++ s)
  rw [chars_cons, List.cons_append] at hgather ⊢
  unfold unsignedNumber
  split
  · rename_i heq
    cases heq
  · rename_i heq
    exact absurd (List.cons.inj heq).1 hne
  · rw [if_neg (by simp [hsome]), hgather]

/-- The whole part of a number is read, and then its end. -/
lemma unsignedNumber_toDigits (negative : Bool) {n : Nat} (hn : n ≤ maxSignificand) {s : List Glyph}
    (hs : NoDigit s) :
    unsignedNumber negative (chars (Nat.toDigits 10 n) ++ s) = numberEnd negative n s := by
  by_cases hzero : n = 0
  · subst hzero
    rw [Nat.toDigits_zero, chars_cons, chars_nil, List.cons_append, List.nil_append]
    unfold unsignedNumber
    simp only
    rw [if_neg (by simp [show digit? s = none from hs])]
  · have hvalue := Nat.ofDigitChars_ten_toDigits (n := n)
    have hdigits := digits_toDigits n
    have hhead := @head_toDigits n hzero
    cases hcons : Nat.toDigits 10 n with
    | nil => exact absurd hcons Nat.toDigits_ne_nil
    | cons c ds =>
      rw [hcons] at hvalue hdigits
      rw [unsignedNumber_digits negative hdigits (hhead hcons) (by rw [hvalue]; exact hn) hs,
        hvalue]

end Retrial.Json
