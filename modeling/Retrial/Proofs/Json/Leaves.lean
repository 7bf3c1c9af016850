import Retrial.Json.Leaf
import Retrial.Proofs.Json.Digits

/-!
# Reading single values back

A reader *reads* a value *as* something if from every spelling of the value, after any blanks and
before anything that ends it, it takes just the spelling off and gives that (`Reads`).  Each reader
of a single kind reads what the writer of this kind has written: texts with all their escapes,
natural numbers that fit, names of choices, and what is optional.
-/

namespace Retrial.Json

open Text (Glyph)

variable {α β : Type}

/-- The reader takes every spelling of the value off as the result. -/
def Reads (r : Reader α) (v : Value) (a : α) : Prop :=
  ∀ cs rest s, Spells v cs → Stops rest → skipSpace s = chars cs ++ rest → r s = .ok (a, rest)

/-- What has been read may be put differently. -/
lemma Reads.map {r : Reader α} {v : Value} {a : α} (h : Reads r v a) (f : α → β) :
    Reads (fun s => (r s).map fun p => (f p.1, p.2)) v (f a) := by
  intro cs rest s hcs hrest hs
  simp only [h cs rest s hcs hrest hs]
  rfl

/-! ### Texts -/

/-- Two characters stand for a control character's code. -/
lemma hexFour_controlCode {n : Nat} (hn : n < 32) (s : List Glyph) :
    hexFour (chars (controlCode n) ++ s) = .ok (n, s) := by
  have hdigits : ∀ n < 32, hexValue? (.char '0') = some 0 ∧
      hexValue? (.char (Nat.digitChar (n / 16))) = some (n / 16) ∧
      hexValue? (.char (Nat.digitChar (n % 16))) = some (n % 16) := by decide
  obtain ⟨hzero, hhigh, hlow⟩ := hdigits n hn
  simp only [controlCode, chars_cons, chars_nil, List.cons_append, List.nil_append, hexFour, hzero,
    hhigh, hlow]
  congr 2
  omega

/-- A character stands for itself, or an escape stands for it. -/
lemma escapeChar_cases (c : Char) :
    (escapeChar c = [c] ∧ c ≠ '"' ∧ c ≠ '\\' ∧ ¬c.toNat < 32) ∨
      ∃ tail, escapeChar c = '\\' :: tail ∧
        ∀ s, escape (chars tail ++ s) = .ok (c, s) := by
  unfold escapeChar
  split_ifs with hquote hslash hline hreturn htab hback hfeed hcontrol
  · obtain rfl : c = '"' := by simpa using hquote
    exact Or.inr ⟨_, rfl, fun s => rfl⟩
  · obtain rfl : c = '\\' := by simpa using hslash
    exact Or.inr ⟨_, rfl, fun s => rfl⟩
  · obtain rfl : c = '\n' := by simpa using hline
    exact Or.inr ⟨_, rfl, fun s => rfl⟩
  · obtain rfl : c = '\r' := by simpa using hreturn
    exact Or.inr ⟨_, rfl, fun s => rfl⟩
  · obtain rfl : c = '\t' := by simpa using htab
    exact Or.inr ⟨_, rfl, fun s => rfl⟩
  · have hc : Char.ofNat 8 = c := by
      rw [← Char.ofNat_toNat c, beq_iff_eq.mp hback]
    exact Or.inr ⟨_, rfl, fun s => by rw [← hc]; rfl⟩
  · have hc : Char.ofNat 12 = c := by
      rw [← Char.ofNat_toNat c, beq_iff_eq.mp hfeed]
    exact Or.inr ⟨_, rfl, fun s => by rw [← hc]; rfl⟩
  · refine Or.inr ⟨'u' :: controlCode c.toNat, rfl, fun s => ?_⟩
    rw [chars_cons, List.cons_append, escape, if_pos (by decide), codeEscape,
      hexFour_controlCode hcontrol]
    simp only
    rw [if_neg (by simp; omega), if_neg (by simp; omega), Char.ofNat_toNat]
  · exact Or.inl ⟨rfl, by simpa using hquote, by simpa using hslash, hcontrol⟩

/-- A character that stands for itself is taken as it is. -/
lemma quotedRest_plain {c : Char} (hquote : c ≠ '"') (hslash : c ≠ '\\') (hcontrol : ¬c.toNat < 32)
    (fuel : Nat) (acc : List Char) (s : List Glyph) :
    quotedRest (fuel + 1) acc false (.char c :: s) = quotedRest fuel (c :: acc) false s :=
  (if_neg (by simpa using hquote)).trans <| (if_neg (by simpa using hslash)).trans <|
    if_neg hcontrol

/-- An escape is taken as the character it stands for. -/
lemma quotedRest_escape {c : Char} {s rest : List Glyph} (h : escape s = .ok (c, rest))
    (fuel : Nat) (acc : List Char) :
    quotedRest (fuel + 1) acc false (.char '\\' :: s) = quotedRest fuel (c :: acc) false rest := by
  simp [quotedRest, h]

/-- A text in quotes is read to its closing quote. -/
lemma quotedRest_escaped (cs acc : List Char) {fuel : Nat}
    (hfuel : (cs.flatMap escapeChar).length < fuel) (s : List Glyph) :
    quotedRest fuel acc false (chars (cs.flatMap escapeChar) ++ .char '"' :: s) =
      .ok (String.ofList (acc.reverse ++ cs), s) := by
  induction cs generalizing acc fuel with
  | nil =>
    cases fuel with
    | zero => simp at hfuel
    | succ fuel => simp [quotedRest]
  | cons c cs ih =>
    cases fuel with
    | zero => simp at hfuel
    | succ fuel =>
      rw [List.flatMap_cons, List.length_append] at hfuel
      have hacc : acc.reverse ++ c :: cs = (c :: acc).reverse ++ cs := by simp
      rw [List.flatMap_cons, chars_append, List.append_assoc, hacc]
      obtain ⟨hplain, hquote, hslash, hcontrol⟩ | ⟨tail, htail, hescape⟩ := escapeChar_cases c
      · rw [hplain, List.length_singleton] at hfuel
        rw [hplain, chars_cons, chars_nil, List.cons_append, List.nil_append,
          quotedRest_plain hquote hslash hcontrol]
        exact ih (c :: acc) (by omega)
      · rw [htail, List.length_cons] at hfuel
        rw [htail, chars_cons, List.cons_append, quotedRest_escape (hescape _)]
        exact ih (c :: acc) (by omega)

/-- A text in quotes is read after its opening quote. -/
lemma stringRest_quoted (t : String) (s : List Glyph) :
    stringRest (chars (t.toList.flatMap escapeChar) ++ .char '"' :: s) = .ok (t, s) := by
  unfold stringRest
  rw [quotedRest_escaped _ _ (by simp)]
  simp

/-- The spelling of a text, and what follows. -/
lemma chars_quoted (t : String) (s : List Glyph) :
    chars (quoted t) ++ s =
      .char '"' :: (chars (t.toList.flatMap escapeChar) ++ .char '"' :: s) := by
  simp [quoted]

/-- Texts are read back. -/
lemma reads_string (t : String) : Reads readString (.text t) t := by
  intro cs rest s hcs _ hs
  unfold Spells at hcs
  rw [hcs, chars_quoted] at hs
  unfold readString
  rw [hs]
  exact stringRest_quoted t rest

/-! ### Natural numbers -/

/-- The text of a natural number. -/
lemma toList_toString_natCast (n : Nat) : (toString (n : Int)).toList = Nat.toDigits 10 n :=
  Nat.toList_repr

/-- The text of an integer is that of a natural number, behind a minus sign if it is below zero. -/
lemma exists_toList_toString (n : Int) :
    ∃ (negative : Bool) (m : Nat),
      (toString n).toList = if negative then '-' :: Nat.toDigits 10 m else Nat.toDigits 10 m := by
  cases n with
  | ofNat n => exact ⟨false, n, Nat.toList_repr⟩
  | negSucc n =>
    refine ⟨true, n + 1, ?_⟩
    change ("-" ++ Nat.repr (n + 1)).toList = _
    rw [String.toList_append, Nat.toList_repr]
    rfl

/-- The digits of a number start with a digit. -/
lemma exists_toDigits_cons (n : Nat) :
    ∃ c ds, Nat.toDigits 10 n = c :: ds ∧ c.isDigit = true := by
  cases hdigits : Nat.toDigits 10 n with
  | nil => exact absurd hdigits Nat.toDigits_ne_nil
  | cons c ds =>
    exact ⟨c, ds, rfl, digits_toDigits n c (hdigits ▸ List.mem_cons_self)⟩

/-- A number that starts with a digit is read as one without sign. -/
lemma readNumber_of_digit {s : List Glyph} {c : Char} {more : List Glyph} (hc : c.isDigit = true)
    (hs : skipSpace s = .char c :: more) :
    readNumber s = unsignedNumber false (.char c :: more) := by
  have hne : c ≠ '-' := by
    rintro rfl
    exact absurd hc (by decide)
  have hsome := digit?_cons hc more
  unfold readNumber
  rw [hs]
  simp only [hsome]
  rw [if_pos (by simp)]
  unfold number
  split
  · rename_i heq
    exact absurd (Glyph.char.inj (List.cons.inj heq).1) hne
  · rfl

/-- What ends a number ends it as a whole number. -/
lemma numberEnd_of_stops {rest : List Glyph} (h : Stops rest) (negative : Bool) (n : Nat) :
    numberEnd negative n rest = .ok (wholeNumber negative n, rest) := by
  have hpoint := h.noPoint
  have hsmall := h.noSmallE
  have hlarge := h.noLargeE
  unfold numberEnd
  split <;> simp_all

/-- Natural numbers that fit are read back. -/
lemma reads_nat {bits n : Nat} (hbits : bits ≤ 64) (hn : n < 2 ^ bits) :
    Reads (readNat bits) (.nat n) n := by
  intro cs rest s hcs hrest hs
  have hmax : n ≤ maxSignificand := by
    have hpow : 2 ^ bits ≤ 2 ^ 64 := Nat.pow_le_pow_right (by decide) hbits
    have : maxSignificand = 2 ^ 64 - 1 := rfl
    omega
  unfold Value.nat Spells at hcs
  rw [hcs, toList_toString_natCast] at hs
  have hnumber : readNumber s = .ok (.nat n, rest) := by
    have hread := unsignedNumber_toDigits false hmax hrest.noDigit
    obtain ⟨c, ds, hdigits, hc⟩ := exists_toDigits_cons n
    rw [hdigits, chars_cons, List.cons_append] at hs hread
    rw [readNumber_of_digit hc hs, hread, numberEnd_of_stops hrest]
    rfl
  unfold readNat
  rw [hnumber]
  exact if_pos hn

/-! ### Choices and what is optional -/

/-- A name that is found is read as what it names. -/
lemma reads_choice {find : String → Option α} {name : String} {a : α} (h : find name = some a) :
    Reads (readChoice find) (.text name) a := by
  intro cs rest s hcs _ hs
  unfold Spells at hcs
  rw [hcs, chars_quoted] at hs
  unfold readChoice
  rw [hs]
  simp only
  rw [stringRest_quoted]
  simp only [nameOf, h]
  rfl

/-- A word is taken off. -/
lemma word_chars (w : List Char) (s : List Glyph) : word w (chars w ++ s) = .ok ((), s) := by
  induction w with
  | nil => rfl
  | cons c w ih =>
    rw [chars_cons, List.cons_append, word]
    simp only [if_true]
    exact ih

/-- Nothing is read back as nothing. -/
lemma reads_none (r : Reader α) : Reads (readOptional r) .null none := by
  intro cs rest s hcs _ hs
  unfold Spells at hcs
  rw [hcs] at hs
  have hs' : skipSpace s = .char 'n' :: (chars ['u', 'l', 'l'] ++ rest) := hs
  unfold readOptional
  rw [hs']
  simp only
  rw [word_chars]
  rfl

/-- Skipping blanks twice is skipping them once. -/
lemma skipSpace_skipSpace (s : List Glyph) : skipSpace (skipSpace s) = skipSpace s := by
  induction s with
  | nil => rfl
  | cons g s ih =>
    by_cases hspace : isSpace g = true
    · rw [skipSpace, if_pos hspace]
      exact ih
    · rw [skipSpace_cons (by simpa using hspace), skipSpace_cons (by simpa using hspace)]

/-- Something is read back as something, if its spelling is not taken for nothing. -/
lemma reads_some {r : Reader α} {v : Value} {a : α} (h : Reads r v a)
    (hv : ∀ cs, Spells v cs → cs.head? ≠ some 'n' ∧ cs ≠ []) :
    Reads (readOptional r) v (some a) := by
  intro cs rest s hcs hrest hs
  obtain ⟨hhead, hne⟩ := hv cs hcs
  have hread := h cs rest (skipSpace s) hcs hrest (by rw [skipSpace_skipSpace, hs])
  unfold readOptional
  split
  · rename_i more heq
    rw [hs] at heq
    cases cs with
    | nil => exact absurd rfl hne
    | cons c cs =>
      obtain ⟨hc, -⟩ := List.cons.inj heq
      exact absurd (congrArg some (Glyph.char.inj hc)) hhead
  · rw [hread]
    rfl

/-- Optional texts are read back. -/
lemma reads_optional_string (t : Option String) :
    Reads (readOptional readString) (Value.optional .text t) t := by
  cases t with
  | none => exact reads_none _
  | some t =>
    refine reads_some (reads_string t) fun cs hcs => ?_
    unfold Spells at hcs
    rw [hcs]
    exact ⟨by simp [quoted], by simp [quoted]⟩

end Retrial.Json
