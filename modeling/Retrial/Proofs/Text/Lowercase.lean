import Mathlib
import Retrial.Text.Lowercase

/-!
# Lower case, character by character

Lower-casing a text is almost a map over its characters: only the capital sigma looks at what stands
around it, and there only at whether a cased character comes next on either side (`lowerForm`,
`lowercaseBetween_congr`).  With the two lower sigmas taken for one, it is such a map
(`map_desigma_lowercase`).

What the normal form of a failure turns on does not change at all: decimal digits of any script, and
the marks of ASCII, are their own lower forms and nobody else's (`mem_lowerChar_iff`).
-/

namespace Retrial.Text

/-! ### Code points -/

/-- What holds of the first 128 code points holds of all characters of ASCII. -/
lemma forall_ascii {P : Char → Prop} (h : ∀ n < 128, P (Char.ofNat n)) {c : Char}
    (hc : c.toNat < 128) : P c := by
  have hP := h c.toNat hc
  rwa [Char.ofNat_toNat] at hP

/-- A character up to one of ASCII is one of ASCII. -/
lemma ascii_of_le {c d : Char} (h : c ≤ d) (hd : d.toNat < 128) : c.toNat < 128 :=
  lt_of_le_of_lt (b := d.toNat) h hd

/-- Whether no range of the one list meets one of the other. -/
def apart (as bs : List (Nat × Nat)) : Bool :=
  as.all fun a => bs.all fun b => Nat.blt a.2 b.1 || Nat.blt b.2 a.1

/-- A code point of some ranges lies in none of ranges apart from them. -/
lemma inRanges_eq_false {as bs : List (Nat × Nat)} (h : apart as bs = true) {n : Nat}
    (ha : inRanges as n = true) : inRanges bs n = false := by
  unfold inRanges at ha ⊢
  obtain ⟨a, hmem, ha⟩ := List.any_eq_true.mp ha
  rw [List.any_eq_false]
  intro b hb hin
  have hab := List.all_eq_true.mp (List.all_eq_true.mp h a hmem) b hb
  simp only [Bool.or_eq_true, Nat.blt_eq, Bool.and_eq_true, decide_eq_true_eq] at hab ha hin
  omega

/-- Decimal digits beyond ASCII. -/
lemma inRanges_of_isDecimal {c : Char} (h : isDecimal c = true) (hc : ¬c.toNat < 128) :
    inRanges digitRanges c.toNat = true := by
  unfold isDecimal at h
  rwa [if_neg hc] at h

/-- Decimal digits have no case. -/
lemma isCased_of_isDecimal {c : Char} (h : isDecimal c = true) : isCased c = false := by
  by_cases hc : c.toNat < 128
  · have hascii : ∀ n < 128, isDecimal (Char.ofNat n) = true → isCased (Char.ofNat n) = false := by
      decide
    exact forall_ascii (P := fun c => isDecimal c = true → isCased c = false) hascii hc h
  · unfold isCased
    rw [if_neg hc]
    exact inRanges_eq_false (by decide +kernel) (inRanges_of_isDecimal h hc)

/-- The search for a cased character does not pass over decimal digits. -/
lemma isCaseIgnorable_of_isDecimal {c : Char} (h : isDecimal c = true) :
    isCaseIgnorable c = false := by
  by_cases hc : c.toNat < 128
  · have hascii : ∀ n < 128,
        isDecimal (Char.ofNat n) = true → isCaseIgnorable (Char.ofNat n) = false := by decide
    exact forall_ascii (P := fun c => isDecimal c = true → isCaseIgnorable c = false) hascii hc h
  · unfold isCaseIgnorable
    rw [if_neg hc]
    exact inRanges_eq_false (by decide +kernel) (inRanges_of_isDecimal h hc)

/-- The letters that ASCII puts in lower case lie in ASCII. -/
lemma toLower_of_beyond {c : Char} (h : ¬c.toNat < 128) : c.toLower = c := by
  have hlast : ¬c.val ≤ 'Z'.val := fun hle => by
    have hnat : c.toNat ≤ 90 := hle
    omega
  unfold Char.toLower
  rw [dif_neg fun hboth => hlast hboth.2]

/-! ### Characters that keep to themselves -/

/-- Decimal digits of any script, and characters of ASCII that are no letters. -/
def Inert (c : Char) : Prop := isDecimal c = true ∨ c.toNat < 128 ∧ c.isAlpha = false

instance (c : Char) : Decidable (Inert c) := by
  unfold Inert
  infer_instance

/-- The lower forms of a run of letters, as a range of code points. -/
def lowerRange (r : Nat × Nat × Nat × Int) : Nat × Nat :=
  ((r.1 + r.2.2.2).toNat, (r.2.1 + r.2.2.2).toNat)

/-- The lower form of a character beyond ASCII is that of the dotted capital, the character itself,
or one of the lower forms of a run of letters. -/
lemma lowerChar_cases {c : Char} (hc : ¬c.toNat < 128) :
    (c = 'İ' ∧ lowerChar c = ['i', Char.ofNat 0x307]) ∨ lowerChar c = [c] ∨
      ∃ r ∈ caseRuns, r.1 ≤ c.toNat ∧ c.toNat ≤ r.2.1 ∧
        lowerChar c = [Char.ofNat (c.toNat + r.2.2.2).toNat] := by
  unfold lowerChar
  rw [if_neg hc]
  split_ifs with hdotted
  · exact Or.inl ⟨by simpa using hdotted, rfl⟩
  · right
    split
    · rename_i r hr
      have hmem := List.mem_of_find?_eq_some hr
      have hin := List.find?_some hr
      simp only [Bool.and_eq_true, decide_eq_true_eq] at hin
      exact Or.inr ⟨r, hmem, hin.1.1, hin.1.2, rfl⟩
    · exact Or.inl rfl

/-- The lower form of a character has at least one character. -/
lemma lowerChar_ne_nil (c : Char) : lowerChar c ≠ [] := by
  by_cases hc : c.toNat < 128
  · rw [lowerChar_ascii hc]
    exact List.cons_ne_nil _ _
  · obtain ⟨-, h⟩ | h | ⟨r, -, -, -, h⟩ := lowerChar_cases hc
    all_goals
      rw [h]
      exact List.cons_ne_nil _ _

/-- A character that keeps to itself is its own lower form. -/
lemma lowerChar_of_inert {c : Char} (h : Inert c) : lowerChar c = [c] := by
  by_cases hc : c.toNat < 128
  · have hascii : ∀ n < 128, Inert (Char.ofNat n) → lowerChar (Char.ofNat n) = [Char.ofNat n] := by
      decide +kernel
    exact forall_ascii (P := fun c => Inert c → lowerChar c = [c]) hascii hc h
  · have hdigit : isDecimal c = true := h.resolve_right fun hmark => hc hmark.1
    obtain ⟨rfl, -⟩ | hlower | ⟨r, hr, hfirst, hlast, -⟩ := lowerChar_cases hc
    · exact absurd hdigit (by decide)
    · exact hlower
    · -- no run of letters meets the digits
      have hapart : apart digitRanges (caseRuns.map fun r => (r.1, r.2.1)) = true := by
        decide +kernel
      have hout := inRanges_eq_false hapart (inRanges_of_isDecimal hdigit hc)
      have hin := List.any_eq_false.mp hout _ (List.mem_map_of_mem hr)
      simp only [Bool.and_eq_true, decide_eq_true_eq] at hin
      omega

/-- The lower forms of the runs of letters are characters, but none that keep to themselves. -/
lemma not_inert_of_mem_lowerRange {r : Nat × Nat × Nat × Int} (hr : r ∈ caseRuns) {n : Nat}
    (hfirst : (lowerRange r).1 ≤ n) (hlast : n ≤ (lowerRange r).2) : ¬Inert (Char.ofNat n) := by
  -- besides the Kelvin sign's, all lower forms lie beyond ASCII
  have hranges : ∀ r ∈ caseRuns, lowerRange r = (0x6B, 0x6B) ∨ 128 ≤ (lowerRange r).1 ∧
      ((lowerRange r).2 < 0xD800 ∨ 0xDFFF < (lowerRange r).1 ∧ (lowerRange r).2 < 0x110000) := by
    decide +kernel
  have hapart : apart digitRanges (caseRuns.map lowerRange) = true := by decide +kernel
  obtain hkelvin | ⟨hbeyond, hvalid⟩ := hranges r hr
  · obtain rfl : n = 0x6B := by
      rw [hkelvin] at hfirst hlast
      omega
    decide
  · have hn : (Char.ofNat n).toNat = n := by
      rw [Char.toNat_ofNat, if_pos]
      unfold Nat.isValidChar
      omega
    rintro (hdigit | ⟨hlt, -⟩)
    · have hout := inRanges_eq_false hapart (inRanges_of_isDecimal hdigit (by omega))
      have hin := List.any_eq_false.mp hout _ (List.mem_map_of_mem hr)
      rw [hn] at hin
      simp only [Bool.and_eq_true, decide_eq_true_eq] at hin
      exact hin ⟨hfirst, hlast⟩
    · omega

/-- A character that keeps to itself is nobody else's lower form. -/
lemma mem_lowerChar_iff {c d : Char} (h : Inert d) : d ∈ lowerChar c ↔ c = d := by
  constructor
  · intro hd
    by_cases hc : c.toNat < 128
    · have hascii : ∀ n < 128, Inert (Char.ofNat n).toLower →
          Char.ofNat n = (Char.ofNat n).toLower := by decide
      rw [lowerChar_ascii hc, List.mem_singleton] at hd
      rw [hd] at h ⊢
      exact forall_ascii (P := fun c => Inert c.toLower → c = c.toLower) hascii hc h
    · obtain ⟨-, hlower⟩ | hlower | ⟨r, hr, hfirst, hlast, hlower⟩ := lowerChar_cases hc
      · rw [hlower, List.mem_cons, List.mem_singleton] at hd
        obtain rfl | rfl := hd
        · exact absurd h (by decide)
        · exact absurd h (by decide)
      · rw [hlower, List.mem_singleton] at hd
        exact hd.symm
      · rw [hlower, List.mem_singleton] at hd
        subst hd
        refine absurd h (not_inert_of_mem_lowerRange hr ?_ ?_)
        · unfold lowerRange
          omega
        · unfold lowerRange
          omega
  · rintro rfl
    rw [lowerChar_of_inert h]
    exact List.mem_singleton_self c

/-! ### Lower forms -/

/-- The lower form of a character, given whether a cased one comes before it and whether one comes
after it. -/
def lowerForm (cased meets : Bool) (c : Char) : List Char :=
  if c == 'Σ' then [if cased && !meets then 'ς' else 'σ'] else lowerChar c

variable {cased meets : Bool} {c d : Char}

/-- A text is lower-cased character by character. -/
lemma lowercaseAfter_cons (before : List Char) (c : Char) (cs : List Char) :
    lowercaseAfter before (c :: cs) =
      lowerForm (meetsCased before) (meetsCased cs) c ++ lowercaseAfter (c :: before) cs := rfl

/-- A character that keeps to itself is its own lower form, wherever it stands. -/
lemma lowerForm_of_inert (h : Inert c) : lowerForm cased meets c = [c] := by
  have hsigma : c ≠ 'Σ' := by
    rintro rfl
    exact absurd h (by decide)
  unfold lowerForm
  rw [if_neg (by simpa using hsigma), lowerChar_of_inert h]

/-- A character that keeps to itself is nobody else's lower form, wherever it stands. -/
lemma mem_lowerForm_iff (h : Inert d) : d ∈ lowerForm cased meets c ↔ c = d := by
  constructor
  · intro hd
    unfold lowerForm at hd
    split_ifs at hd
    · obtain rfl := List.mem_singleton.mp hd
      exact absurd h (by decide)
    · obtain rfl := List.mem_singleton.mp hd
      exact absurd h (by decide)
    · exact (mem_lowerChar_iff h).mp hd
  · rintro rfl
    rw [lowerForm_of_inert h]
    exact List.mem_singleton_self c

/-- A character of ASCII is lower-cased on its own, wherever it stands. -/
lemma lowerForm_of_ascii (h : c.toNat < 128) : lowerForm cased meets c = [c.toLower] := by
  have hsigma : c ≠ 'Σ' := by
    rintro rfl
    exact absurd h (by decide)
  unfold lowerForm
  rw [if_neg (by simpa using hsigma), lowerChar_ascii h]

/-- A lower form has at least one character. -/
lemma lowerForm_ne_nil : lowerForm cased meets c ≠ [] := by
  unfold lowerForm
  split_ifs
  · exact List.cons_ne_nil _ _
  · exact List.cons_ne_nil _ _
  · exact lowerChar_ne_nil c

/-! ### Texts between texts -/

/-- The lower case of a text between what stands before it (given backwards) and what comes
after it. -/
def lowercaseBetween (before rest : List Char) : List Char → List Char
  | [] => []
  | c :: cs =>
    lowerForm (meetsCased before) (meetsCased (cs ++ rest)) c ++
      lowercaseBetween (c :: before) rest cs

/-- A text is lower-cased piece by piece. -/
lemma lowercaseAfter_append (before cs rest : List Char) :
    lowercaseAfter before (cs ++ rest) =
      lowercaseBetween before rest cs ++ lowercaseAfter (cs.reverse ++ before) rest := by
  induction cs generalizing before with
  | nil => rfl
  | cons c cs ih =>
    rw [List.cons_append, lowercaseAfter_cons, lowercaseBetween, ih, List.reverse_cons]
    simp only [List.append_assoc, List.cons_append, List.nil_append]

/-- The whole text stands between nothing and nothing. -/
lemma lowercaseAfter_eq (before cs : List Char) :
    lowercaseAfter before cs = lowercaseBetween before [] cs := by
  have h := lowercaseAfter_append before cs []
  rwa [lowercaseAfter_nil, List.append_nil, List.append_nil] at h

/-- What the search for a cased character makes of the next one. -/
lemma meetsCased_cons (c : Char) (cs : List Char) :
    meetsCased (c :: cs) = if isCaseIgnorable c then meetsCased cs else isCased c := by
  unfold meetsCased
  cases hc : isCaseIgnorable c with
  | true => rw [List.find?_cons_of_neg (by simp [hc])]; rfl
  | false => rw [List.find?_cons_of_pos (by simp [hc])]; rfl

/-- Whether a text meets a cased character depends on what follows it only through whether that
does. -/
lemma meetsCased_append_congr (cs : List Char) {rest rest' : List Char}
    (h : meetsCased rest = meetsCased rest') :
    meetsCased (cs ++ rest) = meetsCased (cs ++ rest') := by
  unfold meetsCased at h ⊢
  rw [List.find?_append, List.find?_append]
  cases cs.find? fun c => !isCaseIgnorable c with
  | none => exact h
  | some c => rfl

/-- The lower case of a text depends on what follows it only through whether a cased character
comes next. -/
lemma lowercaseBetween_congr (before cs : List Char) {rest rest' : List Char}
    (h : meetsCased rest = meetsCased rest') :
    lowercaseBetween before rest cs = lowercaseBetween before rest' cs := by
  induction cs generalizing before with
  | nil => rfl
  | cons c cs ih =>
    rw [lowercaseBetween, lowercaseBetween, meetsCased_append_congr cs h, ih]

/-- The lower case of a text depends on what stands before it only through whether a cased character
comes next there. -/
lemma lowercaseAfter_congr {before before' : List Char} (h : meetsCased before = meetsCased before')
    (cs : List Char) : lowercaseAfter before cs = lowercaseAfter before' cs := by
  induction cs generalizing before before' with
  | nil => rfl
  | cons c cs ih =>
    have hnext : meetsCased (c :: before) = meetsCased (c :: before') := by
      rw [meetsCased_cons, meetsCased_cons, h]
    rw [lowercaseAfter_cons, lowercaseAfter_cons, h, ih hnext]

/-- A character that keeps to itself, and that the search for cased ones stops at, parts what is
lower-cased. -/
lemma lowercase_append_cons {m : Char} (hm : Inert m) (hstop : isCaseIgnorable m = false)
    (hcased : isCased m = false) (us vs : List Char) :
    lowercase (us ++ m :: vs) = lowercase us ++ m :: lowercase vs := by
  have hnone : ∀ cs, meetsCased (m :: cs) = meetsCased [] := by
    intro cs
    rw [meetsCased_cons, hstop, hcased]
    rfl
  unfold lowercase
  rw [lowercaseAfter_append, lowercaseBetween_congr [] us (hnone vs), ← lowercaseAfter_eq,
    lowercaseAfter_cons, lowerForm_of_inert hm, lowercaseAfter_congr (hnone _),
    List.singleton_append]

/-- Without letters beyond ASCII, a text is lower-cased by a map. -/
lemma lowercaseAfter_eq_map {cs : List Char} (h : ∀ c ∈ cs, c.toNat < 128 ∨ isDecimal c = true)
    (before : List Char) : lowercaseAfter before cs = cs.map Char.toLower := by
  induction cs generalizing before with
  | nil => rfl
  | cons c cs ih =>
    obtain ⟨hc, hcs⟩ := List.forall_mem_cons.mp h
    have hform : ∀ meets, lowerForm (meetsCased before) meets c = [c.toLower] := by
      intro meets
      by_cases hascii : c.toNat < 128
      · exact lowerForm_of_ascii hascii
      · rw [lowerForm_of_inert (Or.inl (hc.resolve_left hascii)), toLower_of_beyond hascii]
    rw [lowercaseAfter_cons, hform, ih hcs]
    rfl

/-! ### One sigma -/

/-- The lower sigma at the end of a word taken for the one inside. -/
def desigma (c : Char) : Char := if c == 'ς' then 'σ' else c

/-- The lower form of a character, with one lower sigma. -/
def plainLower (c : Char) : List Char := (lowerForm false false c).map desigma

/-- With one lower sigma, it does not matter where a character stands. -/
lemma map_desigma_lowerForm (cased meets : Bool) (c : Char) :
    (lowerForm cased meets c).map desigma = plainLower c := by
  unfold plainLower lowerForm
  split_ifs <;> rfl

/-- With one lower sigma, texts are lower-cased by a map. -/
lemma map_desigma_lowercaseBetween (before rest cs : List Char) :
    (lowercaseBetween before rest cs).map desigma = cs.flatMap plainLower := by
  induction cs generalizing before with
  | nil => rfl
  | cons c cs ih =>
    rw [lowercaseBetween, List.map_append, map_desigma_lowerForm, ih, List.flatMap_cons]

/-- With one lower sigma, a text is lower-cased by a map. -/
theorem map_desigma_lowercase (cs : List Char) :
    (lowercase cs).map desigma = cs.flatMap plainLower := by
  unfold lowercase
  rw [lowercaseAfter_eq]
  exact map_desigma_lowercaseBetween [] [] cs

/-- The lower form of a character has as many characters with one sigma. -/
lemma length_plainLower (cased meets : Bool) (c : Char) :
    (plainLower c).length = (lowerForm cased meets c).length := by
  rw [← map_desigma_lowerForm cased meets, List.length_map]

/-- The lower form of a character has at least one character, with one sigma too. -/
lemma length_plainLower_pos (c : Char) : 0 < (plainLower c).length := by
  rw [length_plainLower false false]
  exact List.length_pos_of_ne_nil lowerForm_ne_nil

/-- A character that keeps to itself is its own lower form, with one sigma too. -/
lemma plainLower_of_inert (h : Inert c) : plainLower c = [c] := by
  have hfinal : (c == 'ς') = false := by
    rw [beq_eq_false_iff_ne]
    rintro rfl
    exact absurd h (by decide)
  unfold plainLower desigma
  rw [lowerForm_of_inert h, List.map_singleton, hfinal]
  rfl

/-- A character that keeps to itself comes from nobody else, with one sigma too. -/
lemma mem_plainLower_iff (h : Inert d) : d ∈ plainLower c ↔ c = d := by
  constructor
  · intro hd
    obtain ⟨e, he, rfl⟩ := List.mem_map.mp hd
    unfold desigma at h ⊢
    split_ifs at h ⊢
    · exact absurd h (by decide)
    · exact (mem_lowerForm_iff h).mp he
  · rintro rfl
    rw [plainLower_of_inert h]
    exact List.mem_singleton_self c

end Retrial.Text
