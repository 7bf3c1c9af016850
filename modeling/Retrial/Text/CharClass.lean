import Retrial.Text.ClassTable

/-!
# Character classes

The classes that failure texts are read with: decimal digits of every script, word characters (what
a word boundary separates from the rest), and white space. ASCII is decided directly; beyond it the
tables of `Retrial.Text.ClassTable` decide.
-/

namespace Retrial.Text

/-- Whether a code point lies in one of the inclusive ranges. -/
def inRanges (ranges : List (Nat × Nat)) (n : Nat) : Bool :=
  ranges.any fun r => r.1 ≤ n && n ≤ r.2

/-- A decimal digit of any script. -/
def isDecimal (c : Char) : Bool :=
  if c.toNat < 128 then c.isDigit else inRanges digitRanges c.toNat

/-- A character that words are made of: letter, mark, digit, connector or joiner. -/
def isWord (c : Char) : Bool :=
  if c.toNat < 128 then c.isAlphanum || c == '_' else inRanges wordRanges c.toNat

/-- A lower-case hexadecimal digit. -/
def isLowerHex (c : Char) : Bool :=
  c.isDigit || ('a' ≤ c && c ≤ 'f')

/-- White space in the sense of all scripts. -/
def isBlank (c : Char) : Bool :=
  inRanges
    [(9, 13), (32, 32), (133, 133), (160, 160), (5760, 5760), (8192, 8202), (8232, 8233),
      (8239, 8239), (8287, 8287), (12288, 12288)] c.toNat

/-- A text with nothing but white space in it. -/
def isBlankText (s : String) : Bool := s.toList.all isBlank

theorem isDecimal_of_isDigit {c : Char} (h : c.isDigit = true) : isDecimal c = true := by
  have hlt : c.toNat < 128 := by
    simp only [Char.isDigit, Bool.and_eq_true, decide_eq_true_eq] at h
    have h2 : c.val ≤ 57 := h.2
    have : c.val.toNat ≤ 57 := h2
    simp only [Char.toNat]
    omega
  simp [isDecimal, hlt, h]

theorem isWord_of_isDigit {c : Char} (h : c.isDigit = true) : isWord c = true := by
  have hlt : c.toNat < 128 := by
    simp only [Char.isDigit, Bool.and_eq_true, decide_eq_true_eq] at h
    have h2 : c.val ≤ 57 := h.2
    have : c.val.toNat ≤ 57 := h2
    simp only [Char.toNat]
    omega
  simp [isWord, hlt, Char.isAlphanum, h]

end Retrial.Text
