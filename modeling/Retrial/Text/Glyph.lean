/-!
# Bytes read as text

The content of a file is a sequence of glyphs: characters, and stray bytes where the bytes are no
well-formed text. A stray glyph covers the longest start of a character that its bytes could still
have become.
-/

namespace Retrial.Text

/-- A piece of a file's content. -/
inductive Glyph
  /-- A well-formed character. -/
  | char (c : Char)
  /-- `size` bytes that are part of no character. -/
  | stray (size : Nat)
deriving DecidableEq, Repr, Inhabited

/-- The number of bytes a glyph takes. -/
def Glyph.size : Glyph → Nat
  | .char c => c.utf8Size
  | .stray n => n

/-- A glyph as a character, a stray one as the replacement character. -/
def Glyph.shown : Glyph → Char
  | .char c => c
  | .stray _ => Char.ofNat 0xFFFD

/-- The content that holds exactly a text. -/
def glyphs (s : String) : List Glyph := s.toList.map Glyph.char

/-- Content shown as a text, with a replacement character for each stray glyph. -/
def shownText (content : List Glyph) : String := String.ofList (content.map Glyph.shown)

/-- The character of a well-formed glyph. -/
def Glyph.char? : Glyph → Option Char
  | .char c => some c
  | .stray _ => none

/-- The text of well-formed content. -/
def text? (content : List Glyph) : Option String :=
  (content.mapM Glyph.char?).map String.ofList

/-- How a lead byte continues: the number of bytes that follow and the range of the first one. -/
def continuation (lead : Nat) : Option (Nat × Nat × Nat) :=
  if 0xC2 ≤ lead && lead ≤ 0xDF then some (1, 0x80, 0xBF)
  else if lead == 0xE0 then some (2, 0xA0, 0xBF)
  else if lead == 0xED then some (2, 0x80, 0x9F)
  else if 0xE1 ≤ lead && lead ≤ 0xEF then some (2, 0x80, 0xBF)
  else if lead == 0xF0 then some (3, 0x90, 0xBF)
  else if 0xF1 ≤ lead && lead ≤ 0xF3 then some (3, 0x80, 0xBF)
  else if lead == 0xF4 then some (3, 0x80, 0x8F)
  else none

/-- The code point so far, the bytes still missing, the bytes taken, and the range of the next. -/
structure Pending where
  code : Nat
  missing : Nat
  taken : Nat
  low : Nat
  high : Nat

/-- Starts on a byte outside any character: a glyph at once, or a character to complete. -/
def startGlyph (b : Nat) : Glyph ⊕ Pending :=
  if b < 0x80 then .inl (.char (Char.ofNat b))
  else
    match continuation b with
    | some (n, low, high) => .inr ⟨b % Nat.pow 2 (6 - n), n, 1, low, high⟩
    | none => .inl (.stray 1)

/-- Reads bytes as glyphs, with a character possibly begun. -/
def ofBytesFrom : Option Pending → List UInt8 → List Glyph
  | none, [] => []
  | some p, [] => [.stray p.taken]
  | none, b :: bs =>
    match startGlyph b.toNat with
    | .inl g => g :: ofBytesFrom none bs
    | .inr p => ofBytesFrom (some p) bs
  | some p, b :: bs =>
    let n := b.toNat
    if p.low ≤ n && n ≤ p.high then
      let code := p.code * 64 + n % 64
      if p.missing ≤ 1 then .char (Char.ofNat code) :: ofBytesFrom none bs
      else ofBytesFrom (some ⟨code, p.missing - 1, p.taken + 1, 0x80, 0xBF⟩) bs
    else
      .stray p.taken ::
        match startGlyph n with
        | .inl g => g :: ofBytesFrom none bs
        | .inr q => ofBytesFrom (some q) bs

/-- Reads bytes as glyphs. -/
def ofBytes (bytes : List UInt8) : List Glyph := ofBytesFrom none bytes

@[simp] theorem shownText_glyphs (s : String) : shownText (glyphs s) = s := by
  simp [shownText, glyphs, List.map_map, Function.comp_def, Glyph.shown]

theorem mapM_char?_map_char (cs : List Char) :
    (cs.map Glyph.char).mapM Glyph.char? = some cs := by
  induction cs with
  | nil => rfl
  | cons c cs ih => simp [List.mapM_cons, ih, Glyph.char?]

@[simp] theorem text?_glyphs (s : String) : text? (glyphs s) = some s := by
  rw [text?, glyphs, mapM_char?_map_char]
  simp

end Retrial.Text
