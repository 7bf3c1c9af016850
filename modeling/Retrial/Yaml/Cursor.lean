import Retrial.Yaml.Char

/-!
# A place in a document

A cursor stands somewhere in a document: it knows what is still to come, and the line, the column
and the distance from the start.
-/

namespace Retrial.Yaml

/-- A place in a document. -/
structure Cursor where
  rest : List Char
  index : Nat
  line : Nat
  column : Nat
deriving Repr, Inhabited

namespace Cursor

/-- The place before the first character. -/
def start (s : List Char) : Cursor := ⟨s, 0, 0, 0⟩

/-- The next character. -/
def head? (c : Cursor) : Option Char := c.rest.head?

/-- The place some characters further on the same line. -/
def advance (c : Cursor) (n : Nat) : Cursor := ⟨c.rest.drop n, c.index + n, c.line, c.column + n⟩

/-- The place after all characters of a kind. -/
def skipWhile (c : Cursor) (p : Char → Bool) : Cursor := c.advance (c.rest.takeWhile p).length

/-- The characters of a kind, and the place after them. -/
def takeWhile (c : Cursor) (p : Char → Bool) : List Char × Cursor :=
  let taken := c.rest.takeWhile p
  (taken, c.advance taken.length)

/-- Takes a line break, if one comes next, as a text: all usual breaks are the same, those of other
scripts stand for themselves. -/
def takeBreak (c : Cursor) : List Char × Cursor :=
  match c.rest with
  | '\r' :: '\n' :: rest => (['\n'], ⟨rest, c.index + 2, c.line + 1, 0⟩)
  | d :: rest =>
    if isBreak d then
      (if d == '\n' || d == '\r' || d.toNat == 0x85 then ['\n'] else [d],
        ⟨rest, c.index + 1, c.line + 1, 0⟩)
    else ([], c)
  | [] => ([], c)

/-- The place after a comment, or the same place if none comes next. -/
def skipComment (c : Cursor) : Cursor :=
  if c.head? == some '#' then c.skipWhile fun d => !isBreak d else c

/-- The place after what may stand behind the last part of a line: blanks, a comment, and the
break; none if anything else stands there. -/
def finishLine? (c : Cursor) : Option Cursor :=
  let c := (c.skipWhile isSpace).skipComment
  if atBreak c.rest then some c.takeBreak.2 else none

/-- Whether the line here starts with the mark of the start or the end of a document. -/
def atDocumentMark (c : Cursor) : Bool :=
  c.column == 0 && (startsMark '-' c.rest || startsMark '.' c.rest)

end Cursor

end Retrial.Yaml
