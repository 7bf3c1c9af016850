import Retrial.Json.Value
import Retrial.Yaml.Number

/-!
# Writing block documents

Every field and every item has a line of its own, the fields of a record two columns deeper than the
record's key and the items of a list under their key. A text stands plainly if it then reads back as
itself; otherwise it stands in single quotes, or in double quotes if it holds what needs escapes, or
as a block of lines if it has line breaks.
-/

namespace Retrial.Yaml

/-! ### What a text allows -/

/-- The characters that no plain text begins with. -/
def neverFirst : List Char :=
  ['#', ',', '[', ']', '{', '}', '&', '*', '!', '|', '>', '\'', '"', '%', '@', Char.ofNat 96]

/-- Whether a text begins with an indicator. -/
def beginsWithIndicator : List Char → Bool
  | [] => false
  | c :: rest => neverFirst.contains c || ((c == '?' || c == ':' || c == '-') && atGap rest)

/-- Whether an indicator follows somewhere: a colon before a gap or a number sign after one. -/
def holdsIndicator : List Char → Bool
  | [] => false
  | [_] => false
  | c :: d :: rest =>
    (d == ':' && atGap rest) || (isGap c && d == '#') || holdsIndicator (d :: rest)

/-- Whether a text begins like the mark of the start or the end of a document. -/
def beginsWithMark (s : List Char) : Bool :=
  s.take 3 == ['-', '-', '-'] || s.take 3 == ['.', '.', '.']

/-- Whether a blank stands right before a break. -/
def hasTrailingBlank : List Char → Bool
  | c :: d :: rest => (c == ' ' && isBreak d) || hasTrailingBlank (d :: rest)
  | _ => false

/-- Whether a blank stands right after a break. -/
def hasLeadingBlank : List Char → Bool
  | c :: d :: rest => (isBreak c && d == ' ') || hasLeadingBlank (d :: rest)
  | _ => false

/-- Whether a text begins or ends with a blank or a break. -/
def hasBlankEnds (s : List Char) : Bool :=
  let blank (c : Char) : Bool := c == ' ' || isBreak c
  s.head?.any blank || s.getLast?.any blank

/-- Whether a text needs escapes. -/
def needsEscapes (s : List Char) : Bool := !s.all isPrintable || hasTrailingBlank s

/-- Whether a text may stand plainly. -/
def allowsPlain (s : List Char) : Bool :=
  !s.any isBreak && !hasBlankEnds s && !needsEscapes s && !beginsWithMark s
    && !beginsWithIndicator s && !holdsIndicator s

/-- Whether a text may stand in single quotes. -/
def allowsSingle (s : List Char) : Bool := !hasLeadingBlank s && !needsEscapes s

/-- Whether a text may stand as a block of lines. -/
def allowsBlock (s : List Char) : Bool := !s.isEmpty && s.getLast? != some ' ' && !needsEscapes s

/-! ### The forms of a text -/

/-- Blanks. -/
def blanks (n : Nat) : List Char := List.replicate n ' '

/-- The rest of a text in single quotes: quotes are doubled, and breaks of other scripts are
followed by the indentation. -/
def singleRest (indent : Nat) : (broken : Bool) → List Char → List Char
  | broken, [] => if broken then blanks indent else []
  | broken, c :: rest =>
    if isBreak c then
      (if !broken && c == '\n' then ['\n', '\n'] else [c]) ++ singleRest indent true rest
    else
      (if broken && c != ' ' then blanks indent else [])
        ++ (if c == '\'' then ['\'', '\''] else [c])
        ++ singleRest indent (broken && c == ' ') rest

/-- A text in single quotes. -/
def singleQuoted (indent : Nat) (s : List Char) : List Char :=
  '\'' :: singleRest indent false s ++ ['\'']

/-- The letters of escapes. -/
def escapeLetters : List (Nat × Char) := [
  (0, '0'), (7, 'a'), (8, 'b'), (9, 't'), (10, 'n'), (11, 'v'), (12, 'f'), (13, 'r'), (27, 'e'),
  (34, '"'), (92, '\\'), (0x85, 'N'), (0xA0, '_'), (0x2028, 'L'), (0x2029, 'P')]

/-- A number in upper-case hexadecimal digits. -/
def hexDigits (width n : Nat) : List Char :=
  (List.range width).map fun i => (Nat.digitChar (n / Nat.pow 16 (width - 1 - i) % 16)).toUpper

/-- The escape of a character. -/
def escape (c : Char) : List Char :=
  let n := c.toNat
  match escapeLetters.lookup n with
  | some letter => ['\\', letter]
  | none =>
    if n ≤ 0xFF then '\\' :: 'x' :: hexDigits 2 n
    else if n ≤ 0xFFFF then '\\' :: 'u' :: hexDigits 4 n
    else '\\' :: 'U' :: hexDigits 8 n

/-- A text in double quotes. -/
def doubleQuoted (s : List Char) : List Char :=
  '"' :: (s.flatMap fun c =>
    if !isPrintable c || isBreak c || c == '"' || c == '\\' then escape c else [c]) ++ ['"']

/-- The header of a block of lines: the indentation if it does not show, and what becomes of the
breaks at the end. -/
def blockHeader (s : List Char) : List Char :=
  let indent := if s.head?.any fun c => c == ' ' || isBreak c then ['2'] else []
  let chomping :=
    match s.reverse with
    | c :: d :: _ => if !isBreak c then ['-'] else if isBreak d then ['+'] else []
    | [c] => if isBreak c then ['+'] else ['-']
    | [] => ['-']
  '|' :: indent ++ chomping

/-- The lines of a block, each indented unless it is empty. -/
def blockBody (indent : Nat) : (atStart : Bool) → List Char → List Char
  | _, [] => []
  | atStart, c :: rest =>
    if isBreak c then c :: blockBody indent true rest
    else (if atStart then blanks indent else []) ++ c :: blockBody indent false rest

/-- A text as a block of lines, without the break that ends it. -/
def block (indent : Nat) (s : List Char) : List Char :=
  blockHeader s ++ '\n' :: blockBody indent true s

/-- A text in the form that fits it; further lines of it are indented. -/
def textForm (indent : Nat) (s : String) : List Char :=
  let cs := s.toList
  if cs.contains '\n' then if allowsBlock cs then block indent cs else doubleQuoted cs
  else if allowsPlain cs && !readsAsOther s then cs
  else if allowsSingle cs then singleQuoted indent cs
  else doubleQuoted cs

/-! ### Documents -/

/-- Ends a line, unless it has ended. -/
def endLine (line : List Char) : List Char :=
  if line.getLast?.any isBreak then line else line ++ ['\n']

/-- The text of a value that is no list and no record. -/
def leafForm (indent : Nat) : Json.Value → List Char
  | .null => "null".toList
  | .bool b => (if b then "true" else "false").toList
  | .int n => (toString n).toList
  | .real x => Json.realText x
  | .text s => textForm indent s
  | .list _ => ['[', ']']
  | .record _ => ['{', '}']

mutual

/-- What follows a key or a dash at a depth. -/
def valueLines (depth : Nat) : Json.Value → List Char
  | .list (x :: xs) => '\n' :: itemLines depth (x :: xs)
  | .record (f :: fs) => '\n' :: fieldLines (depth + 2) (f :: fs)
  | v => ' ' :: endLine (leafForm (depth + 2) v)

/-- The lines of items at a depth. -/
def itemLines (depth : Nat) : List Json.Value → List Char
  | [] => []
  | v :: vs => blanks depth ++ '-' :: valueLines depth v ++ itemLines depth vs

/-- The lines of fields at a depth. -/
def fieldLines (depth : Nat) : List (String × Json.Value) → List Char
  | [] => []
  | (k, v) :: fs => blanks depth ++ k.toList ++ ':' :: valueLines depth v ++ fieldLines depth fs

end

/-- The text of a record with fields whose names are words. -/
def recordText (fields : List (String × Json.Value)) : String := String.ofList (fieldLines 0 fields)

end Retrial.Yaml
