import Retrial.Yaml.Cursor

/-!
# The texts of scalars

A scalar is written plainly, in single or double quotes, or as a block of lines. Within the first
three a single line break counts as a blank, and of several breaks the first one does not count. A
block keeps its breaks, or folds them in the same way where neither line is indented further.
-/

namespace Retrial.Yaml

/-- Blanks and breaks between two parts of a text. -/
structure Gap where
  /-- The blanks, as long as there is no break. -/
  spaces : List Char := []
  /-- Whether a line has ended. -/
  broken : Bool := false
  /-- The first break. -/
  first : List Char := []
  /-- All further breaks. -/
  more : List Char := []
deriving Inhabited

/-- What a gap comes to in the text. -/
def Gap.text (g : Gap) : List Char :=
  if g.broken then
    if g.first == ['\n'] then if g.more.isEmpty then [' '] else g.more else g.first ++ g.more
  else g.spaces

/-- Takes the blanks and breaks that come next. Where a line has to be indented, no tab may stand in
its indentation. -/
def takeGap (indent : Int) : Nat → Gap → Cursor → Option (Gap × Cursor)
  | 0, _, _ => none
  | fuel + 1, g, c =>
    match c.rest with
    | [] => some (g, c)
    | d :: _ =>
      if isSpace d then
        if g.broken then
          if d == '\t' && (c.column : Int) < indent then none
          else takeGap indent fuel g (c.advance 1)
        else takeGap indent fuel { g with spaces := g.spaces ++ [d] } (c.advance 1)
      else if isBreak d then
        let (taken, c) := c.takeBreak
        if g.broken then takeGap indent fuel { g with more := g.more ++ taken } c
        else takeGap indent fuel { broken := true, first := taken } c
      else some (g, c)

/-- Takes the blanks and breaks that come next. -/
def Cursor.takeGap (c : Cursor) (indent : Int) (g : Gap) : Option (Gap × Cursor) :=
  Yaml.takeGap indent (c.rest.length + 1) g c

/-! ### Plain scalars -/

/-- The characters that end a plain scalar inside brackets. -/
def flowEnds : List Char := [',', '[', ']', '{', '}']

/-- The part of a plain scalar up to a blank or its end. Inside brackets a colon must not run into
another indicator. -/
def plainPart (inFlow : Bool) : List Char → Option (List Char)
  | [] => some []
  | d :: rest =>
    if isGap d then some []
    else if inFlow && d == ':' && rest.head?.any fun e => e == '?' || flowEnds.contains e then none
    else if (d == ':' && atGap rest) || (inFlow && flowEnds.contains d) then some []
    else (plainPart inFlow rest).map fun s => d :: s

/-- A scalar's text, whether a line has ended since, and the place after it. -/
structure ScannedText where
  text : List Char
  broken : Bool
  after : Cursor

/-- The parts of a plain scalar with the gaps between them. -/
def plainParts (inFlow : Bool) (indent : Int) : Nat → List Char → Gap → Cursor → Option ScannedText
  | 0, _, _, _ => none
  | fuel + 1, text, g, c =>
    if c.atDocumentMark || c.head? == some '#' then some ⟨text, g.broken, c⟩
    else
      match plainPart inFlow c.rest with
      | none => none
      | some part =>
        let (text, g) := if part.isEmpty then (text, g) else (text ++ g.text ++ part, {})
        let c := c.advance part.length
        if c.rest.isEmpty || !atGap c.rest then some ⟨text, g.broken, c⟩
        else
          match c.takeGap indent g with
          | none => none
          | some (g, c) =>
            if !inFlow && (c.column : Int) < indent then some ⟨text, g.broken, c⟩
            else plainParts inFlow indent fuel text g c

/-- Takes a plain scalar whose further lines are indented by a number of columns. -/
def Cursor.takePlain (c : Cursor) (inFlow : Bool) (indent : Int) : Option ScannedText :=
  plainParts inFlow indent (c.rest.length + 1) [] {} c

/-! ### Scalars in quotes -/

/-- The number that hexadecimal digits stand for, if there are as many as wanted. -/
def hexNumber? : Nat → Nat → List Char → Option Nat
  | 0, n, _ => some n
  | _ + 1, _, [] => none
  | width + 1, n, d :: rest => (hexDigit? d).bind fun v => hexNumber? width (n * 16 + v) rest

/-- The character of an escape by code, after its letter, and the number of digits. -/
def codeEscape? (width : Nat) (s : List Char) : Option (Char × Nat) :=
  match hexNumber? width 0 s with
  | none => none
  | some n => if n.isValidChar then some (Char.ofNat n, width) else none

/-- The escapes of one letter. -/
def letterEscapes : List (Char × Nat) := [
  ('0', 0), ('a', 7), ('b', 8), ('t', 9), ('\t', 9), ('n', 10), ('v', 11), ('f', 12), ('r', 13),
  ('e', 27), (' ', 32), ('"', 34), ('/', 47), ('\\', 92), ('N', 0x85), ('_', 0xA0), ('L', 0x2028),
  ('P', 0x2029)]

/-- The character of an escape, after the backslash, and how many characters the escape takes
there. -/
def escape? : List Char → Option (Char × Nat)
  | [] => none
  | d :: rest =>
    let byCode (width : Nat) := (codeEscape? width rest).map fun p => (p.1, p.2 + 1)
    if d == 'x' then byCode 2
    else if d == 'u' then byCode 4
    else if d == 'U' then byCode 8
    else (letterEscapes.lookup d).map fun n => (Char.ofNat n, 1)

/-- A part of a text in quotes, up to a blank, the closing quote, or a break that is escaped. -/
structure QuotedPart where
  text : List Char
  /-- How many characters the part takes. -/
  taken : Nat
  /-- Whether an escaped break follows. -/
  joined : Bool

/-- The part with a character before it that takes some characters. -/
def QuotedPart.cons (p : QuotedPart) (c : Char) (taken : Nat) : QuotedPart :=
  { p with text := c :: p.text, taken := p.taken + taken }

/-- A part of a text in single quotes, where two quotes stand for one. -/
def singlePart : List Char → QuotedPart
  | '\'' :: '\'' :: rest => (singlePart rest).cons '\'' 2
  | d :: rest => if d == '\'' || isGap d then ⟨[], 0, false⟩ else (singlePart rest).cons d 1
  | [] => ⟨[], 0, false⟩

/-- A part of a text in double quotes, where a backslash begins an escape. -/
def doublePart : Nat → List Char → Option QuotedPart
  | 0, _ => none
  | _ + 1, [] => some ⟨[], 0, false⟩
  | fuel + 1, d :: rest =>
    if d == '"' || isGap d then some ⟨[], 0, false⟩
    else if d == '\\' then
      if rest.head?.any isBreak then some ⟨[], 0, true⟩
      else
        match escape? rest with
        | none => none
        | some (e, n) => (doublePart fuel (rest.drop n)).map fun p => p.cons e (n + 1)
    else (doublePart fuel rest).map fun p => p.cons d 1

/-- The parts of a text in quotes with the gaps between them, after the opening quote. -/
def quotedParts (single : Bool) : Nat → List Char → Cursor → Option ScannedText
  | 0, _, _ => none
  | fuel + 1, text, c =>
    if c.atDocumentMark || c.rest.isEmpty then none
    else
      let part? :=
        if single then some (singlePart c.rest) else doublePart (c.rest.length + 1) c.rest
      match part? with
      | none => none
      | some part =>
        let c := c.advance part.taken
        let (g, c) : Gap × Cursor :=
          if part.joined then ({ broken := true }, (c.advance 1).takeBreak.2) else ({}, c)
        let text := text ++ part.text
        if c.head? == some (if single then '\'' else '"') then some ⟨text, false, c.advance 1⟩
        else
          match c.takeGap 0 g with
          | none => none
          | some (g, c) => quotedParts single fuel (text ++ g.text) c

/-- Takes a text in quotes. -/
def Cursor.takeQuoted (c : Cursor) (single : Bool) : Option ScannedText :=
  let c := c.advance 1
  quotedParts single (c.rest.length + 1) [] c

/-! ### Blocks of lines -/

/-- Which breaks at the end of a block count. -/
inductive Chomping
  | strip
  | clip
  | keep
deriving DecidableEq, Repr

/-- What stands behind the indicator of a block. -/
structure BlockHeader where
  chomping : Chomping
  /-- How far the block is indented further than what holds it, if that is said. -/
  further : Option Nat

/-- The chomping of an indicator. -/
def chomping? (c : Char) : Option Chomping :=
  if c == '+' then some .keep else if c == '-' then some .strip else none

/-- Takes a digit other than zero; a zero is a fault. -/
def takeFurther (c : Cursor) : Option (Option Nat × Cursor) :=
  match c.head? with
  | none => some (none, c)
  | some d =>
    if d == '0' then none
    else if d.isDigit then some (some (d.toNat - 48), c.advance 1)
    else some (none, c)

/-- Takes the chomping, if it is said. -/
def takeChomping (c : Cursor) : Option Chomping × Cursor :=
  match c.head?.bind chomping? with
  | none => (none, c)
  | some x => (some x, c.advance 1)

/-- Takes what stands behind the indicator of a block: the chomping and the indentation, in either
order. -/
def takeHeader (c : Cursor) : Option (BlockHeader × Cursor) :=
  match takeChomping c with
  | (some x, c) => (takeFurther c).map fun p => (⟨x, p.1⟩, p.2)
  | (none, c) =>
    match takeFurther c with
    | none => none
    | some (none, c) => some (⟨.clip, none⟩, c)
    | some (some n, c) =>
      let (x, c) := takeChomping c
      some (⟨x.getD .clip, some n⟩, c)

/-- Takes the breaks of empty lines and the indentation of the next line. As long as the indentation
is not known (zero), all blanks count; `widest` is the widest indentation seen. -/
def takeBlockBreaks (indent : Nat) :
    Nat → Nat → List Char → Cursor → Option (Nat × List Char × Cursor)
  | 0, _, _, _ => none
  | fuel + 1, widest, breaks, c =>
    let blanks := (c.rest.takeWhile fun d => d == ' ').length
    let c := c.advance (if indent == 0 then blanks else min blanks (indent - c.column))
    let widest := max widest c.column
    if (indent == 0 || c.column < indent) && c.head? == some '\t' then none
    else if c.rest.isEmpty || !atBreak c.rest then some (widest, breaks, c)
    else
      let (taken, c) := c.takeBreak
      takeBlockBreaks indent fuel widest (breaks ++ taken) c

/-- The lines of a block so far. -/
structure BlockLines where
  text : List Char
  /-- The break after the last line. -/
  last : List Char
  /-- The breaks of the empty lines after it. -/
  empty : List Char
  /-- Whether the last line is indented further than the block. -/
  indented : Bool

/-- The text with a further line to come: within folded blocks a break between two lines that are
not indented further is a blank, or nothing if empty lines follow it. -/
def BlockLines.join (b : BlockLines) (folded nextIndented : Bool) : List Char :=
  if folded && b.last.head? == some '\n' && !b.indented && !nextIndented then
    b.text ++ (if b.empty.isEmpty then [' '] else []) ++ b.empty
  else b.text ++ b.last ++ b.empty

/-- Takes the lines of a block. -/
def blockLines (folded : Bool) (indent : Nat) :
    Nat → BlockLines → Cursor → Option (BlockLines × Cursor)
  | 0, _, _ => none
  | fuel + 1, b, c =>
    if c.column == indent && !c.rest.isEmpty then
      let indented := c.head?.any isSpace
      let text := b.join folded indented
      let (line, c) := c.takeWhile fun d => !isBreak d
      let (last, c) := c.takeBreak
      match takeBlockBreaks indent (c.rest.length + 1) 0 [] c with
      | none => none
      | some (_, empty, c) => blockLines folded indent fuel ⟨text ++ line, last, empty, indented⟩ c
    else some (b, c)

/-- The text of a block once all its lines are known. -/
def BlockLines.chomped (b : BlockLines) : Chomping → List Char
  | .strip => b.text
  | .clip => b.text ++ b.last
  | .keep => b.text ++ b.last ++ b.empty

/-- Takes a block of lines that is held by something indented by `outer`, which is negative outside
everything. -/
def Cursor.takeBlock (c : Cursor) (folded : Bool) (outer : Int) : Option ScannedText :=
  match takeHeader (c.advance 1) with
  | none => none
  | some (header, c) =>
    match c.finishLine? with
    | none => none
    | some c =>
      let said : Nat := (header.further.map fun n => (max outer 0).toNat + n).getD 0
      match takeBlockBreaks said (c.rest.length + 1) 0 [] c with
      | none => none
      | some (widest, empty, c) =>
        let indent := if said == 0 then max (max widest (outer + 1).toNat) 1 else said
        (blockLines folded indent (c.rest.length + 1) ⟨[], [], empty, false⟩ c).map fun p =>
          ⟨p.1.chomped header.chomping, false, p.2⟩

end Retrial.Yaml
