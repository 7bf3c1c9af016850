import Retrial.Yaml.Token

/-!
# Which tokens a document has

Where a line is indented further than what holds it and begins an item or a key, a list or a record
begins; where a line is indented less, everything indented further ends. That something is a key
shows only at the colon after it: so the scanner notes where a key may have begun, and when the
colon comes the tokens of the key, and of the record if the key is its first, are opened in front of
what stands there. A key without a question mark stands on one line and is at most 1024 characters
long.
-/

namespace Retrial.Yaml

/-- A token with those opened in front of it. -/
structure Entry where
  opened : List Token
  token : Token
deriving Inhabited

/-- A place where a key may have begun. -/
structure KeyPlace where
  /-- The number of the entry that begins there. -/
  entry : Nat
  /-- Whether nothing but a key can stand there. -/
  required : Bool
  index : Nat
  line : Nat
  column : Nat
deriving Inhabited

/-- How far a document has been scanned. -/
structure Scanner where
  cursor : Cursor
  entries : Array Entry
  /-- The indentation of the innermost list or record that indentation shows; negative outside all
  of them. -/
  indent : Int
  /-- The indentations around it, the next one first. -/
  outer : List Int
  /-- Whether a key may begin here. -/
  keyAllowed : Bool
  /-- The place where a key may have begun, for the innermost bracket. -/
  place : Option KeyPlace
  /-- The same for the brackets around it, the next one first. -/
  outerPlaces : List (Option KeyPlace)

namespace Scanner

/-- A document of which nothing has been scanned. -/
def start (s : List Char) : Scanner := ⟨Cursor.start s, #[], -1, [], true, none, []⟩

/-- Whether the scanner is inside brackets. -/
def inFlow (s : Scanner) : Bool := !s.outerPlaces.isEmpty

/-- Adds a token. -/
def push (s : Scanner) (t : Token) : Scanner := { s with entries := s.entries.push ⟨[], t⟩ }

/-- Adds a token and goes to the place after it. -/
def pushAt (s : Scanner) (t : Token) (c : Cursor) : Scanner := { s.push t with cursor := c }

/-- Opens tokens in front of an entry. -/
def openAt (s : Scanner) (entry : Nat) (ts : List Token) : Scanner :=
  { s with entries := s.entries.modify entry fun e => { e with opened := ts ++ e.opened } }

/-- All tokens in order. -/
def tokens (s : Scanner) : List Token := s.entries.toList.flatMap fun e => e.opened ++ [e.token]

/-! ### Indentation -/

/-- Whether something at a column is indented further than what holds it. -/
def isDeeper (s : Scanner) (column : Nat) : Bool := !s.inFlow && s.indent < column

/-- Goes to a deeper indentation. -/
def deepen (s : Scanner) (column : Nat) : Scanner :=
  { s with indent := column, outer := s.indent :: s.outer }

/-- Begins a list or a record here if this is indented further than what holds it. -/
def beginBlock (s : Scanner) (t : Token) : Scanner :=
  if s.isDeeper s.cursor.column then (s.push t).deepen s.cursor.column else s

/-- Ends what is indented further than a column. -/
def endBlocksFrom (column : Int) : List Int → Scanner → Scanner
  | [], s => s
  | i :: rest, s =>
    if column < s.indent then
      endBlocksFrom column rest { s.push .blockEnd with indent := i, outer := rest }
    else s

/-- Ends what is indented further than a column, unless brackets are open. -/
def endBlocks (s : Scanner) (column : Int) : Scanner :=
  if s.inFlow then s else endBlocksFrom column s.outer s

/-! ### Keys -/

/-- Whether a key that may have begun at a place can no longer be one. -/
def isStale (s : Scanner) (p : KeyPlace) : Bool :=
  p.line < s.cursor.line || p.index + 1024 < s.cursor.index

/-- The place if a key may still have begun there; a fault if one is required and cannot be one. -/
def fresh (s : Scanner) : Option KeyPlace → Option (Option KeyPlace)
  | none => some none
  | some p => if s.isStale p then if p.required then none else some none else some (some p)

/-- Forgets the places where no key can have begun. -/
def dropStale (s : Scanner) : Option Scanner :=
  match s.fresh s.place, s.outerPlaces.mapM s.fresh with
  | some place, some outerPlaces => some { s with place, outerPlaces }
  | _, _ => none

/-- Forgets the place where a key may have begun; a fault if one is required. -/
def dropPlace (s : Scanner) : Option Scanner :=
  if s.place.any fun p => p.required then none else some { s with place := none }

/-- Notes that a key may begin here, if it may. -/
def notePlace (s : Scanner) : Option Scanner :=
  if s.keyAllowed then
    let c := s.cursor
    let p : KeyPlace :=
      ⟨s.entries.size, !s.inFlow && s.indent == (c.column : Int), c.index, c.line, c.column⟩
    s.dropPlace.map fun s => { s with place := some p }
  else some s

/-! ### Single tokens -/

/-- Takes a token that begins no key and after which everything that indentation shows is over. -/
def takeTop (s : Scanner) (scanned : Option (Token × Cursor)) : Option Scanner :=
  match (s.endBlocks (-1)).dropPlace, scanned with
  | some s, some (t, c) => some { s.pushAt t c with keyAllowed := false }
  | _, _ => none

/-- Takes an opening bracket. -/
def takeOpen (s : Scanner) (t : Token) : Option Scanner :=
  s.notePlace.map fun s =>
    { s.pushAt t (s.cursor.advance 1) with
      keyAllowed := true, place := none, outerPlaces := s.place :: s.outerPlaces }

/-- Takes a closing bracket. -/
def takeClose (s : Scanner) (t : Token) : Option Scanner :=
  s.dropPlace.map fun s =>
    let s := { s.pushAt t (s.cursor.advance 1) with keyAllowed := false }
    match s.outerPlaces with
    | [] => s
    | place :: outerPlaces => { s with place, outerPlaces }

/-- Takes a comma. -/
def takeComma (s : Scanner) : Option Scanner :=
  s.dropPlace.map fun s => { s.pushAt .flowEntry (s.cursor.advance 1) with keyAllowed := true }

/-- Takes the dash before an item. -/
def takeDash (s : Scanner) : Option Scanner :=
  if !s.inFlow && !s.keyAllowed then none
  else
    (s.beginBlock .blockListStart).dropPlace.map fun s =>
      { s.pushAt .blockEntry (s.cursor.advance 1) with keyAllowed := true }

/-- Takes the question mark before a key. -/
def takeQuestion (s : Scanner) : Option Scanner :=
  if !s.inFlow && !s.keyAllowed then none
  else
    (s.beginBlock .blockRecordStart).dropPlace.map fun s =>
      { s.pushAt .key (s.cursor.advance 1) with keyAllowed := !s.inFlow }

/-- Takes the colon before a value. -/
def takeColon (s : Scanner) : Option Scanner :=
  match s.place with
  | some p =>
    let s :=
      if s.isDeeper p.column then (s.openAt p.entry [.blockRecordStart, .key]).deepen p.column
      else s.openAt p.entry [.key]
    some { s.pushAt .value (s.cursor.advance 1) with place := none, keyAllowed := false }
  | none =>
    if !s.inFlow && !s.keyAllowed then none
    else
      let s := s.beginBlock .blockRecordStart
      some { s.pushAt .value (s.cursor.advance 1) with keyAllowed := !s.inFlow }

/-- Takes a token that may begin a key. -/
def takeKeyable (s : Scanner) (scanned : Option (Token × Cursor)) : Option Scanner :=
  match s.notePlace, scanned with
  | some s, some (t, c) => some { s.pushAt t c with keyAllowed := false }
  | _, _ => none

/-- Takes a plain scalar. A key may begin after it if a line has ended. -/
def takePlainScalar (s : Scanner) : Option Scanner :=
  match s.notePlace, s.cursor.takePlain s.inFlow (s.indent + 1) with
  | some s, some x => some { s.pushAt (.scalar .plain x.text) x.after with keyAllowed := x.broken }
  | _, _ => none

/-- Takes a block of lines. -/
def takeBlockScalar (s : Scanner) (folded : Bool) : Option Scanner :=
  match s.dropPlace, s.cursor.takeBlock folded s.indent with
  | some s, some x =>
    some { s.pushAt (.scalar (if folded then .folded else .literal) x.text) x.after with
      keyAllowed := true }
  | _, _ => none

/-- The characters that no plain scalar begins with. -/
def indicators : List Char :=
  ['-', '?', ':', ',', '[', ']', '{', '}', '#', '&', '*', '!', '|', '>', '\'', '"', '%', '@',
    Char.ofNat 96]

/-- Whether a plain scalar begins with a character that others follow. -/
def beginsPlain (s : Scanner) (d : Char) (rest : List Char) : Bool :=
  if d == '-' then !rest.head?.any isSpace
  else if d == '?' || d == ':' then !s.inFlow && !atGap rest
  else !isGap d && !indicators.contains d

/-- Takes the token here, which begins with a character that others follow. -/
def takeToken (s : Scanner) (d : Char) (rest : List Char) : Option Scanner :=
  let c := s.cursor
  let named (t : List Char → Token) : Option (Token × Cursor) :=
    c.takeName.map fun p => (t p.1, p.2)
  let quoted (single : Bool) : Option (Token × Cursor) :=
    (c.takeQuoted single).map fun x => (.scalar .quoted x.text, x.after)
  if c.column == 0 && d == '%' then s.takeTop c.takeDirective
  else if c.column == 0 && startsMark '-' c.rest then s.takeTop (some (.documentStart, c.advance 3))
  else if c.column == 0 && startsMark '.' c.rest then s.takeTop (some (.documentEnd, c.advance 3))
  else if d == '[' then s.takeOpen .flowListStart
  else if d == '{' then s.takeOpen .flowRecordStart
  else if d == ']' then s.takeClose .flowListEnd
  else if d == '}' then s.takeClose .flowRecordEnd
  else if d == ',' then s.takeComma
  else if d == '-' && atGap rest then s.takeDash
  else if d == '?' && (s.inFlow || atGap rest) then s.takeQuestion
  else if d == ':' && (s.inFlow || atGap rest) then s.takeColon
  else if d == '*' then s.takeKeyable (named .alias)
  else if d == '&' then s.takeKeyable (named .anchor)
  else if d == '!' then s.takeKeyable (c.takeTag s.inFlow)
  else if d == '|' && !s.inFlow then s.takeBlockScalar false
  else if d == '>' && !s.inFlow then s.takeBlockScalar true
  else if d == '\'' then s.takeKeyable (quoted true)
  else if d == '"' then s.takeKeyable (quoted false)
  else if s.beginsPlain d rest then s.takePlainScalar
  else none

/-! ### The whole document -/

/-- Goes to the next token, past blanks, comments and breaks. After a break a key may begin, unless
brackets are open. Tabs count as blanks where no key may begin. -/
def seek : Nat → Scanner → Scanner
  | 0, s => s
  | fuel + 1, s =>
    let c := s.cursor
    let c := if c.index == 0 && c.head? == some byteOrderMark then c.advance 1 else c
    let tabs := s.inFlow || !s.keyAllowed
    let c := (c.skipWhile fun d => d == ' ' || (tabs && d == '\t')).skipComment
    if c.head?.any isBreak then
      seek fuel { s with cursor := c.takeBreak.2, keyAllowed := s.keyAllowed || !s.inFlow }
    else { s with cursor := c }

/-- Takes all further tokens. -/
def run : Nat → Scanner → Option (List Token)
  | 0, _ => none
  | fuel + 1, s =>
    let s := seek (s.cursor.rest.length + 1) s
    match s.dropStale with
    | none => none
    | some s =>
      let s := s.endBlocks s.cursor.column
      match s.cursor.rest with
      | [] => (s.endBlocks (-1)).dropPlace.map tokens
      | d :: rest => (s.takeToken d rest).bind (run fuel)

end Scanner

/-- The tokens of a document. -/
def tokens? (s : List Char) : Option (List Token) :=
  if s.all isAllowed then Scanner.run (s.length + 1) (Scanner.start s) else none

end Retrial.Yaml
