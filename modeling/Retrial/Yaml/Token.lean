import Retrial.Yaml.ScalarText

/-!
# Tokens

The tokens of a document: directives, marks, indicators, names and scalars, together with the tokens
that indentation stands for. This module takes the tokens that can be recognised where they stand;
which tokens indentation adds is the matter of `Retrial.Yaml.Scanner`.
-/

namespace Retrial.Yaml

/-- How a scalar is written. -/
inductive Style
  | plain
  | quoted
  | literal
  | folded
deriving DecidableEq, Repr, Inhabited

/-- A token. -/
inductive Token
  | versionDirective (major minor : Nat)
  | tagDirective (handle expansion : List Char)
  | documentStart
  | documentEnd
  | blockListStart
  | blockRecordStart
  /-- The end of a list or a record that indentation shows. -/
  | blockEnd
  | flowListStart
  | flowListEnd
  | flowRecordStart
  | flowRecordEnd
  /-- The dash before an item. -/
  | blockEntry
  /-- The comma. -/
  | flowEntry
  | key
  | value
  | alias (name : List Char)
  | anchor (name : List Char)
  | tag (handle suffix : List Char)
  | scalar (style : Style) (text : List Char)
deriving DecidableEq, Repr, Inhabited

namespace Cursor

/-! ### Names and tags -/

/-- The characters that may follow the name of an anchor beside a gap. -/
def afterName : List Char := ['?', ':', ',', ']', '}', '%', '@', Char.ofNat 96]

/-- Takes the name of an anchor or an alias, after its indicator. -/
def takeName (c : Cursor) : Option (List Char × Cursor) :=
  let (name, c) := (c.advance 1).takeWhile isNameChar
  if name.isEmpty || !(atGap c.rest || c.head?.any afterName.contains) then none else some (name, c)

/-- The characters of tags beside those of names. -/
def tagMarks : List Char :=
  [';', '/', '?', ':', '@', '&', '=', '+', '$', '.', '%', '!', '~', '*', '\'', '(', ')']

/-- The octet of an escape: a percent sign and two hexadecimal digits. -/
def octet? : List Char → Option Nat
  | '%' :: a :: b :: _ => (hexDigit? a).bind fun x => (hexDigit? b).map fun y => x * 16 + y
  | _ => none

/-- How many octets a character takes that begins with an octet. -/
def octetCount (lead : Nat) : Nat :=
  if lead < 0x80 then 1
  else if lead < 0xC0 then 0
  else if lead < 0xE0 then 2
  else if lead < 0xF0 then 3
  else if lead < 0xF8 then 4
  else 0

/-- Takes the further octets of a character. -/
def takeOctets : Nat → List Char → Cursor → Option (List Char × Cursor)
  | 0, octets, c => some (octets, c)
  | n + 1, octets, c =>
    match octet? c.rest with
    | none => none
    | some o =>
      if o / 64 == 2 then takeOctets n (octets ++ [Char.ofNat o]) (c.advance 3) else none

/-- Takes the octets of an escaped character. -/
def takeEscaped (c : Cursor) : Option (List Char × Cursor) :=
  match octet? c.rest with
  | none => none
  | some lead =>
    match octetCount lead with
    | 0 => none
    | n + 1 => takeOctets n [Char.ofNat lead] (c.advance 3)

/-- Takes the characters of a tag. Between pointed brackets some indicators count too. -/
def tagChars (verbatim : Bool) : Nat → List Char → Cursor → Option (List Char × Cursor)
  | 0, _, _ => none
  | fuel + 1, taken, c =>
    match c.head? with
    | none => some (taken, c)
    | some d =>
      if d == '%' then
        match takeEscaped c with
        | none => none
        | some (octets, c) => tagChars verbatim fuel (taken ++ octets) c
      else if isNameChar d || tagMarks.contains d || (verbatim && [',', '[', ']'].contains d) then
        tagChars verbatim fuel (taken ++ [d]) (c.advance 1)
      else some (taken, c)

/-- Takes the characters of a tag, of which there has to be one unless something stands before
them. -/
def takeTagChars (c : Cursor) (verbatim : Bool) (before : List Char) :
    Option (List Char × Cursor) :=
  match tagChars verbatim (c.rest.length + 1) [] c with
  | none => none
  | some (taken, c') =>
    if before.isEmpty && c'.index == c.index then none else some (before.drop 1 ++ taken, c')

/-- Takes the handle of a tag: an exclamation mark, a name, and perhaps another mark. -/
def takeHandle (c : Cursor) : Option (List Char × Cursor) :=
  if c.head? != some '!' then none
  else
    let (name, c) := (c.advance 1).takeWhile isNameChar
    if c.head? == some '!' then some ('!' :: name ++ ['!'], c.advance 1) else some ('!' :: name, c)

/-- Whether a handle is complete: it has a second mark. -/
def isFullHandle (handle : List Char) : Bool := 1 < handle.length && handle.getLast? == some '!'

/-- The handle and the suffix of a tag. -/
def takeTagParts (c : Cursor) : Option (Token × Cursor) :=
  if (c.rest.drop 1).head? == some '<' then
    match (c.advance 2).takeTagChars true [] with
    | none => none
    | some (suffix, c) => if c.head? == some '>' then some (.tag [] suffix, c.advance 1) else none
  else
    match c.takeHandle with
    | none => none
    | some (handle, c) =>
      if isFullHandle handle then
        (c.takeTagChars false []).map fun p => (.tag handle p.1, p.2)
      else
        (c.takeTagChars false handle).map fun p =>
          (if p.1.isEmpty then .tag [] ['!'] else .tag ['!'] p.1, p.2)

/-- Takes a tag. A gap has to follow it, or a comma inside brackets. -/
def takeTag (c : Cursor) (inFlow : Bool) : Option (Token × Cursor) :=
  match c.takeTagParts with
  | none => none
  | some (t, c) => if atGap c.rest || (inFlow && c.head? == some ',') then some (t, c) else none

/-! ### Directives -/

/-- Takes a number of at most nine digits. -/
def takeVersionNumber (c : Cursor) : Option (Nat × Cursor) :=
  let (digits, c) := c.takeWhile Char.isDigit
  if digits.isEmpty || 9 < digits.length then none
  else some (digits.foldl (fun n d => n * 10 + (d.toNat - 48)) 0, c)

/-- Takes the two numbers of a version. -/
def takeVersion (c : Cursor) : Option (Token × Cursor) :=
  match (c.skipWhile isSpace).takeVersionNumber with
  | none => none
  | some (major, c) =>
    if c.head? == some '.' then
      (c.advance 1).takeVersionNumber.map fun p => (.versionDirective major p.1, p.2)
    else none

/-- Takes a handle and what it stands for. -/
def takeTagMeaning (c : Cursor) : Option (Token × Cursor) :=
  match (c.skipWhile isSpace).takeHandle with
  | none => none
  | some (handle, c) =>
    if (handle.length == 1 || isFullHandle handle) && c.head?.any isSpace then
      match (c.skipWhile isSpace).takeTagChars true [] with
      | none => none
      | some (expansion, c) =>
        if atGap c.rest then some (.tagDirective handle expansion, c) else none
    else none

/-- Takes a directive with the rest of its line. -/
def takeDirective (c : Cursor) : Option (Token × Cursor) :=
  let (name, c) := (c.advance 1).takeWhile isNameChar
  if name.isEmpty || !atGap c.rest then none
  else
    let scanned :=
      if name == ['Y', 'A', 'M', 'L'] then c.takeVersion
      else if name == ['T', 'A', 'G'] then c.takeTagMeaning
      else none
    match scanned with
    | none => none
    | some (t, c) => c.finishLine?.map fun c => (t, c)

end Cursor

end Retrial.Yaml
