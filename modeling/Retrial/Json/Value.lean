import Retrial.Decimal.Shortest

/-!
# Documents and their text

A document is a value; it has a compact text without blanks and a pretty text in which every item
and every field stands on a line of its own, two blanks deeper than what holds it.
-/

namespace Retrial.Json

/-- A document. Fields keep their order. -/
inductive Value
  | null
  | bool (b : Bool)
  | int (n : Int)
  | real (x : Float)
  | text (s : String)
  | list (items : List Value)
  | record (fields : List (String × Value))

instance : Inhabited Value := ⟨.null⟩

/-- The value of something optional: nothing is `null`. -/
def Value.optional {α : Type} (f : α → Value) : Option α → Value
  | none => .null
  | some a => f a

/-- The value of a natural number. -/
def Value.nat (n : Nat) : Value := .int n

/-- A control character's code in four hexadecimal digits. -/
def controlCode (n : Nat) : List Char :=
  ['0', '0', Nat.digitChar (n / 16), Nat.digitChar (n % 16)]

/-- How a character is written inside quotes: the quote, the backslash and control characters below
the blank are escaped, everything else stands for itself. -/
def escapeChar (c : Char) : List Char :=
  if c == '"' then ['\\', '"']
  else if c == '\\' then ['\\', '\\']
  else if c == '\n' then ['\\', 'n']
  else if c == '\r' then ['\\', 'r']
  else if c == '\t' then ['\\', 't']
  else if c.toNat == 8 then ['\\', 'b']
  else if c.toNat == 12 then ['\\', 'f']
  else if c.toNat < 32 then ['\\', 'u'] ++ controlCode c.toNat
  else [c]

/-- A text in quotes. -/
def quoted (s : String) : List Char := '"' :: s.toList.flatMap escapeChar ++ ['"']

/-- A line break and the indentation of a depth. -/
def newline (depth : Nat) : List Char := '\n' :: List.replicate (2 * depth) ' '

/-- The text of a double; one that is no finite number becomes `null`. -/
def realText (x : Float) : List Char := ((Decimal.shortestText? x).getD "null").toList

mutual

/-- The compact text of a value. -/
def Value.compact : Value → List Char
  | .null => "null".toList
  | .bool b => (if b then "true" else "false").toList
  | .int n => (toString n).toList
  | .real x => realText x
  | .text s => quoted s
  | .list [] => ['[', ']']
  | .list (v :: vs) => '[' :: v.compact ++ compactItems vs ++ [']']
  | .record [] => ['{', '}']
  | .record ((k, v) :: fs) => '{' :: quoted k ++ ':' :: v.compact ++ compactFields fs ++ ['}']

/-- Further items, each after a comma. -/
def compactItems : List Value → List Char
  | [] => []
  | v :: vs => ',' :: v.compact ++ compactItems vs

/-- Further fields, each after a comma. -/
def compactFields : List (String × Value) → List Char
  | [] => []
  | (k, v) :: fs => ',' :: quoted k ++ ':' :: v.compact ++ compactFields fs

end

mutual

/-- The pretty text of a value that stands at a depth. -/
def Value.prettyAt (depth : Nat) : Value → List Char
  | .null => "null".toList
  | .bool b => (if b then "true" else "false").toList
  | .int n => (toString n).toList
  | .real x => realText x
  | .text s => quoted s
  | .list [] => ['[', ']']
  | .list (v :: vs) =>
    '[' :: newline (depth + 1) ++ v.prettyAt (depth + 1) ++ prettyItems (depth + 1) vs
      ++ newline depth ++ [']']
  | .record [] => ['{', '}']
  | .record ((k, v) :: fs) =>
    '{' :: newline (depth + 1) ++ quoted k ++ ':' :: ' ' :: v.prettyAt (depth + 1)
      ++ prettyFields (depth + 1) fs ++ newline depth ++ ['}']

/-- Further items, each on a line of its own. -/
def prettyItems (depth : Nat) : List Value → List Char
  | [] => []
  | v :: vs => ',' :: newline depth ++ v.prettyAt depth ++ prettyItems depth vs

/-- Further fields, each on a line of its own. -/
def prettyFields (depth : Nat) : List (String × Value) → List Char
  | [] => []
  | (k, v) :: fs =>
    ',' :: newline depth ++ quoted k ++ ':' :: ' ' :: v.prettyAt depth ++ prettyFields depth fs

end

/-- The compact text as a string. -/
def Value.compactText (v : Value) : String := String.ofList v.compact

/-- The pretty text as a string. -/
def Value.prettyText (v : Value) : String := String.ofList (v.prettyAt 0)

end Retrial.Json
