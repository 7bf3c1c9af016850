import Retrial.Json.Leaf
import Retrial.Json.Skip
import Retrial.Json.Value

/-!
# Records

A record is described by the list of its fields: for each one its name, how its value is written and
read, and what stands in when it is left out. The same description writes a record, reads it from a
document with named fields in any order, and reads it from a list of the fields' values in the order
of the description.
-/

namespace Retrial.Json

open Retrial.Text

/-- How values of a type are written and read. -/
structure Codec (α : Type) where
  write : α → Value
  read : Reader α

/-- One field of a record. -/
structure Field (α : Type) where
  name : String
  codec : Codec α
  /-- The value when no field of the name is there. -/
  missing : Option α := none
  /-- The value when a list of values ends before the field. -/
  omitted : Option α := none

/-- The values of a record's fields, in order. -/
def Row : List Type → Type
  | [] => Unit
  | α :: ts => α × Row ts

/-- The description of a record's fields, in order. -/
def Fields : List Type → Type
  | [] => Unit
  | α :: ts => Field α × Fields ts

/-- The values read so far of a record's fields. -/
def Draft : List Type → Type
  | [] => Unit
  | α :: ts => Option α × Draft ts

/-- Nothing read yet. -/
def Draft.empty : (ts : List Type) → Draft ts
  | [] => ()
  | _ :: ts => (none, Draft.empty ts)

/-- The named values of a record. -/
def writeFields : (ts : List Type) → Fields ts → Row ts → List (String × Value)
  | [], _, _ => []
  | _ :: ts, (f, fs), (a, row) => (f.name, f.codec.write a) :: writeFields ts fs row

/-- Reads the value of the field of a name into the draft: twice the same field is a fault, and a
name that is no field's is passed over. -/
def readField : (ts : List Type) → Fields ts → String → Draft ts → Reader (Draft ts)
  | [], _, _, draft => fun s =>
    match readColon s with
    | .error e => .error e
    | .ok (_, rest) => (skipValue rest).map fun p => (draft, p.2)
  | _ :: ts, (f, fs), name, (slot, draft) =>
    if f.name == name then
      if slot.isSome then Reader.fail (.duplicate name)
      else fun s =>
        match readColon s with
        | .error e => .error e
        | .ok (_, rest) => (f.codec.read rest).map fun p => ((some p.1, draft), p.2)
    else fun s => (readField ts fs name draft s).map fun p => ((slot, p.1), p.2)

/-- The record of a draft, with stand-ins for fields that are missing. -/
def finish : (ts : List Type) → Fields ts → Draft ts → Except Fault (Row ts)
  | [], _, _ => .ok ()
  | _ :: ts, (f, fs), (slot, draft) =>
    match slot.or f.missing with
    | none => .error (.missing f.name)
    | some a => (finish ts fs draft).map fun row => (a, row)

/-- Reads named fields into the draft, up to the closing bracket. -/
def namedFields (ts : List Type) (fs : Fields ts) : Nat → Bool → Draft ts → Reader (Draft ts)
  | 0, _, _ => fun _ => .error .truncated
  | fuel + 1, first, draft => fun s =>
    match nextField first s with
    | .error e => .error e
    | .ok (false, rest) => .ok (draft, rest.drop 1)
    | .ok (true, rest) =>
      match stringRest rest with
      | .error e => .error e
      | .ok (name, rest) =>
        match readField ts fs name draft rest with
        | .error e => .error e
        | .ok (draft, rest) => namedFields ts fs fuel false draft rest

/-- Reads the values of the fields in order, from a list. -/
def positionalFields : (ts : List Type) → Fields ts → Bool → Reader (Row ts)
  | [], _, _ => fun s => .ok ((), s)
  | _ :: ts, (f, fs), first => fun s =>
    match nextElement first s with
    | .error e => .error e
    | .ok (false, rest) =>
      match f.omitted with
      | none => .error .mismatch
      | some a => (positionalFields ts fs first rest).map fun p => ((a, p.1), p.2)
    | .ok (true, rest) =>
      match f.codec.read rest with
      | .error e => .error e
      | .ok (a, rest) => (positionalFields ts fs false rest).map fun p => ((a, p.1), p.2)

/-- Reads a record. -/
def readRecord (ts : List Type) (fs : Fields ts) : Reader (Row ts) := fun s =>
  match skipSpace s with
  | [] => .error .truncated
  | .char '[' :: rest =>
    match positionalFields ts fs true rest with
    | .error e => .error e
    | .ok (row, rest) => (listEnd rest).map fun p => (row, p.2)
  | .char '{' :: rest =>
    match namedFields ts fs (rest.length + 1) true (Draft.empty ts) rest with
    | .error e => .error e
    | .ok (draft, rest) => (finish ts fs draft).map fun row => (row, rest)
  | s => .error (unwanted s)

/-- The codec of a structure that is a row of fields under other names. -/
def Codec.record {α : Type} (ts : List Type) (fs : Fields ts) (toRow : α → Row ts)
    (ofRow : Row ts → α) : Codec α where
  write a := .record (writeFields ts fs (toRow a))
  read s := (readRecord ts fs s).map fun p => (ofRow p.1, p.2)

/-! ### Codecs of single values -/

/-- Texts. -/
def Codec.string : Codec String := ⟨.text, readString⟩

/-- Truth values. -/
def Codec.bool : Codec Bool := ⟨.bool, readBool⟩

/-- Natural numbers of at most `bits` bits. -/
def Codec.nat (bits : Nat) : Codec Nat := ⟨.nat, readNat bits⟩

/-- Integers of 64 bits with sign. -/
def Codec.int : Codec Int := ⟨.int, readInt⟩

/-- Doubles. -/
def Codec.real : Codec Float := ⟨.real, readReal⟩

/-- Optional values. -/
def Codec.optional {α : Type} (c : Codec α) : Codec (Option α) :=
  ⟨.optional c.write, readOptional c.read⟩

/-- Lists. -/
def Codec.list {α : Type} (c : Codec α) : Codec (List α) :=
  ⟨fun xs => .list (xs.map c.write), readList c.read⟩

/-- Choices between names. -/
def Codec.choice {α : Type} (name : α → String) (find : String → Option α) : Codec α :=
  ⟨fun a => .text (name a), readChoice find⟩

/-- A field that must be there. -/
def required {α : Type} (name : String) (c : Codec α) : Field α := { name, codec := c }

/-- An optional field: when no field of the name is there, it is nothing. -/
def optionalField {α : Type} (name : String) (c : Codec α) : Field (Option α) :=
  { name, codec := c.optional, missing := some none }

/-- A field with a stand-in for when it is left out, in either form of the record. -/
def defaulted {α : Type} (name : String) (c : Codec α) (standIn : α) : Field α :=
  { name, codec := c, missing := some standIn, omitted := some standIn }

/-- Reads a whole document: only blanks may follow the value. -/
def decode {α : Type} (r : Reader α) (content : List Glyph) : Except Fault α :=
  match r content with
  | .error e => .error e
  | .ok (a, rest) => if (skipSpace rest).isEmpty then .ok a else .error .malformed

/-- The compact text of a value under its codec. -/
def Codec.compactText {α : Type} (c : Codec α) (a : α) : String := (c.write a).compactText

/-- The pretty text of a value under its codec. -/
def Codec.prettyText {α : Type} (c : Codec α) (a : α) : String := (c.write a).prettyText

end Retrial.Json
