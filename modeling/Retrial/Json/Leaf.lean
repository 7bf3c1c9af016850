import Retrial.Json.Number

/-!
# Reading single values

Readers of the single kinds of value. Where a value of another kind stands, it is read just far
enough to be sure of its kind, and the fault is `mismatch` unless the value itself is broken.
-/

namespace Retrial.Json

open Retrial.Text

/-- The fault of a value of an unwanted kind: a broken single value is malformed in its own way. -/
def unwanted (s : List Glyph) : Fault :=
  let of {α : Type} (r : Except Fault α) : Fault :=
    match r with
    | .error e => e
    | .ok _ => .mismatch
  match s with
  | .char 'n' :: rest => of (word ['u', 'l', 'l'] rest)
  | .char 't' :: rest => of (word ['r', 'u', 'e'] rest)
  | .char 'f' :: rest => of (word ['a', 'l', 's', 'e'] rest)
  | .char '-' :: _ => of (number s)
  | .char '"' :: rest => of (stringRest rest)
  | .char '[' :: _ => .mismatch
  | .char '{' :: _ => .mismatch
  | _ => if (digit? s).isSome then of (number s) else .malformed

/-- A text in quotes. -/
def readString : Reader String := fun s =>
  match skipSpace s with
  | [] => .error .truncated
  | .char '"' :: rest => stringRest rest
  | s => .error (unwanted s)

/-- `true` or `false`. -/
def readBool : Reader Bool := fun s =>
  match skipSpace s with
  | [] => .error .truncated
  | .char 't' :: rest => (word ['r', 'u', 'e'] rest).map fun p => (true, p.2)
  | .char 'f' :: rest => (word ['a', 'l', 's', 'e'] rest).map fun p => (false, p.2)
  | s => .error (unwanted s)

/-- A number of any form. -/
def readNumber : Reader Number := fun s =>
  match skipSpace s with
  | [] => .error .truncated
  | s =>
    if s.head? = some (.char '-') || (digit? s).isSome then number s else .error (unwanted s)

/-- A natural number of at most `bits` bits. -/
def readNat (bits : Nat) : Reader Nat := fun s =>
  match readNumber s with
  | .error e => .error e
  | .ok (.nat n, rest) => if n < Nat.pow 2 bits then .ok (n, rest) else .error .mismatch
  | .ok (_, _) => .error .mismatch

/-- An integer of 64 bits with sign. -/
def readInt : Reader Int := fun s =>
  match readNumber s with
  | .error e => .error e
  | .ok (.nat n, rest) => if n < Nat.pow 2 63 then .ok (n, rest) else .error .mismatch
  | .ok (.negative n, rest) => .ok (-(n : Int), rest)
  | .ok (.real _, _) => .error .mismatch

/-- A double, from a number of any form. -/
def readReal : Reader Float := fun s =>
  match readNumber s with
  | .error e => .error e
  | .ok (.nat n, rest) => .ok (n.toUInt64.toFloat, rest)
  | .ok (.negative n, rest) => .ok (-(n.toUInt64.toFloat), rest)
  | .ok (.real x, rest) => .ok (x, rest)

/-- Nothing, written `null`. -/
def readNull : Reader Unit := fun s =>
  match skipSpace s with
  | [] => .error .truncated
  | .char 'n' :: rest => word ['u', 'l', 'l'] rest
  | s => .error (unwanted s)

/-- Something, or nothing written `null`. -/
def readOptional {α : Type} (r : Reader α) : Reader (Option α) := fun s =>
  match skipSpace s with
  | .char 'n' :: rest => (word ['u', 'l', 'l'] rest).map fun p => (none, p.2)
  | s => (r s).map fun p => (some p.1, p.2)

/-- A colon. -/
def readColon : Reader Unit := fun s =>
  match skipSpace s with
  | [] => .error .truncated
  | .char ':' :: rest => .ok ((), rest)
  | _ => .error .malformed

/-- The name of a choice. -/
def nameOf {α : Type} (find : String → Option α) (s : String) : Except Fault α :=
  match find s with
  | some a => .ok a
  | none => .error (.unknownName s)

/-- A choice between names: its name in quotes, or a record with its name and `null`. -/
def readChoice {α : Type} (find : String → Option α) : Reader α := fun s =>
  match skipSpace s with
  | [] => .error .truncated
  | .char '"' :: rest =>
    match stringRest rest with
    | .error e => .error e
    | .ok (name, rest) => (nameOf find name).map fun a => (a, rest)
  | .char '{' :: rest =>
    match readString rest with
    | .error e => .error e
    | .ok (name, rest) =>
      match nameOf find name with
      | .error e => .error e
      | .ok a =>
        match readColon rest with
        | .error e => .error e
        | .ok (_, rest) =>
          match readNull rest with
          | .error e => .error e
          | .ok (_, rest) =>
            match skipSpace rest with
            | [] => .error .truncated
            | .char '}' :: rest => .ok (a, rest)
            | _ => .error .malformed
  | _ => .error .malformed

/-- What is left of a list once its elements have been read. -/
def listEnd : Reader Unit := fun s =>
  match skipSpace s with
  | [] => .error .truncated
  | .char ']' :: rest => .ok ((), rest)
  | _ => .error .malformed

/-- Goes to the next element of a list, or stops before its closing bracket. -/
def nextElement (first : Bool) : Reader Bool := fun s =>
  match skipSpace s with
  | [] => .error .truncated
  | .char ']' :: rest => .ok (false, .char ']' :: rest)
  | g :: rest =>
    if first then .ok (true, g :: rest)
    else if g = .char ',' then
      match skipSpace rest with
      | [] => .error .truncated
      | .char ']' :: _ => .error .malformed
      | rest => .ok (true, rest)
    else .error .malformed

/-- Goes to the name of the next field of a record, or stops before its closing bracket. -/
def nextField (first : Bool) : Reader Bool := fun s =>
  let name : Reader Bool := fun s =>
    match s with
    | [] => .error .truncated
    | .char '"' :: rest => .ok (true, rest)
    | _ => .error .malformed
  match skipSpace s with
  | [] => .error .truncated
  | .char '}' :: rest => .ok (false, .char '}' :: rest)
  | g :: rest =>
    if first then name (g :: rest)
    else if g = .char ',' then name (skipSpace rest)
    else .error .malformed

/-- The elements of a list, folded up in the order read. -/
def elements {α σ : Type} (item : Reader α) (add : σ → α → σ) : Nat → Bool → σ → Reader σ
  | 0, _, _ => fun _ => .error .truncated
  | fuel + 1, first, acc => fun s =>
    match nextElement first s with
    | .error e => .error e
    | .ok (false, rest) => .ok (acc, rest)
    | .ok (true, rest) =>
      match item rest with
      | .error e => .error e
      | .ok (a, rest) => elements item add fuel false (add acc a) rest

/-- A list, folded up in the order read. -/
def readFold {α σ : Type} (item : Reader α) (add : σ → α → σ) (start : σ) : Reader σ := fun s =>
  match skipSpace s with
  | [] => .error .truncated
  | .char '[' :: rest =>
    match elements item add (rest.length + 1) true start rest with
    | .error e => .error e
    | .ok (a, rest) => (listEnd rest).map fun p => (a, p.2)
  | s => .error (unwanted s)

/-- A list. -/
def readList {α : Type} (item : Reader α) : Reader (List α) := fun s =>
  (readFold item (fun (acc : List α) a => a :: acc) [] s).map fun p => (p.1.reverse, p.2)

/-- The entries of a record whose names are data, folded up in the order read. -/
def entries {α σ : Type} (item : Reader α) (add : σ → String → α → σ) : Nat → Bool → σ → Reader σ
  | 0, _, _ => fun _ => .error .truncated
  | fuel + 1, first, acc => fun s =>
    match nextField first s with
    | .error e => .error e
    | .ok (false, rest) => .ok (acc, rest.drop 1)
    | .ok (true, rest) =>
      match stringRest rest with
      | .error e => .error e
      | .ok (name, rest) =>
        match readColon rest with
        | .error e => .error e
        | .ok (_, rest) =>
          match item rest with
          | .error e => .error e
          | .ok (a, rest) => entries item add fuel false (add acc name a) rest

/-- A record whose names are data, folded up in the order read. -/
def readEntries {α σ : Type} (item : Reader α) (add : σ → String → α → σ) (start : σ) :
    Reader σ := fun s =>
  match skipSpace s with
  | [] => .error .truncated
  | .char '{' :: rest => entries item add (rest.length + 1) true start rest
  | s => .error (unwanted s)

end Retrial.Json
