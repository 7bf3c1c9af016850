import Retrial.Json.Number

/-!
# Skipping values

Values that nobody asks for are passed over at any depth. Only their form is checked: numbers of any
size pass, and so do escapes that stand for no character.
-/

namespace Retrial.Json

open Retrial.Text

/-- Passes over the rest of a text after its opening quote. -/
def skipString : Nat → Reader Unit
  | 0 => fun _ => .error .truncated
  | fuel + 1 => fun s =>
    match s with
    | [] => .error .truncated
    | .stray _ :: rest => skipString fuel rest
    | .char c :: rest =>
      if c == '"' then .ok ((), rest)
      else if c == '\\' then
        match rest with
        | [] => .error .truncated
        | .char d :: rest =>
          if d == 'u' then
            match hexFour rest with
            | .error e => .error e
            | .ok (_, rest) => skipString fuel rest
          else if (simpleEscape? d).isSome then skipString fuel rest
          else .error .malformed
        | .stray _ :: _ => .error .malformed
      else if c.toNat < 32 then .error .malformed
      else skipString fuel rest

/-- Passes over an exponent after its letter. -/
def skipExponent : Reader Unit := fun s =>
  let s : List Glyph :=
    match s with
    | .char '+' :: rest => rest
    | .char '-' :: rest => rest
    | _ => s
  if (digit? s).isNone then .error .malformed else .ok ((), (countDigits s 0).2)

/-- Passes over what may follow the whole part of a number. -/
def skipNumberEnd : Reader Unit := fun s =>
  match s with
  | .char 'e' :: rest => skipExponent rest
  | .char 'E' :: rest => skipExponent rest
  | .char '.' :: rest =>
    if (digit? rest).isNone then .error .malformed
    else
      match (countDigits rest 0).2 with
      | .char 'e' :: rest => skipExponent rest
      | .char 'E' :: rest => skipExponent rest
      | rest => .ok ((), rest)
  | _ => .ok ((), s)

/-- Passes over a number after its sign. -/
def skipNumber : Reader Unit := fun s =>
  match s with
  | .char '0' :: rest => if (digit? rest).isSome then .error .malformed else skipNumberEnd rest
  | _ => if (digit? s).isNone then .error .malformed else skipNumberEnd (countDigits s 0).2

/-- The two kinds of brackets. -/
inductive Bracket
  | list
  | record
deriving DecidableEq

/-- The closing bracket. -/
def Bracket.close : Bracket → Glyph
  | .list => .char ']'
  | .record => .char '}'

/-- Passes over a field's name and the colon after it. -/
def skipName : Reader Unit := fun s =>
  match skipSpace s with
  | [] => .error .truncated
  | .char '"' :: rest =>
    match skipString (rest.length + 1) rest with
    | .error e => .error e
    | .ok (_, rest) =>
      match skipSpace rest with
      | [] => .error .truncated
      | .char ':' :: rest => .ok ((), rest)
      | _ => .error .malformed
  | _ => .error .malformed

/-- Passes over a value that holds no other, or opens a bracket. -/
def skipScalar : Reader (Option Bracket) := fun s =>
  match skipSpace s with
  | [] => .error .truncated
  | .char 'n' :: rest => (word ['u', 'l', 'l'] rest).map fun p => (none, p.2)
  | .char 't' :: rest => (word ['r', 'u', 'e'] rest).map fun p => (none, p.2)
  | .char 'f' :: rest => (word ['a', 'l', 's', 'e'] rest).map fun p => (none, p.2)
  | .char '-' :: rest => (skipNumber rest).map fun p => (none, p.2)
  | .char '"' :: rest => (skipString (rest.length + 1) rest).map fun p => (none, p.2)
  | .char '[' :: rest => .ok (some .list, rest)
  | .char '{' :: rest => .ok (some .record, rest)
  | s =>
    if (digit? s).isSome then (skipNumber s).map fun p => (none, p.2) else .error .malformed

/-- Where the walk over a nested value stands. -/
inductive SkipState
  /-- A value is to come. -/
  | value
  /-- A bracket has just been opened. -/
  | opened
  /-- A value has just ended. -/
  | after

/-- Passes over a value, with the brackets that are open around the place reached. -/
def skipWalk : Nat → SkipState → List Bracket → Reader Unit
  | 0, _, _ => fun _ => .error .truncated
  | fuel + 1, .value, stack => fun s =>
    match skipScalar s with
    | .error e => .error e
    | .ok (none, rest) => if stack.isEmpty then .ok ((), rest) else skipWalk fuel .after stack rest
    | .ok (some b, rest) => skipWalk fuel .opened (b :: stack) rest
  | _ + 1, .opened, [] => fun s => .ok ((), s)
  | _ + 1, .after, [] => fun s => .ok ((), s)
  | fuel + 1, .opened, b :: stack => fun s =>
    match skipSpace s with
    | [] => .error .truncated
    | g :: rest =>
      if g = b.close then
        if stack.isEmpty then .ok ((), rest) else skipWalk fuel .after stack rest
      else
        match b with
        | .list => skipWalk fuel .value (b :: stack) (g :: rest)
        | .record =>
          match skipName (g :: rest) with
          | .error e => .error e
          | .ok (_, rest) => skipWalk fuel .value (b :: stack) rest
  | fuel + 1, .after, b :: stack => fun s =>
    match skipSpace s with
    | [] => .error .truncated
    | g :: rest =>
      if g = .char ',' then
        match b with
        | .list => skipWalk fuel .value (b :: stack) rest
        | .record =>
          match skipName rest with
          | .error e => .error e
          | .ok (_, rest) => skipWalk fuel .value (b :: stack) rest
      else if g = b.close then
        if stack.isEmpty then .ok ((), rest) else skipWalk fuel .after stack rest
      else .error .malformed

/-- Passes over one value. -/
def skipValue : Reader Unit := fun s => skipWalk (2 * s.length + 2) .value [] s

end Retrial.Json
