import Retrial.Text.Glyph

/-!
# Reading documents

A reader takes a value off the front of a file's content and leaves the rest. The first problem met
from left to right is the one reported. Values whose content is wanted are read strictly; values of
unknown fields are only checked for their form (`Retrial.Json.Skip`).
-/

namespace Retrial.Json

open Retrial.Text

/-- Why a document could not be read. -/
inductive Fault
  /-- The text ended inside the document. -/
  | truncated
  /-- The text is no document. -/
  | malformed
  /-- A record lacks a field. -/
  | missing (field : String)
  /-- A record has a field twice. -/
  | duplicate (field : String)
  /-- A name that is none of the names allowed here. -/
  | unknownName (name : String)
  /-- A well-formed value of another kind, size or range than the one wanted. -/
  | mismatch
deriving DecidableEq, Repr

/-- The words for a fault. -/
def Fault.message : Fault → String
  | truncated => "the record ends too early"
  | malformed => "not a record"
  | missing field => "missing field " ++ field
  | duplicate field => "duplicate field " ++ field
  | unknownName name => "unknown name " ++ name
  | mismatch => "a value of another kind, size or range than the one wanted"

/-- Takes a value off the front of the content. -/
def Reader (α : Type) : Type := List Glyph → Except Fault (α × List Glyph)

namespace Reader

/-- Reads nothing. -/
def pure {α : Type} (a : α) : Reader α := fun s => .ok (a, s)

/-- Reads one thing, then another. -/
def bind {α β : Type} (r : Reader α) (f : α → Reader β) : Reader β := fun s =>
  match r s with
  | .ok (a, rest) => f a rest
  | .error e => .error e

/-- Stops with a fault. -/
def fail {α : Type} (e : Fault) : Reader α := fun _ => .error e

instance : Monad Reader where
  pure := pure
  bind := bind

end Reader

/-- Blanks between the parts of a document. -/
def isSpace : Glyph → Bool
  | .char c => c == ' ' || c == '\n' || c == '\t' || c == '\r'
  | .stray _ => false

/-- The content from its first glyph that is no blank. -/
def skipSpace : List Glyph → List Glyph
  | [] => []
  | g :: rest => if isSpace g then skipSpace rest else g :: rest

/-- Takes one glyph off. -/
def drop : Reader Unit := fun s => .ok ((), s.drop 1)

/-- Takes the characters of a word off, after its first one. -/
def word : List Char → Reader Unit
  | [] => Reader.pure ()
  | c :: cs => fun s =>
    match s with
    | [] => .error .truncated
    | g :: rest => if g = .char c then word cs rest else .error .malformed

/-- The value of a hexadecimal digit of either case. -/
def hexValue? : Glyph → Option Nat
  | .stray _ => none
  | .char c =>
    if c.isDigit then some (c.toNat - 48)
    else if 'a' ≤ c ∧ c ≤ 'f' then some (c.toNat - 87)
    else if 'A' ≤ c ∧ c ≤ 'F' then some (c.toNat - 55)
    else none

/-- Four hexadecimal digits. Content with fewer than four bytes left counts as truncated, whatever
the bytes are. -/
def hexFour : Reader Nat
  | a :: b :: c :: d :: rest =>
    match hexValue? a, hexValue? b, hexValue? c, hexValue? d with
    | some w, some x, some y, some z => .ok (((w * 16 + x) * 16 + y) * 16 + z, rest)
    | _, _, _, _ => .error .malformed
  | short =>
    if short.foldl (fun n g => n + g.size) 0 < 4 then .error .truncated else .error .malformed

/-- The character of a two-letter escape. -/
def simpleEscape? (c : Char) : Option Char :=
  if c == '"' then some '"'
  else if c == '\\' then some '\\'
  else if c == '/' then some '/'
  else if c == 'b' then some (Char.ofNat 8)
  else if c == 'f' then some (Char.ofNat 12)
  else if c == 'n' then some '\n'
  else if c == 'r' then some '\r'
  else if c == 't' then some '\t'
  else none

/-- The low half of a character whose high half has just been read. -/
def lowHalf (high : Nat) : Reader Char
  | [] => .error .truncated
  | [.char '\\'] => .error .truncated
  | .char '\\' :: .char 'u' :: rest =>
    match hexFour rest with
    | .error e => .error e
    | .ok (low, rest) =>
      if 0xDC00 ≤ low && low ≤ 0xDFFF then
        .ok (Char.ofNat ((high - 0xD800) * 1024 + (low - 0xDC00) + 0x10000), rest)
      else .error .malformed
  | _ => .error .malformed

/-- A character written by its code, after the `u`. -/
def codeEscape : Reader Char := fun s =>
  match hexFour s with
  | .error e => .error e
  | .ok (n, rest) =>
    if 0xDC00 ≤ n && n ≤ 0xDFFF then .error .malformed
    else if 0xD800 ≤ n && n ≤ 0xDBFF then lowHalf n rest
    else .ok (Char.ofNat n, rest)

/-- An escape, after the backslash. -/
def escape : Reader Char
  | [] => .error .truncated
  | .char c :: rest =>
    if c == 'u' then codeEscape rest
    else
      match simpleEscape? c with
      | some d => .ok (d, rest)
      | none => .error .malformed
  | .stray _ :: _ => .error .malformed

/-- The rest of a text after its opening quote. Stray glyphs are noticed at the closing quote. The
number bounds the glyphs looked at. -/
def quotedRest : Nat → List Char → Bool → Reader String
  | 0, _, _ => fun _ => .error .truncated
  | fuel + 1, acc, tainted => fun s =>
    match s with
    | [] => .error .truncated
    | .stray _ :: rest => quotedRest fuel acc true rest
    | .char c :: rest =>
      if c == '"' then
        if tainted then .error .malformed else .ok (String.ofList acc.reverse, rest)
      else if c == '\\' then
        match escape rest with
        | .error e => .error e
        | .ok (d, rest) => quotedRest fuel (d :: acc) tainted rest
      else if c.toNat < 32 then .error .malformed
      else quotedRest fuel (c :: acc) tainted rest

/-- The rest of a text after its opening quote. -/
def stringRest : Reader String := fun s => quotedRest (s.length + 1) [] false s

end Retrial.Json
