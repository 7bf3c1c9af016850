import Retrial.Digest.Sha256
import Retrial.Failure.Basic
import Retrial.Text.Lowercase

/-!
# Signatures

Failures that differ only in dates, identifiers and numbers count as the same pattern. The message
and the first 500 characters of the trace are joined, put in lower case, and every date becomes
`[DATE]`, then every identifier `[UUID]`, then every number `[NUM]`. The digest of the result is the
failure's signature, and the first sixteen digits of the signature name its pattern.

A *shape* says how many characters at the front of a text it covers, given the character before;
`0` means that it is not there. Replacing goes from left to right, and text that a shape has covered
is not looked at again.
-/

namespace Retrial.Signature

open Text

/-- How much of a text a shape covers, given the character before it. -/
def Shape : Type := Option Char → List Char → Nat

/-- Replaces what the shape covers by a mark. `skip` characters are still covered by the last
match. -/
def replaceFrom (shape : Shape) (mark : List Char) :
    Nat → Option Char → List Char → List Char
  | _, _, [] => []
  | skip + 1, _, c :: cs => replaceFrom shape mark skip (some c) cs
  | 0, before, c :: cs =>
    match shape before (c :: cs) with
    | 0 => c :: replaceFrom shape mark 0 (some c) cs
    | n + 1 => mark ++ replaceFrom shape mark n (some c) cs

/-- Replaces all that the shape covers by a mark. -/
def replaceAll (shape : Shape) (mark : List Char) (s : List Char) : List Char :=
  replaceFrom shape mark 0 none s

/-- The text after `n` characters that satisfy `p`, if it starts with as many. -/
def after? (p : Char → Bool) : Nat → List Char → Option (List Char)
  | 0, s => some s
  | _ + 1, [] => none
  | n + 1, c :: cs => if p c then after? p n cs else none

/-- The text after a character, if it starts with it. -/
def afterChar? (c : Char) : List Char → Option (List Char)
  | d :: ds => if d == c then some ds else none
  | [] => none

/-- The text after an optional part. -/
def afterOptional (part : List Char → Option (List Char)) (s : List Char) : List Char :=
  (part s).getD s

/-- The text after a mark and two digits. -/
def afterMarkTwo? (c : Char) (s : List Char) : Option (List Char) :=
  (afterChar? c s).bind (after? isDecimal 2)

/-- The text after a fraction: a point and at least one digit. -/
def afterFraction? (s : List Char) : Option (List Char) :=
  ((afterChar? '.' s).bind (after? isDecimal 1)).map (List.dropWhile isDecimal)

/-- The text after the seconds of a time, with an optional fraction. -/
def afterSeconds? (s : List Char) : Option (List Char) :=
  (afterMarkTwo? ':' s).map (afterOptional afterFraction?)

/-- The text after an offset of two hours' and two minutes' digits, with or without a colon. -/
def afterOffset? : List Char → Option (List Char)
  | c :: s =>
    if c == '+' || c == '-' then
      (after? isDecimal 2 s).bind fun s => after? isDecimal 2 (afterOptional (afterChar? ':') s)
    else none
  | [] => none

/-- The text after a zone: `z` or an offset. -/
def afterZone? (s : List Char) : Option (List Char) :=
  match afterChar? 'z' s with
  | some s => some s
  | none => afterOffset? s

/-- The text after a time of day with an optional zone. -/
def afterTime? (s : List Char) : Option (List Char) :=
  ((afterMarkTwo? 't' s).bind (afterMarkTwo? ':')).map fun s =>
    afterOptional afterZone? (afterOptional afterSeconds? s)

/-- The text after a date, with an optional time of day. -/
def afterDate? (s : List Char) : Option (List Char) :=
  (((after? isDecimal 4 s).bind (afterMarkTwo? '-')).bind (afterMarkTwo? '-')).map
    (afterOptional afterTime?)

/-- How much of a text lies before what comes after. -/
def covered (s : List Char) : Option (List Char) → Nat
  | none => 0
  | some rest => s.length - rest.length

/-- Dates with or without a time of day. -/
def dateShape : Shape := fun _ s => covered s (afterDate? s)

/-- The text after a dash and a group of hexadecimal digits. -/
def afterGroup? (n : Nat) (s : List Char) : Option (List Char) :=
  (afterChar? '-' s).bind (after? isLowerHex n)

/-- The text after the five groups of an identifier. -/
def afterUuid? (s : List Char) : Option (List Char) :=
  ((((after? isLowerHex 8 s).bind (afterGroup? 4)).bind (afterGroup? 4)).bind (afterGroup? 4)).bind
    (afterGroup? 12)

/-- Identifiers that stand as words of their own. -/
def uuidShape : Shape := fun before s =>
  if before.any isWord then 0
  else
    match afterUuid? s with
    | none => 0
    | some rest => if rest.head?.any isWord then 0 else covered s (some rest)

/-- Numbers: as many digits as there are. -/
def numberShape : Shape := fun _ s => (s.takeWhile isDecimal).length

/-- How much of a trace counts. -/
def traceLimit : Nat := 500

/-- A failure's text with dates, identifiers and numbers replaced. -/
def normalizeChars (message trace : List Char) : List Char :=
  let text := lowercase (message ++ [':', ':'] ++ trace.take traceLimit)
  replaceAll numberShape "[NUM]".toList
    (replaceAll uuidShape "[UUID]".toList (replaceAll dateShape "[DATE]".toList text))

/-- A failure's text with dates, identifiers and numbers replaced. -/
def normalize (message trace : String) : String :=
  String.ofList (normalizeChars message.toList trace.toList)

/-- The signature of a failure: the digest of its normalized text. -/
def ofFailure (message trace : String) : String :=
  String.ofList (Digest.sha256 (normalize message trace).toUTF8.toList)

/-- The name of a signature's pattern. -/
def patternId (signature : String) : String := String.ofList (signature.toList.take 16)

/-- The name of a failure's pattern. -/
def patternIdOf (message trace : String) : String := patternId (ofFailure message trace)

end Retrial.Signature
