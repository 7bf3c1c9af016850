import Retrial.Json.Record
import Retrial.Text.CharClass
import Retrial.Time.Instant

/-!
# The text of instants

Instants are written in universal time as `2020-01-31T23:59:60.5Z`-like texts: the shortest of no,
three, six or nine decimal places that is exact, and a signed year of at least four digits outside
the years 0 to 9999. The reader is more lenient: it takes one- and two-digit numbers, blanks between
the parts, any offset below a day, and fractions of any length, of which nine digits count. In a
record an instant stands as its text.
-/

namespace Retrial.Time

open Retrial.Text

/-- A number with at least `width` digits. -/
def zeroPad (width n : Nat) : String :=
  let digits := toString n
  String.ofList (List.replicate (width - digits.length) '0') ++ digits

/-- A year. -/
def yearText (year : Int) : String :=
  if 0 ≤ year ∧ year ≤ 9999 then zeroPad 4 year.toNat
  else (if year < 0 then "-" else "+") ++ zeroPad 4 year.natAbs

/-- A day. -/
def Date.text (d : Date) : String :=
  yearText d.year ++ "-" ++ zeroPad 2 d.month ++ "-" ++ zeroPad 2 d.day

/-- A time of day, a leap second as second 60. -/
def Instant.clockText (t : Instant) : String :=
  let s := t.secondOfDay.toNat
  zeroPad 2 (s / 3600) ++ ":" ++ zeroPad 2 (s / 60 % 60) ++ ":"
    ++ zeroPad 2 (s % 60 + if t.isLeap then 1 else 0)

/-- The decimal places of a second. -/
def Instant.fractionText (t : Instant) : String :=
  let n := t.nanos % nanosPerSecond
  if n == 0 then ""
  else if n % 1000000 == 0 then "." ++ zeroPad 3 (n / 1000000)
  else if n % 1000 == 0 then "." ++ zeroPad 6 (n / 1000)
  else "." ++ zeroPad 9 n

/-- The day, a separator, and the time of day with its decimal places. -/
def Instant.exactText (t : Instant) : String :=
  (Date.ofDays t.day).text ++ "T" ++ t.clockText ++ t.fractionText

/-- The text of an instant in records. -/
def Instant.text (t : Instant) : String := t.exactText ++ "Z"

/-- The text of an instant in tables of values: the offset is written out. -/
def Instant.offsetText (t : Instant) : String := t.exactText ++ "+00:00"

/-- The text of an instant in listings: day and time of day to the second. -/
def Instant.listingText (t : Instant) : String := (Date.ofDays t.day).text ++ " " ++ t.clockText

/-! ### Reading -/

/-- Drops blanks. -/
def dropBlanks (s : List Char) : List Char := s.dropWhile isBlank

/-- Up to `width` digits, at least one, as a number. -/
def takeNumber (width : Nat) (s : List Char) : Option (Nat × List Char) :=
  let digits := (s.take width).takeWhile Char.isDigit
  if digits.isEmpty then none
  else some (digits.foldl (fun n c => n * 10 + (c.toNat - 48)) 0, s.drop digits.length)

/-- Blanks and a number of one or two digits. -/
def takeField (s : List Char) : Option (Nat × List Char) := takeNumber 2 (dropBlanks s)

/-- Blanks and a year: up to four digits, or a sign and any number of digits. -/
def takeYear (s : List Char) : Option (Int × List Char) :=
  match dropBlanks s with
  | '-' :: rest => (takeNumber rest.length rest).map fun p => (-(p.1 : Int), p.2)
  | '+' :: rest => (takeNumber rest.length rest).map fun p => ((p.1 : Int), p.2)
  | s => (takeNumber 4 s).map fun p => ((p.1 : Int), p.2)

/-- Blanks and a separator. -/
def takeMark (c : Char) (s : List Char) : Option (List Char) :=
  match dropBlanks s with
  | d :: rest => if d == c then some rest else none
  | [] => none

/-- The nanoseconds of a fraction, of which nine digits count. -/
def takeFraction : List Char → Option (Nat × List Char)
  | '.' :: s =>
    let digits := s.takeWhile Char.isDigit
    match takeNumber 9 s with
    | none => none
    | some (n, _) => some (n * Nat.pow 10 (9 - min 9 digits.length), s.drop digits.length)
  | s => some (0, s)

/-- Two digits. -/
def takeTwoDigits : List Char → Option (Nat × List Char)
  | a :: b :: rest =>
    if a.isDigit && b.isDigit then some ((a.toNat - 48) * 10 + (b.toNat - 48), rest) else none
  | _ => none

/-- The seconds by which the local time runs ahead. -/
def takeOffset : List Char → Option (Int × List Char)
  | [] => none
  | c :: rest =>
    if c == 'Z' || c == 'z' then some (0, rest)
    else if ((c :: rest).take 3).map Char.toUpper == ['U', 'T', 'C'] then some (0, rest.drop 2)
    else
      let sign : Option Int :=
        if c == '+' then some 1 else if c == '-' || c == Char.ofNat 0x2212 then some (-1) else none
      match sign, takeTwoDigits rest with
      | some sign, some (hours, rest) =>
        match takeTwoDigits (rest.dropWhile fun c => c == ':' || isBlank c) with
        | some (minutes, rest) =>
          if minutes ≤ 59 && hours ≤ 23 then some (sign * (hours * 3600 + minutes * 60), rest)
          else none
        | none => none
      | _, _ => none

/-- The instant that a date, a time of day and an offset stand for. -/
def Instant.ofLocal? (date : Date) (hour minute second nanos : Nat) (offset : Int) :
    Option Instant :=
  if date.exists && minYear ≤ date.year && date.year ≤ maxYear && hour ≤ 23 && minute ≤ 59
      && second ≤ 60 then
    let leap := second == 60
    let local_ := date.toDays * secondsPerDay + hour * 3600 + minute * 60
      + (if leap then 59 else second : Nat)
    let t : Instant := ⟨local_ - offset, if leap then nanosPerSecond + nanos else nanos⟩
    if t.inRange then some t else none
  else none

/-- Reads an instant. -/
def Instant.ofChars? (s : List Char) : Option Instant := do
  let (year, s) ← takeYear s
  let s ← takeMark '-' s
  let (month, s) ← takeField s
  let s ← takeMark '-' s
  let (day, s) ← takeField s
  let s ← match s with
    | c :: rest => if c == 'T' || c == 't' || c == ' ' then some rest else none
    | [] => none
  let (hour, s) ← takeField s
  let s ← takeMark ':' s
  let (minute, s) ← takeField s
  let s ← takeMark ':' s
  let (second, s) ← takeField s
  let (nanos, s) ← takeFraction s
  let (offset, s) ← takeOffset (dropBlanks s)
  if (dropBlanks s).isEmpty then Instant.ofLocal? ⟨year, month, day⟩ hour minute second nanos offset
  else none

/-- Reads an instant. -/
def Instant.ofText? (s : String) : Option Instant := Instant.ofChars? s.toList

/-- Reads an instant in quotes. -/
def Instant.read : Json.Reader Instant := fun s =>
  match Json.readString s with
  | .error e => .error e
  | .ok (text, rest) =>
    match Instant.ofText? text with
    | some t => .ok (t, rest)
    | none => .error .mismatch

/-- Instants in records. -/
def Instant.codec : Json.Codec Instant := ⟨fun t => .text t.text, Instant.read⟩

end Retrial.Time
