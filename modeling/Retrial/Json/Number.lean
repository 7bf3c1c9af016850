import Retrial.Json.Reader

/-!
# Reading numbers

The digits of a number are gathered into a 64-bit significand. A number without point and exponent
that fits is an integer; any other is the significand, as a double, multiplied or divided by a power
of ten. Further digits that do not fit only count for the exponent.
-/

namespace Retrial.Json

open Retrial.Text

/-- A number as read. -/
inductive Number
  | nat (n : Nat)
  /-- A negative integer, given by its size. -/
  | negative (size : Nat)
  | real (x : Float)

/-- The largest significand. -/
def maxSignificand : Nat := UInt64.size - 1

/-- The digit at the front of the content. -/
def digit? : List Glyph → Option Nat
  | .char c :: _ => if c.isDigit then some (c.toNat - 48) else none
  | _ => none

/-- Takes digits off into a significand while it fits; counts them and says whether one did not
fit. -/
def gather : List Glyph → Nat → Nat → (Nat × Nat × Bool) × List Glyph
  | [], n, count => ((n, count, false), [])
  | g :: rest, n, count =>
    match digit? [g] with
    | none => ((n, count, false), g :: rest)
    | some d =>
      if maxSignificand < n * 10 + d then ((n, count, true), g :: rest)
      else gather rest (n * 10 + d) (count + 1)

/-- Takes all digits off and counts them. -/
def countDigits : List Glyph → Nat → Nat × List Glyph
  | [], n => (n, [])
  | g :: rest, n => if (digit? [g]).isSome then countDigits rest (n + 1) else (n, g :: rest)

/-- A power of ten as a double. -/
def powerOfTen (n : Nat) : Float := Float.ofScientific 1 false n

/-- `x · 10 ^ -n`, dividing by at most `10 ^ 308` at a time. -/
def divideByPower : Nat → Float → Nat → Float
  | 0, x, _ => x
  | fuel + 1, x, n =>
    if n ≤ 308 then x / powerOfTen n
    else if x == 0 then x
    else divideByPower fuel (x / powerOfTen 308) (n - 308)

/-- The double `significand · 10 ^ exponent`; a number too large for a double is no number. -/
def assemble (negative : Bool) (significand : Nat) (exponent : Int) : Except Fault Float :=
  let x := significand.toUInt64.toFloat
  let size : Except Fault Float :=
    if 0 ≤ exponent then
      if exponent ≤ 308 then
        let y := x * powerOfTen exponent.toNat
        if y.isInf then .error .malformed else .ok y
      else if significand == 0 then .ok x
      else .error .malformed
    else .ok (divideByPower 20 x exponent.natAbs)
  size.map fun y => if negative then -y else y

/-- The largest exponent that is kept apart from infinity. -/
def maxExponent : Nat := Nat.pow 2 31 - 1

/-- Takes the digits of an exponent off; `none`, after the first digit too many, when they exceed
every exponent. -/
def exponentDigits : List Glyph → Nat → Option Nat × List Glyph
  | [], n => (some n, [])
  | g :: rest, n =>
    match digit? [g] with
    | none => (some n, g :: rest)
    | some d => if maxExponent < n * 10 + d then (none, rest) else exponentDigits rest (n * 10 + d)

/-- Keeps an exponent within the range of exponents. -/
def clampExponent (e : Int) : Int :=
  if (maxExponent : Int) < e then maxExponent
  else if e < -(maxExponent : Int) - 1 then -maxExponent - 1
  else e

/-- The rest of a number after the letter of its exponent. -/
def exponentRest (negative : Bool) (significand : Nat) (start : Int) : Reader Float := fun s =>
  let (down, s) : Bool × List Glyph :=
    match s with
    | .char '+' :: rest => (false, rest)
    | .char '-' :: rest => (true, rest)
    | _ => (false, s)
  match s with
  | [] => .error .truncated
  | g :: _ =>
    if (digit? [g]).isNone then .error .malformed
    else
      match exponentDigits s 0 with
      | (some e, rest) =>
        let e : Int := if down then start - e else start + e
        (assemble negative significand (clampExponent e)).map fun x => (x, rest)
      | (none, rest) =>
        if significand != 0 && !down then .error .malformed
        else .ok (if negative then -0.0 else 0.0, (countDigits rest 0).2)

/-- The end of a number: an exponent or nothing. -/
def realEnd (negative : Bool) (significand : Nat) (exponent : Int) : Reader Float := fun s =>
  match s with
  | .char 'e' :: rest => exponentRest negative significand exponent rest
  | .char 'E' :: rest => exponentRest negative significand exponent rest
  | _ => (assemble negative significand exponent).map fun x => (x, s)

/-- The rest of a number after its point. -/
def fractionRest (negative : Bool) (significand : Nat) (start : Int) : Reader Float := fun s =>
  match gather s significand 0 with
  | ((n, count, true), rest) =>
    realEnd negative n (start - count) (countDigits rest 0).2
  | ((n, count, false), rest) =>
    if count == 0 then
      if rest.isEmpty then .error .truncated else .error .malformed
    else realEnd negative n (start - count) rest

/-- The rest of a number whose whole part did not fit into the significand. -/
def longRest (negative : Bool) (significand : Nat) : Reader Float := fun s =>
  match countDigits s 0 with
  | (count, .char '.' :: rest) => fractionRest negative significand count rest
  | (count, rest) => realEnd negative significand count rest

/-- What a whole number with nothing after it stands for. Zero with a minus sign, and numbers below
the smallest 64-bit integer, are doubles. -/
def wholeNumber (negative : Bool) (significand : Nat) : Number :=
  if !negative then .nat significand
  else if significand == 0 || Nat.pow 2 63 < significand then
    .real (-(significand.toUInt64.toFloat))
  else .negative significand

/-- The rest of a number after its whole part. -/
def numberEnd (negative : Bool) (significand : Nat) : Reader Number := fun s =>
  match s with
  | .char '.' :: rest => (fractionRest negative significand 0 rest).map fun p => (.real p.1, p.2)
  | .char 'e' :: rest => (exponentRest negative significand 0 rest).map fun p => (.real p.1, p.2)
  | .char 'E' :: rest => (exponentRest negative significand 0 rest).map fun p => (.real p.1, p.2)
  | _ => .ok (wholeNumber negative significand, s)

/-- A number after its sign. -/
def unsignedNumber (negative : Bool) : Reader Number := fun s =>
  match s with
  | [] => .error .truncated
  | .char '0' :: rest =>
    if (digit? rest).isSome then .error .malformed else numberEnd negative 0 rest
  | _ =>
    if (digit? s).isNone then .error .malformed
    else
      match gather s 0 0 with
      | ((n, _, true), rest) => (longRest negative n rest).map fun p => (.real p.1, p.2)
      | ((n, _, false), rest) => numberEnd negative n rest

/-- A number, from its sign or first digit on. -/
def number : Reader Number := fun s =>
  match s with
  | .char '-' :: rest => unsignedNumber true rest
  | _ => unsignedNumber false s

end Retrial.Json
