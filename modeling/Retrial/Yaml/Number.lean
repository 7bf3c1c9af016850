import Retrial.Yaml.Char

/-!
# Texts that read as something else

In a block document a text without quotes may read as nothing, as a truth value or as a number.
Whole numbers are decimal, or hexadecimal, octal or binary after `0x`, `0o` and `0b`; decimal ones
have no leading zeros. Other numbers have a point or an exponent, or are infinite or none at all.
-/

namespace Retrial.Yaml

/-- Whether a text reads as nothing. -/
def isNothing (s : String) : Bool := ["null", "Null", "NULL", "~"].contains s

/-- The truth value that a text reads as. -/
def truth? (s : String) : Option Bool :=
  if ["true", "True", "TRUE"].contains s then some true
  else if ["false", "False", "FALSE"].contains s then some false
  else none

/-- The value of a digit in a base. -/
def digitIn? (base : Nat) (c : Char) : Option Nat := (hexDigit? c).filter fun n => n < base

/-- The number that digits in a base stand for. -/
def digits? (base : Nat) (s : List Char) : Option Nat :=
  if s.isEmpty then none
  else s.foldl (fun n c => n.bind fun n => (digitIn? base c).map fun d => n * base + d) (some 0)

/-- The text without a sign in front of it. -/
def unsigned : List Char → List Char
  | '+' :: s => s
  | '-' :: s => s
  | s => s

/-- Whether a text is made of digits only but, with a zero in front, is no number. -/
def isZeroLed (s : List Char) : Bool :=
  match unsigned s with
  | '0' :: d :: rest => (d :: rest).all Char.isDigit
  | _ => false

/-- The number that a text without a sign reads as. -/
def bareNat? : List Char → Option Nat
  | '0' :: 'x' :: s => digits? 16 s
  | '0' :: 'o' :: s => digits? 8 s
  | '0' :: 'b' :: s => digits? 2 s
  | s => if isZeroLed s then none else digits? 10 s

/-- The number that a text reads as, perhaps with a plus sign. -/
def nat? : List Char → Option Nat
  | '+' :: s => bareNat? s
  | s => bareNat? s

/-- The number that a text with a minus sign reads as, without the sign. -/
def negated? : List Char → Option Nat
  | '-' :: s => bareNat? s
  | _ => none

/-- Whether a text reads as a whole number of 128 bits. -/
def isInteger (s : List Char) : Bool :=
  (nat? s).any (fun n => n < Nat.pow 2 128) || (negated? s).any fun n => n ≤ Nat.pow 2 127

/-- The digits, the places after the point and the exponent of a decimal number. -/
structure DecimalParts where
  digits : List Char
  places : Nat
  exponent : Int

/-- The exponent at the end of a number, if there is nothing else. -/
def exponent? : List Char → Option Int
  | [] => some 0
  | c :: s =>
    if c == 'e' || c == 'E' then
      match s with
      | '-' :: s => (digits? 10 s).map fun n => -(n : Int)
      | '+' :: s => (digits? 10 s).map fun n => (n : Int)
      | s => (digits? 10 s).map fun n => (n : Int)
    else none

/-- The parts of a number without a sign: digits, a point among them or none, and perhaps an
exponent. -/
def decimalParts? (s : List Char) : Option DecimalParts :=
  let whole := s.takeWhile Char.isDigit
  match s.drop whole.length with
  | '.' :: rest =>
    let places := rest.takeWhile Char.isDigit
    if whole.isEmpty && places.isEmpty then none
    else (exponent? (rest.drop places.length)).map fun e => ⟨whole ++ places, places.length, e⟩
  | rest => if whole.isEmpty then none else (exponent? rest).map fun e => ⟨whole, 0, e⟩

/-- The least number that is no longer near a finite double. -/
def finiteBound : Nat := Nat.pow 2 1024 - Nat.pow 2 970

/-- Whether a number is near a finite double. -/
def DecimalParts.isFinite (p : DecimalParts) : Bool :=
  let n := (digits? 10 p.digits).getD 0
  let e := p.exponent - p.places
  if n == 0 then true
  else if 400 < e then false
  else if 0 ≤ e then n * Nat.pow 10 e.toNat < finiteBound
  else if e < -(p.digits.length : Int) then true
  else n < finiteBound * Nat.pow 10 e.natAbs

/-- Whether a text reads as a number that is not whole. -/
def isReal (s : List Char) : Bool :=
  let t := String.ofList s
  let afterPlus : Option (List Char) :=
    match s with
    | '+' :: '+' :: _ => none
    | '+' :: '-' :: _ => none
    | '+' :: rest => some rest
    | _ => some s
  [".nan", ".NaN", ".NAN", "-.inf", "-.Inf", "-.INF"].contains t
    || afterPlus.any fun u =>
      [".inf", ".Inf", ".INF"].contains (String.ofList u)
        || (decimalParts? (match u with | '-' :: v => v | v => v)).any DecimalParts.isFinite

/-- Whether a text without quotes would not read as itself, or might be taken for a number. -/
def readsAsOther (s : String) : Bool :=
  let cs := s.toList
  s == "" || isNothing s || (truth? s).isSome || isInteger cs || isZeroLed cs || isReal cs

end Retrial.Yaml
