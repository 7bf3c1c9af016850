/-!
# The exact value of a double

A finite double is `mantissa · 2 ^ exponent` with a sign. Everything printed from a double starts
from this exact value, in natural-number arithmetic. With a fixed number of decimal places it is
rounded to them; a tie goes to the even neighbour.
-/

namespace Retrial.Decimal

/-- The exact value `(-1) ^ negative · mantissa · 2 ^ exponent` of a finite double. -/
structure Binary where
  negative : Bool
  mantissa : Nat
  exponent : Int
deriving DecidableEq, Repr

/-- What the bits of a double stand for. -/
inductive Reading
  | finite (value : Binary)
  | infinite (negative : Bool)
  | notANumber
deriving DecidableEq, Repr

/-- Reads the 64 bits of a double: sign, eleven bits of exponent, 52 bits of fraction. -/
def Reading.ofBits (bits : UInt64) : Reading :=
  let n := bits.toNat
  let negative := n / Nat.pow 2 63 == 1
  let biased : Nat := n / Nat.pow 2 52 % 2048
  let fraction : Nat := n % Nat.pow 2 52
  if biased == 2047 then if fraction == 0 then .infinite negative else .notANumber
  else if biased == 0 then .finite ⟨negative, fraction, -1074⟩
  else .finite ⟨negative, fraction + Nat.pow 2 52, (biased : Int) - 1075⟩

/-- What a double stands for. -/
def Reading.ofFloat (x : Float) : Reading := Reading.ofBits x.toBits

/-- `a · 2 ^ e` as a fraction of natural numbers. -/
def scaled (a : Nat) (e : Int) : Nat × Nat :=
  if 0 ≤ e then (a * Nat.pow 2 e.toNat, 1) else (a, Nat.pow 2 (-e).toNat)

/-- The quotient `num / den` rounded to the nearest integer, a tie to the even one. -/
def roundEven (num den : Nat) : Nat :=
  let q := num / den
  let r := num % den
  if 2 * r < den then q else if den < 2 * r then q + 1 else if q % 2 == 0 then q else q + 1

/-- The decimal text of `n / 10 ^ places`. -/
def placesText (places n : Nat) : String :=
  let digits := toString n
  let padded := String.ofList (List.replicate (places + 1 - digits.length) '0') ++ digits
  let whole := padded.length - places
  if places == 0 then padded
  else String.ofList (padded.toList.take whole) ++ "." ++ String.ofList (padded.toList.drop whole)

/-- A double written with exactly `places` decimal places. -/
def fixedText (places : Nat) (x : Float) : String :=
  match Reading.ofFloat x with
  | .notANumber => "NaN"
  | .infinite negative => if negative then "-inf" else "inf"
  | .finite v =>
    let (num, den) := scaled (v.mantissa * Nat.pow 10 places) v.exponent
    (if v.negative then "-" else "") ++ placesText places (roundEven num den)

end Retrial.Decimal
