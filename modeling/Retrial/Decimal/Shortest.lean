import Retrial.Decimal.Binary

/-!
# The shortest decimal that reads back

Among the decimals that round to a given double, the one with the fewest digits is chosen, and of
those the one nearest to the double. With `n` digits the candidates are the two neighbours of the
exact value on the grid of `n`-digit decimals; the first `n` with a neighbour inside the rounding
interval wins.
-/

namespace Retrial.Decimal

/-- A decimal `digits · 10 ^ exponent`. -/
structure Scientific where
  digits : Nat
  exponent : Int
deriving DecidableEq, Repr

/-- The exact value and the ends of the interval that rounds to it, all over one denominator. -/
structure Interval where
  lower : Nat
  value : Nat
  upper : Nat
  den : Nat
  /-- Whether the ends themselves round to the value. -/
  closed : Bool
deriving Repr

/-- The interval of reals that round to the double `mantissa · 2 ^ exponent`. Below a power of two
the neighbouring double is only half as far away. -/
def Interval.of (mantissa : Nat) (exponent : Int) : Interval :=
  let below := if mantissa == Nat.pow 2 52 && exponent != -1074 then 1 else 2
  let e := exponent - 2
  let (value, den) := scaled (4 * mantissa) e
  ⟨(scaled (4 * mantissa - below) e).1, value, (scaled (4 * mantissa + 2) e).1, den,
    mantissa % 2 == 0⟩

/-- Whether `num / den` (over the interval's own denominator times `scale`) lies inside. -/
def Interval.holds (i : Interval) (candidate scale : Nat) : Bool :=
  if i.closed then i.lower * scale ≤ candidate && candidate ≤ i.upper * scale
  else i.lower * scale < candidate && candidate < i.upper * scale

/-- The number of the decimal place of the leading digit of `num / den`: the `k` with
`10 ^ k ≤ num / den < 10 ^ (k + 1)`, for a positive value. -/
def leadingPlace (num den : Nat) : Int :=
  if den ≤ num then ((toString (num / den)).length : Int) - 1
  else - (((List.range 400).find? fun j => den ≤ num * Nat.pow 10 (j + 1)).getD 0 + 1 : Nat)

/-- The better of the two neighbours on the grid of multiples of `10 ^ place`, if one of them lies
in the interval. -/
def Interval.onGrid (i : Interval) (place : Int) : Option Scientific :=
  -- over `i.den * down` the value is `i.value * down`, and one grid step is `i.den * up`
  let down := if 0 ≤ place then 1 else Nat.pow 10 (-place).toNat
  let up := if 0 ≤ place then Nat.pow 10 place.toNat else 1
  let unit := i.den * up
  let scaledValue := i.value * down
  let floor := scaledValue / unit
  let low := floor * unit
  let high := low + unit
  let lowFits := 0 < floor && i.holds low down
  let highFits := i.holds high down
  let nearLow :=
    2 * (scaledValue - low) < unit || (2 * (scaledValue - low) == unit && floor % 2 == 0)
  if lowFits && (nearLow || !highFits) then some ⟨floor, place⟩
  else if highFits then some ⟨floor + 1, place⟩
  else none

/-- Drops trailing zeros of the digits, at most `fuel` of them. -/
def Scientific.trim : Nat → Scientific → Scientific
  | 0, s => s
  | fuel + 1, s =>
    if s.digits % 10 == 0 && s.digits != 0 then Scientific.trim fuel ⟨s.digits / 10, s.exponent + 1⟩
    else s

/-- The shortest decimal that rounds to a positive double. -/
def shortest (mantissa : Nat) (exponent : Int) : Scientific :=
  let i := Interval.of mantissa exponent
  let lead := leadingPlace i.value i.den
  match (List.range 17).findSome? fun (n : Nat) => i.onGrid (lead - (n : Int)) with
  | some s => s.trim 20
  | none => ⟨0, 0⟩

/-- The layout of a double in a record: digits are written positionally while the decimal point
stays between five places before the first digit and sixteen after it, always with a point;
otherwise with a signed exponent. -/
def Scientific.text (s : Scientific) : String :=
  let digits := (toString s.digits).toList
  let point : Int := digits.length + s.exponent
  if 0 ≤ s.exponent && point ≤ 16 then
    String.ofList (digits ++ List.replicate s.exponent.toNat '0') ++ ".0"
  else if 0 < point && point ≤ 16 then
    String.ofList (digits.take point.toNat) ++ "." ++ String.ofList (digits.drop point.toNat)
  else if -5 < point && point ≤ 0 then
    "0." ++ String.ofList (List.replicate (-point).toNat '0' ++ digits)
  else
    let e := point - 1
    let mark := if 0 ≤ e then "e+" else "e-"
    let fraction := if digits.length ≤ 1 then "" else "." ++ String.ofList (digits.drop 1)
    String.ofList (digits.take 1) ++ fraction ++ mark ++ toString e.natAbs

/-- The text of a finite double; a double that is no number has none. -/
def shortestText? (x : Float) : Option String :=
  match Reading.ofFloat x with
  | .finite v =>
    let body := if v.mantissa == 0 then "0.0" else (shortest v.mantissa v.exponent).text
    some (if v.negative then "-" ++ body else body)
  | _ => none

end Retrial.Decimal
