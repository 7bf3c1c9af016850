/-!
# Running averages

The share of successes among outcomes, kept as a running average: the new average is the old one
weighted by the outcomes before, plus the new outcome, over the number of outcomes. The result is
kept between zero and one. The arithmetic is that of any type of scalars; the program uses doubles,
and exact fractions say what it aims at.
-/

namespace Retrial

/-- Numbers that averages are computed in. -/
class Scalar (K : Type) where
  ofNat : Nat → K
  add : K → K → K
  sub : K → K → K
  mul : K → K → K
  div : K → K → K
  /-- Whether the first is less than the second. -/
  less : K → K → Bool

instance : Scalar Float where
  ofNat n := n.toUInt64.toFloat
  add := (· + ·)
  sub := (· - ·)
  mul := (· * ·)
  div := (· / ·)
  less a b := decide (a < b)

instance : Scalar Rat where
  ofNat n := (n : Rat)
  add := (· + ·)
  sub := (· - ·)
  mul := (· * ·)
  div := (· / ·)
  less a b := decide (a < b)

namespace Average

variable {K : Type} [Scalar K]

open Scalar

/-- The nearest scalar between zero and one. -/
def clampUnit (x : K) : K :=
  if less x (ofNat 0) then ofNat 0 else if less (ofNat 1) x then ofNat 1 else x

/-- An outcome as a scalar: one for a success, zero for none. -/
def outcome (success : Bool) : K := ofNat (if success then 1 else 0)

/-- The average of `count` outcomes, the last of them given apart from the average of the others. -/
def fold (rate : K) (count : Nat) (success : Bool) : K :=
  let n : K := ofNat count
  clampUnit (div (add (mul rate (sub n (ofNat 1))) (outcome success)) n)

/-- The number and the average of outcomes after some more of them, in order. -/
def foldAll (rate : K) (count : Nat) : List Bool → Nat × K
  | [] => (count, rate)
  | success :: rest => foldAll (fold rate (count + 1) success) (count + 1) rest

end Average

end Retrial
