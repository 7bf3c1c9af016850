import Retrial.Time.Calendar

/-!
# Instants

A point in time: whole seconds from the start of 1970 and nanoseconds after that. A leap second is
counted as the second before it with more than `10 ^ 9` nanoseconds. Instants are ordered by their
seconds first.
-/

namespace Retrial.Time

/-- A point in time. -/
structure Instant where
  seconds : Int
  nanos : Nat
deriving DecidableEq, Repr, Inhabited

/-- The nanoseconds of a second. -/
def nanosPerSecond : Nat := 1000000000

/-- The seconds of a day. -/
def secondsPerDay : Int := 86400

namespace Instant

/-- Whether `a` is not later than `b`. -/
def le (a b : Instant) : Bool :=
  a.seconds < b.seconds || (a.seconds == b.seconds && a.nanos ≤ b.nanos)

/-- The number of the day. -/
def day (t : Instant) : Int := t.seconds / secondsPerDay

/-- The second within the day. -/
def secondOfDay (t : Instant) : Int := t.seconds % secondsPerDay

/-- Whether the instant lies within a leap second. -/
def isLeap (t : Instant) : Bool := nanosPerSecond ≤ t.nanos

/-- The earliest instant. -/
def earliest : Instant := ⟨minDay * secondsPerDay, 0⟩

/-- Whether the day of an instant is one that times can lie in. -/
def inRange (t : Instant) : Bool := minDay ≤ t.day && t.day ≤ maxDay

/-- The instants there are: in range, with less than two seconds after the whole ones. -/
def Representable (t : Instant) : Prop := t.inRange = true ∧ t.nanos < 2 * nanosPerSecond

instance (t : Instant) : Decidable t.Representable := by
  unfold Representable
  infer_instance

/-- The instants that can be written and read: those there are, with a leap second only at the end
of a minute. A leap second elsewhere is written as the second after it. -/
def Valid (t : Instant) : Prop :=
  t.inRange = true ∧ t.nanos < 2 * nanosPerSecond ∧ (t.isLeap = true → t.seconds % 60 = 59)

instance (t : Instant) : Decidable t.Valid := by
  unfold Valid
  infer_instance

theorem Valid.representable {t : Instant} (h : t.Valid) : t.Representable := ⟨h.1, h.2.1⟩

/-- The nanoseconds from `b` to `a`. A leap second between the two times of day counts. -/
def nanosSince (a b : Instant) : Int :=
  let leap : Int :=
    if b.secondOfDay < a.secondOfDay then if b.isLeap then 1 else 0
    else if a.secondOfDay < b.secondOfDay then if a.isLeap then -1 else 0
    else 0
  (a.seconds - b.seconds + leap) * nanosPerSecond + (a.nanos - b.nanos)

/-- The whole milliseconds from `b` to `a`; none when `a` is earlier. -/
def millisSince (a b : Instant) : Nat := (a.nanosSince b).toNat / 1000000

/-- The largest number of seconds that a span of time can have. -/
def maxSpan : Int := 9223372036854775

/-- The instant a number of days earlier, if the span and the instant exist. A leap second is left
on the side moved to. -/
def minusDays? (t : Instant) (days : Int) : Option Instant :=
  let span := days * secondsPerDay
  if maxSpan < span || span < -maxSpan then none
  else
    let start : Instant :=
      if t.isLeap && days != 0 then
        ⟨if 0 < days then t.seconds + 1 else t.seconds, t.nanos - nanosPerSecond⟩
      else t
    let moved : Instant := ⟨start.seconds - span, start.nanos⟩
    if moved.inRange then some moved else none

/-- The instant some nanoseconds later. -/
def plusNanos (t : Instant) (n : Nat) : Instant :=
  let total := t.nanos + n
  ⟨t.seconds + (total / nanosPerSecond : Nat), total % nanosPerSecond⟩

end Instant

end Retrial.Time
