import Retrial.Json.Record

/-!
# Statuses

The life of a case's result: pending, running, and one of five terminal statuses, three of which are
successes.
-/

namespace Retrial

/-- How far a case or an execution has come. -/
inductive Status
  | pending
  | running
  /-- Passed at the first attempt. -/
  | passed
  | failed
  /-- Passed after a retry. -/
  | flaky
  /-- Passed after a fix. -/
  | healed
  | skipped
deriving DecidableEq, Repr, Inhabited

namespace Status

/-- All statuses. -/
def all : List Status := [pending, running, passed, failed, flaky, healed, skipped]

/-- The name of a status in records and listings. -/
def name : Status → String
  | pending => "PENDING"
  | running => "RUNNING"
  | passed => "PASSED"
  | failed => "FAILED"
  | flaky => "FLAKY"
  | healed => "HEALED"
  | skipped => "SKIPPED"

/-- The status of a name. -/
def ofName? (s : String) : Option Status := all.find? fun st => st.name == s

/-- The sign of a status in listings. -/
def symbol : Status → String
  | pending => "·"
  | running => "▸"
  | passed => "✓"
  | failed => "✗"
  | flaky => "~"
  | healed => "+"
  | skipped => "○"

/-- Whether nothing more will happen. -/
def isTerminal : Status → Bool
  | pending => false
  | running => false
  | _ => true

/-- Whether the case passed: at first, after a retry, or after a fix. -/
def isSuccess : Status → Bool
  | passed => true
  | flaky => true
  | healed => true
  | _ => false

theorem ofName?_name (s : Status) : ofName? s.name = some s := by cases s <;> decide

/-- Statuses in records. -/
def codec : Json.Codec Status := .choice name ofName?

end Status

end Retrial
