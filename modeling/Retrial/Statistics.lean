import Retrial.Collection.Dict
import Retrial.Execution
import Retrial.Pattern.Basic

/-!
# Failure statistics

Counts over the executions that started within a number of days before now: how many there were, how
many failed, and how often each test failed. A window that reaches past the earliest possible time
covers the whole history.
-/

namespace Retrial

open Time (Instant)

/-- Counts over a window of the history. -/
structure Statistics where
  periodDays : Int
  since : Instant
  totalExecutions : Nat
  failedExecutions : Nat
  totalTests : Nat
  totalFailures : Nat
  failuresByTest : Dict Nat
deriving Inhabited

namespace Statistics

/-- The beginning of the window of a number of days before now. -/
def windowStart (days : Int) (now : Instant) : Instant :=
  (now.minusDays? days).getD Instant.earliest

/-- Nothing counted yet. -/
def start (days : Int) (since : Instant) : Statistics := ⟨days, since, 0, 0, 0, 0, Dict.empty⟩

/-- Counts a failure of a test. -/
def addFailure (s : Statistics) (r : Result) : Statistics :=
  { s with
    totalFailures := s.totalFailures + 1
    failuresByTest :=
      s.failuresByTest.insert r.testId ((s.failuresByTest.get? r.testId).getD 0 + 1) }

/-- Counts an execution. -/
def addExecution (s : Statistics) (e : Execution) : Statistics :=
  let s := { s with
    totalExecutions := s.totalExecutions + 1
    totalTests := s.totalTests + e.results.length
    failedExecutions := s.failedExecutions + if e.status == .failed then 1 else 0 }
  e.failedResults.foldl addFailure s

/-- The counts over the executions that started within a number of days before now. -/
def ofHistory (history : List Execution) (days : Int) (now : Instant) : Statistics :=
  let since := windowStart days now
  (history.filter fun e => since.le e.startedAt).foldl addExecution (start days since)

/-- The percentage of tests that failed. -/
def failureRate (s : Statistics) : Float := percentage s.totalFailures s.totalTests

/-- Whether an entry stands before or beside another: more failures first, then by id. -/
def ranksBefore (a b : String × Nat) : Bool := b.2 < a.2 || (a.2 == b.2 && a.1 ≤ b.1)

/-- The `n` tests that failed most often, with their counts. -/
def topFailing (s : Statistics) (n : Nat) : List (String × Nat) :=
  (s.failuresByTest.entries.mergeSort ranksBefore).take n

/-- Statistics in records. -/
def codec : Json.Codec Statistics :=
  .record [Int, Instant, Nat, Nat, Nat, Nat, Dict Nat]
    (Json.required "period_days" .int, Json.required "since" Instant.codec,
      Json.required "total_executions" (.nat 64), Json.required "failed_executions" (.nat 64),
      Json.required "total_tests" (.nat 64), Json.required "total_failures" (.nat 64),
      Json.required "failures_by_test" (Dict.codec (.nat 64)), ())
    (fun s => (s.periodDays, s.since, s.totalExecutions, s.failedExecutions, s.totalTests,
      s.totalFailures, s.failuresByTest, ()))
    (fun (periodDays, since, totalExecutions, failedExecutions, totalTests, totalFailures,
        failuresByTest, ()) =>
      ⟨periodDays, since, totalExecutions, failedExecutions, totalTests, totalFailures,
        failuresByTest⟩)

end Statistics

end Retrial
