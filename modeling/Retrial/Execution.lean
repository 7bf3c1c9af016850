import Retrial.Result.Summary

/-!
# Executions

An execution is one run of a batch of cases: the results in the order they were reported, with the
status and the summary that follow from them.
-/

namespace Retrial

open Time (Instant)

/-- One run of a batch of cases. -/
structure Execution where
  id : String
  strategyId : String
  status : Status
  results : List Result
  startedAt : Instant
  completedAt : Option Instant
  summary : Summary
deriving DecidableEq, Repr, Inhabited

namespace Execution

/-- An execution that has just begun. -/
def start (now : Instant) (id strategyId : String) : Execution :=
  ⟨id, strategyId, .running, [], now, none, .zero⟩

/-- The execution with its results, and what follows from them. -/
def complete (now : Instant) (e : Execution) (results : List Result) : Execution :=
  { e with
    status := .ofResults results
    summary := .ofResults results
    results
    completedAt := some now }

/-- The time taken; none while the execution is not complete. -/
def durationMs (e : Execution) : Nat :=
  (e.completedAt.map fun t => t.millisSince e.startedAt).getD 0

/-- The results that failed. -/
def failedResults (e : Execution) : List Result := e.results.filter fun r => r.status == .failed

/-- A rule across a listing. -/
def rule : String := String.ofList (List.replicate 40 '━') ++ "\n"

/-- An execution with its results, line by line. -/
def display (e : Execution) : String :=
  let s := e.summary
  "Execution " ++ e.id ++ " (" ++ e.strategyId ++ ")\n" ++ rule
    ++ String.join (e.results.map fun r => "  " ++ r.display ++ "\n") ++ rule
    ++ "Total: " ++ toString s.total ++ " | Pass: " ++ toString s.passed
    ++ " | Fail: " ++ toString s.failed ++ " | Flaky: " ++ toString s.flaky
    ++ " | Skip: " ++ toString s.skipped ++ " | Healed: " ++ toString s.healed ++ "\n"
    ++ "Status: " ++ e.status.name ++ " | Duration: " ++ toString e.durationMs ++ "ms\n"

/-- Executions in records. -/
def codec : Json.Codec Execution :=
  .record [String, String, Status, List Result, Instant, Option Instant, Summary]
    (Json.required "id" .string, Json.required "strategy_id" .string,
      Json.required "status" Status.codec, Json.required "results" (.list Result.codec),
      Json.required "started_at" Instant.codec, Json.optionalField "completed_at" Instant.codec,
      Json.required "summary" Summary.codec, ())
    (fun e => (e.id, e.strategyId, e.status, e.results, e.startedAt, e.completedAt, e.summary, ()))
    (fun (id, strategyId, status, results, startedAt, completedAt, summary, ()) =>
      ⟨id, strategyId, status, results, startedAt, completedAt, summary⟩)

end Execution

end Retrial
