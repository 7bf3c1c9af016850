import Retrial.Result.Status
import Retrial.Time.Text

/-!
# Results

What came of one case: its status, how many attempts were made, when, the last failure, and the fix
that was applied.
-/

namespace Retrial

open Time (Instant)

/-- What came of one case. -/
structure Result where
  testId : String
  status : Status
  attempts : Nat
  startedAt : Instant
  completedAt : Option Instant
  durationMs : Nat
  errorMessage : Option String
  stackTrace : Option String
  healed : Bool
  healingApplied : Option String
deriving DecidableEq, Repr, Inhabited

namespace Result

/-- The result of a case before its first attempt. -/
def pending (now : Instant) (testId : String) : Result :=
  ⟨testId, .pending, 0, now, none, 0, none, none, false, none⟩

/-- The result with its completion stamped. -/
def finish (now : Instant) (r : Result) : Result :=
  { r with durationMs := now.millisSince r.startedAt, completedAt := some now }

/-- The result of a case that is not run. -/
def skipped (start finish : Instant) (testId reason : String) : Result :=
  { pending start testId with status := .skipped, errorMessage := some reason }.finish finish

/-- The result with a failure's message and trace. -/
def withError (r : Result) (message : String) (trace : Option String) : Result :=
  { r with errorMessage := some message, stackTrace := trace }

/-- One line about a result. -/
def display (r : Result) : String :=
  r.status.symbol ++ " " ++ r.testId ++ " [" ++ toString r.durationMs ++ "ms, "
    ++ toString r.attempts ++ " attempt(s)]" ++ (if r.healed then " (healed)" else "")
    ++ (r.errorMessage.map (" - " ++ ·)).getD ""

/-- Results in records. -/
def codec : Json.Codec Result :=
  .record
    [String, Status, Nat, Instant, Option Instant, Nat, Option String, Option String, Bool,
      Option String]
    (Json.required "test_id" .string, Json.required "status" Status.codec,
      Json.required "attempts" (.nat 32), Json.required "started_at" Instant.codec,
      Json.optionalField "completed_at" Instant.codec, Json.required "duration_ms" (.nat 64),
      Json.optionalField "error_message" .string, Json.optionalField "stack_trace" .string,
      Json.required "healed" .bool, Json.optionalField "healing_applied" .string, ())
    (fun r => (r.testId, r.status, r.attempts, r.startedAt, r.completedAt, r.durationMs,
      r.errorMessage, r.stackTrace, r.healed, r.healingApplied, ()))
    (fun (testId, status, attempts, startedAt, completedAt, durationMs, errorMessage, stackTrace,
        healed, healingApplied, ()) =>
      ⟨testId, status, attempts, startedAt, completedAt, durationMs, errorMessage, stackTrace,
        healed, healingApplied⟩)

@[simp] theorem finish_completedAt (now : Instant) (r : Result) :
    (r.finish now).completedAt = some now := rfl

@[simp] theorem finish_status (now : Instant) (r : Result) : (r.finish now).status = r.status := rfl

end Result

end Retrial
