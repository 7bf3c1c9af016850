import Retrial.Result.Basic

/-!
# Summaries

How many results of an execution ended how, and the status they have together. A healed result
counts as passed, and once more as healed.
-/

namespace Retrial

/-- Counts of results. -/
structure Summary where
  total : Nat
  passed : Nat
  failed : Nat
  flaky : Nat
  skipped : Nat
  /-- Results with a fix, whatever their status. -/
  healed : Nat
deriving DecidableEq, Repr, Inhabited

/-- A hundred times a share of a total; nothing when there is no total. -/
def percentage (part total : Nat) : Float :=
  if total == 0 then 0 else (part.toUInt64.toFloat / total.toUInt64.toFloat) * 100

namespace Summary

/-- No results. -/
def zero : Summary := ⟨0, 0, 0, 0, 0, 0⟩

/-- The counts of a list of results. -/
def ofResults (results : List Result) : Summary where
  total := results.length
  passed := results.countP fun r => r.status == .passed || r.status == .healed
  failed := results.countP fun r => r.status == .failed
  flaky := results.countP fun r => r.status == .flaky
  skipped := results.countP fun r => r.status == .skipped
  healed := results.countP fun r => r.healed

/-- The percentage of results that passed, flaky ones included. -/
def passRate (s : Summary) : Float := percentage (s.passed + s.flaky) s.total

/-- Summaries in records. -/
def codec : Json.Codec Summary :=
  .record [Nat, Nat, Nat, Nat, Nat, Nat]
    (Json.required "total" (.nat 64), Json.required "passed" (.nat 64),
      Json.required "failed" (.nat 64), Json.required "flaky" (.nat 64),
      Json.required "skipped" (.nat 64), Json.required "healed" (.nat 64), ())
    (fun s => (s.total, s.passed, s.failed, s.flaky, s.skipped, s.healed, ()))
    (fun (total, passed, failed, flaky, skipped, healed, ()) =>
      ⟨total, passed, failed, flaky, skipped, healed⟩)

end Summary

/-- The status of results together: a failed one decides, then a flaky one, then a healed one. -/
def Status.ofResults (results : List Result) : Status :=
  if results.any fun r => r.status == .failed then .failed
  else if results.any fun r => r.status == .flaky then .flaky
  else if results.any fun r => r.healed then .healed
  else .passed

end Retrial
