import Mathlib
import Retrial.Execution

/-!
# Verdicts

The verdict on a case is its result without the times.  The status and the summary of an execution
depend on the verdicts only, and not on their order.
-/

namespace Retrial

/-- What a result says about its case, whenever it was. -/
structure Verdict where
  testId : String
  status : Status
  attempts : Nat
  errorMessage : Option String
  stackTrace : Option String
  healed : Bool
  healingApplied : Option String
deriving DecidableEq, Repr

/-- The verdict of a result. -/
def Result.verdict (r : Result) : Verdict :=
  ⟨r.testId, r.status, r.attempts, r.errorMessage, r.stackTrace, r.healed, r.healingApplied⟩

/-- What is asked of results and can be asked of their verdicts is the same for results with the
same verdicts. -/
lemma countP_eq_of_perm {rs rs' : List Result} (h : (rs.map Result.verdict).Perm
    (rs'.map Result.verdict)) (p : Verdict → Bool) :
    rs.countP (fun r => p r.verdict) = rs'.countP fun r => p r.verdict := by
  have hcount := h.countP_eq p
  rwa [List.countP_map, List.countP_map] at hcount

/-- So is whether any of them is of some kind. -/
lemma any_eq_of_perm {rs rs' : List Result} (h : (rs.map Result.verdict).Perm
    (rs'.map Result.verdict)) (p : Verdict → Bool) :
    rs.any (fun r => p r.verdict) = rs'.any fun r => p r.verdict := by
  have hany := h.any_eq (f := p)
  rwa [List.any_map, List.any_map] at hany

/-- Results with the same verdicts have the same summary. -/
lemma Summary.ofResults_eq_of_perm {rs rs' : List Result}
    (h : (rs.map Result.verdict).Perm (rs'.map Result.verdict)) :
    Summary.ofResults rs = Summary.ofResults rs' := by
  have hlen : rs.length = rs'.length := by simpa using h.length_eq
  have hpassed := countP_eq_of_perm h fun v => v.status == .passed || v.status == .healed
  have hfailed := countP_eq_of_perm h fun v => v.status == .failed
  have hflaky := countP_eq_of_perm h fun v => v.status == .flaky
  have hskipped := countP_eq_of_perm h fun v => v.status == .skipped
  have hhealed := countP_eq_of_perm h fun v => v.healed
  simp only [Result.verdict] at hpassed hfailed hflaky hskipped hhealed
  simp only [Summary.ofResults, hlen, hpassed, hfailed, hflaky, hskipped, hhealed]

/-- Results with the same verdicts have the same status together. -/
lemma Status.ofResults_eq_of_perm {rs rs' : List Result}
    (h : (rs.map Result.verdict).Perm (rs'.map Result.verdict)) :
    Status.ofResults rs = Status.ofResults rs' := by
  have hfailed := any_eq_of_perm h fun v => v.status == .failed
  have hflaky := any_eq_of_perm h fun v => v.status == .flaky
  have hhealed := any_eq_of_perm h fun v => v.healed
  simp only [Result.verdict] at hfailed hflaky hhealed
  simp only [Status.ofResults, hfailed, hflaky, hhealed]

end Retrial
