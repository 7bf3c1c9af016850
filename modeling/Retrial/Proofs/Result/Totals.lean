import Retrial.Proofs.Result.Verdict

/-!
# What statuses and summaries have in common

Results are sorted in four ways: into the counts of a summary, into one status together, by whether
their case has passed, and by whether it has ended.  The status together is a function of the counts
(`Status.ofResults_eq`).  The counts of what has passed, and of what has ended, are sums of counts
of the summary, since a result has one status (`Summary.passed_add_flaky`, `Summary.sum_byStatus`).
The summaries of parts add up, so that a summary may be kept result by result
(`Summary.ofResults_append`), and the order of the results does not matter.
-/

namespace Retrial

/-! ### The status together -/

/-- The status that counts of results come to. -/
def Summary.status (s : Summary) : Status :=
  if 0 < s.failed then .failed
  else if 0 < s.flaky then .flaky
  else if 0 < s.healed then .healed
  else .passed

/-- The status of results together is the one that their counts come to. -/
lemma Status.ofResults_eq (rs : List Result) :
    Status.ofResults rs = (Summary.ofResults rs).status := by
  have hany (p : Result → Bool) : rs.any p = true ↔ 0 < rs.countP p := by
    rw [List.any_eq_true, List.countP_pos_iff]
  unfold Status.ofResults Summary.status
  simp only [hany]
  rfl

/-- The counts call for the status: a failed result decides, then a flaky one, then one with a
fix. -/
structure Summary.CallsFor (s : Summary) (status : Status) : Prop where
  failed : status = .failed ↔ 0 < s.failed
  flaky : status = .flaky ↔ s.failed = 0 ∧ 0 < s.flaky
  healed : status = .healed ↔ s.failed = 0 ∧ s.flaky = 0 ∧ 0 < s.healed
  passed : status = .passed ↔ s.failed = 0 ∧ s.flaky = 0 ∧ s.healed = 0

/-- Counts call for the status that they come to. -/
lemma Summary.callsFor_status (s : Summary) : s.CallsFor s.status := by
  unfold Summary.status
  split_ifs with hfailed hflaky hhealed
  all_goals
    constructor
    all_goals
      simp only [reduceCtorEq, true_iff, false_iff]
      omega

/-! ### Sums of counts -/

/-- Results of two kinds of statuses that have none in common. -/
lemma countP_status_add {p q both : Status → Bool} (hboth : ∀ s, (p s || q s) = both s)
    (hneither : ∀ s, (p s && q s) = false) (rs : List Result) :
    (rs.countP fun r => p r.status) + (rs.countP fun r => q r.status) =
      rs.countP fun r => both r.status := by
  induction rs with
  | nil => rfl
  | cons r rs ih =>
    have hor := hboth r.status
    have hand := hneither r.status
    rw [List.countP_cons, List.countP_cons, List.countP_cons, ← ih, ← hor]
    cases hp : p r.status with
    | false =>
      simp only [Bool.false_or, Bool.false_eq_true, if_false]
      omega
    | true =>
      rw [hp, Bool.true_and] at hand
      simp only [hand, Bool.true_or, if_true, Bool.false_eq_true, if_false]
      omega

namespace Summary

/-- Both summaries together, count by count. -/
def add (s t : Summary) : Summary where
  total := s.total + t.total
  passed := s.passed + t.passed
  failed := s.failed + t.failed
  flaky := s.flaky + t.flaky
  skipped := s.skipped + t.skipped
  healed := s.healed + t.healed

variable (rs rs' : List Result)

/-- Passed and flaky results are those of the cases that have passed in any way. -/
lemma passed_add_flaky :
    (ofResults rs).passed + (ofResults rs).flaky = rs.countP fun r => r.status.isSuccess := by
  refine countP_status_add (p := fun s => s == .passed || s == .healed) (q := (· == .flaky))
    (fun s => ?_) (fun s => ?_) rs
  · cases s <;> rfl
  · cases s <;> rfl

/-- The counts by status are together those of the cases that have ended. -/
lemma sum_byStatus :
    (ofResults rs).passed + (ofResults rs).failed + (ofResults rs).flaky + (ofResults rs).skipped =
      rs.countP fun r => r.status.isTerminal := by
  have hunskipped : (rs.countP fun r => r.status.isSuccess) + (ofResults rs).failed =
      rs.countP fun r => r.status.isSuccess || r.status == .failed := by
    refine countP_status_add (q := (· == .failed)) (fun _ => rfl) (fun s => ?_) rs
    cases s <;> rfl
  have hended : (rs.countP fun r => r.status.isSuccess || r.status == .failed) +
      (ofResults rs).skipped = rs.countP fun r => r.status.isTerminal := by
    refine countP_status_add (p := fun s => s.isSuccess || s == .failed) (q := (· == .skipped))
      (fun s => ?_) (fun s => ?_) rs
    · cases s <;> rfl
    · cases s <;> rfl
  rw [← hended, ← hunskipped, ← passed_add_flaky]
  omega

/-- The counts by status are together all exactly if all cases have ended. -/
lemma sum_byStatus_eq_total_iff :
    (ofResults rs).passed + (ofResults rs).failed + (ofResults rs).flaky + (ofResults rs).skipped =
      (ofResults rs).total ↔ ∀ r ∈ rs, r.status.isTerminal = true := by
  rw [sum_byStatus]
  exact List.countP_eq_length

/-- The summaries of two parts add up. -/
lemma ofResults_append : ofResults (rs ++ rs') = (ofResults rs).add (ofResults rs') := by
  unfold ofResults add
  simp only [List.length_append, List.countP_append]

/-- The status of results together and their summary agree.  The status is the one that the counts
call for; the percentage of passed results is that of the results whose cases have passed in any
way; the counts by status are together those of the cases that have ended, and so all of them if all
have.  The summaries of two parts add up, and neither status nor summary depends on the order. -/
theorem ofResults_agrees (rs : List Result) :
    let s := ofResults rs
    s.CallsFor (Status.ofResults rs) ∧
    s.passed + s.flaky = (rs.countP fun r => r.status.isSuccess) ∧
    s.passRate = percentage (rs.countP fun r => r.status.isSuccess) rs.length ∧
    s.passed + s.failed + s.flaky + s.skipped = (rs.countP fun r => r.status.isTerminal) ∧
    (s.passed + s.failed + s.flaky + s.skipped = s.total ↔
      ∀ r ∈ rs, r.status.isTerminal = true) ∧
    (∀ rs', ofResults (rs ++ rs') = s.add (ofResults rs')) ∧
    ∀ rs', rs'.Perm rs → Status.ofResults rs' = Status.ofResults rs ∧ ofResults rs' = s := by
  intro s
  have hrate : s.passRate = percentage (rs.countP fun r => r.status.isSuccess) rs.length := by
    rw [← passed_add_flaky]
    rfl
  refine ⟨?_, passed_add_flaky rs, hrate, sum_byStatus rs, sum_byStatus_eq_total_iff rs,
    ofResults_append rs, fun rs' h => ?_⟩
  · rw [Status.ofResults_eq]
    exact callsFor_status s
  · have hverdicts := h.map Result.verdict
    exact ⟨Status.ofResults_eq_of_perm hverdicts, ofResults_eq_of_perm hverdicts⟩

/-- A healed result counts as passed and as healed; a running one counts only in the total, so that
the counts by status fall short of it. -/
example :
    let result (status : Status) (healed : Bool) : Result :=
      { Result.pending ⟨0, 0⟩ "login" with status, healed }
    let rs :=
      [result .passed false, result .healed true, result .flaky false, result .running false]
    ofResults rs = ⟨4, 2, 0, 1, 0, 1⟩ ∧ Status.ofResults rs = .flaky := by
  decide

end Summary

end Retrial
