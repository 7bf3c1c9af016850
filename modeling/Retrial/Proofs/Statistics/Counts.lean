import Retrial.Proofs.Collection.Dict
import Retrial.Statistics

/-!
# What the statistics count

The statistics of a history are counts over the executions in the window: of the executions, of
those that failed, of their results, of the failed results, and of the failed results of each test
that has one (`Statistics.counted_ofHistory`).  Counts do not depend on the order of what is
counted, so histories that are the same up to order have the same statistics
(`Statistics.ofHistory_perm`).
-/

namespace Retrial

open Time (Instant)

namespace Statistics

variable {s s' : Statistics} {es es' : List Execution} {history history' : List Execution}

/-- The executions that started within a number of days before now. -/
def window (history : List Execution) (days : Int) (now : Instant) : List Execution :=
  history.filter fun e => (windowStart days now).le e.startedAt

/-- The failed results of some executions. -/
def failures (es : List Execution) : List Result := es.flatMap Execution.failedResults

/-- How many of some results are results of a test. -/
def countOf (id : String) (rs : List Result) : Nat := rs.countP fun r => r.testId == id

/-- A count as it is kept for a test, which has none if nothing is to be counted. -/
def kept (n : Nat) : Option Nat := if n = 0 then none else some n

/-- The statistics count some executions. -/
structure Counts (s : Statistics) (es : List Execution) : Prop where
  totalExecutions : s.totalExecutions = es.length
  failedExecutions : s.failedExecutions = es.countP fun e => e.status == .failed
  totalTests : s.totalTests = (es.map fun e => e.results.length).sum
  totalFailures : s.totalFailures = (failures es).length
  failuresByTest : ∀ id, s.failuresByTest.get? id = kept (countOf id (failures es))

/-! ### Failures -/

/-- Counting failures leaves all other counts. -/
lemma foldl_addFailure (s : Statistics) (rs : List Result) :
    rs.foldl addFailure s = { s with
      totalFailures := s.totalFailures + rs.length
      failuresByTest := (rs.foldl addFailure s).failuresByTest } := by
  induction rs generalizing s with
  | nil => rfl
  | cons r rs ih =>
    rw [List.foldl_cons, ih]
    simp only [addFailure, List.length_cons]
    congr 1
    omega

/-- The counts of tests after more failures. -/
lemma get?_foldl_addFailure {rs : List Result} (count : String → Nat)
    (h : ∀ id, s.failuresByTest.get? id = kept (count id)) (id : String) :
    (rs.foldl addFailure s).failuresByTest.get? id = kept (count id + countOf id rs) := by
  induction rs generalizing s count with
  | nil => exact h id
  | cons r rs ih =>
    have hstep (id : String) : (s.addFailure r).failuresByTest.get? id =
        kept (count id + if r.testId = id then 1 else 0) := by
      simp only [addFailure]
      rw [Dict.get?_insert, h, h]
      by_cases hid : id = r.testId
      · subst hid
        rw [if_pos rfl, if_pos rfl]
        unfold kept
        split_ifs <;> simp_all
      · rw [if_neg hid, if_neg (Ne.symm hid)]
        rfl
    rw [List.foldl_cons, ih _ hstep]
    unfold countOf
    rw [List.countP_cons]
    simp only [beq_iff_eq]
    congr 1
    omega

/-! ### Executions -/

/-- Nothing counts no executions. -/
lemma counts_start (days : Int) (since : Instant) : Counts (start days since) [] :=
  ⟨rfl, rfl, rfl, rfl, fun _ => rfl⟩

/-- One more execution is counted along with the others. -/
lemma Counts.addExecution (h : s.Counts es) (e : Execution) :
    (s.addExecution e).Counts (es ++ [e]) := by
  have hfailures : failures (es ++ [e]) = failures es ++ e.failedResults := by
    unfold failures
    rw [List.flatMap_append, List.flatMap_singleton]
  unfold Statistics.addExecution
  simp only
  refine ⟨?_, ?_, ?_, ?_, fun id => ?_⟩
  · rw [foldl_addFailure, List.length_append, ← h.totalExecutions]
    rfl
  · rw [foldl_addFailure, List.countP_append, ← h.failedExecutions, List.countP_singleton]
  · rw [foldl_addFailure, List.map_append, List.sum_append, ← h.totalTests, List.map_singleton,
      List.sum_singleton]
  · rw [foldl_addFailure, hfailures, List.length_append, ← h.totalFailures]
  · have hcount : countOf id (failures es ++ e.failedResults) =
        countOf id (failures es) + countOf id e.failedResults := List.countP_append
    rw [hfailures, hcount]
    refine get?_foldl_addFailure (fun id => countOf id (failures es)) ?_ id
    exact h.failuresByTest

/-- The window that the statistics are about. -/
lemma foldl_addExecution (s : Statistics) (es : List Execution) :
    (es.foldl addExecution s).periodDays = s.periodDays ∧
      (es.foldl addExecution s).since = s.since := by
  induction es generalizing s with
  | nil => exact ⟨rfl, rfl⟩
  | cons e es ih =>
    rw [List.foldl_cons]
    obtain ⟨hdays, hsince⟩ := ih (s.addExecution e)
    rw [hdays, hsince]
    unfold Statistics.addExecution
    simp only
    rw [foldl_addFailure]
    exact ⟨rfl, rfl⟩

/-- The statistics of a history count the executions in the window. -/
theorem counts_ofHistory (history : List Execution) (days : Int) (now : Instant) :
    (ofHistory history days now).Counts (window history days now) ∧
      (ofHistory history days now).periodDays = days ∧
      (ofHistory history days now).since = windowStart days now := by
  have hcounts (es : List Execution) :
      (es.foldl addExecution (start days (windowStart days now))).Counts es := by
    induction es using List.reverseRecOn with
    | nil => exact counts_start _ _
    | append_singleton es e ih =>
      rw [List.foldl_append]
      exact ih.addExecution e
  exact ⟨hcounts _, foldl_addExecution _ _⟩

/-! ### The order of a history -/

/-- What is counted does not depend on the order. -/
lemma Counts.perm (h : s.Counts es) (hperm : es.Perm es') : s.Counts es' := by
  have hfailures : (failures es).Perm (failures es') := hperm.flatMap_right _
  refine ⟨?_, ?_, ?_, ?_, fun id => ?_⟩
  · rw [h.totalExecutions, hperm.length_eq]
  · rw [h.failedExecutions, hperm.countP_eq]
  · rw [h.totalTests, (hperm.map _).sum_eq]
  · rw [h.totalFailures, hfailures.length_eq]
  · rw [h.failuresByTest]
    unfold countOf
    rw [hfailures.countP_eq]

/-- Statistics that count the same over the same window are the same. -/
lemma Counts.unique (h : s.Counts es) (h' : s'.Counts es) (hdays : s.periodDays = s'.periodDays)
    (hsince : s.since = s'.since) : s = s' := by
  have htests : s.failuresByTest = s'.failuresByTest :=
    Dict.ext_get? fun id => (h.failuresByTest id).trans (h'.failuresByTest id).symm
  have htotal := h.totalExecutions.trans h'.totalExecutions.symm
  have hfailed := h.failedExecutions.trans h'.failedExecutions.symm
  have hresults := h.totalTests.trans h'.totalTests.symm
  have hfailures := h.totalFailures.trans h'.totalFailures.symm
  cases s
  cases s'
  simp_all

/-- Histories that are the same up to order have the same statistics. -/
theorem ofHistory_perm (h : history.Perm history') (days : Int) (now : Instant) :
    ofHistory history days now = ofHistory history' days now := by
  obtain ⟨hcounts, hdays, hsince⟩ := counts_ofHistory history days now
  obtain ⟨hcounts', hdays', hsince'⟩ := counts_ofHistory history' days now
  exact (hcounts.perm (h.filter _)).unique hcounts' (hdays.trans hdays'.symm)
    (hsince.trans hsince'.symm)

end Statistics

end Retrial
