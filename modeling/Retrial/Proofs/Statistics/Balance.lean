import Retrial.Proofs.Result.Totals
import Retrial.Proofs.Statistics.Counts

/-!
# How the counts of statistics hang together

Failures are counted twice, once in all and once for each test, and failed executions are taken from
their status and not from their results.  The two counts of failures balance
(`Statistics.Counts.sum_failuresByTest`), and an execution that has got its status from its results
is failed exactly if one of them is (`Execution.Finished.failed_iff`).  Counts are sums over
executions, so the statistics of two histories one after the other are the sums of theirs
(`Statistics.Counts.isSum`).
-/

namespace Retrial

open Time (Instant)

/-! ### Finished executions -/

/-- The execution has got its status from its results. -/
def Execution.Finished (e : Execution) : Prop :=
  ∃ now begun results, e = complete now begun results

/-- A finished execution is failed exactly if one of its results is. -/
lemma Execution.Finished.failed_iff {e : Execution} (h : e.Finished) :
    e.status = .failed ↔ e.failedResults ≠ [] := by
  obtain ⟨now, begun, results, rfl⟩ := h
  have hcalls : (Summary.ofResults results).CallsFor (Status.ofResults results) := by
    rw [Status.ofResults_eq]
    exact Summary.callsFor_status _
  have hcount : 0 < (Summary.ofResults results).failed ↔
      results.filter (fun r => r.status == .failed) ≠ [] := by
    rw [← List.length_pos_iff, ← List.countP_eq_length_filter]
    rfl
  exact hcalls.failed.trans hcount

/-! ### Contents of dictionaries -/

/-- The contents are what is found under the keys. -/
lemma Dict.values_eq {α : Type} (d : Dict α) (default : α) :
    d.values = d.keys.map fun k => (d.get? k).getD default := by
  unfold values keys
  rw [List.map_map]
  refine List.map_congr_left fun e he => ?_
  have hget : d.get? e.1 = some e.2 := mem_entries.mp he
  rw [Function.comp_apply, hget, Option.getD_some]

namespace Statistics

variable {s t u : Statistics} {es es' : List Execution}

/-- How many failures of a test have been counted. -/
def failuresOf (s : Statistics) (id : String) : Nat := (s.failuresByTest.get? id).getD 0

/-- The counts are the sums of those of two statistics, also for each test. -/
structure IsSum (s t u : Statistics) : Prop where
  totalExecutions : u.totalExecutions = s.totalExecutions + t.totalExecutions
  failedExecutions : u.failedExecutions = s.failedExecutions + t.failedExecutions
  totalTests : u.totalTests = s.totalTests + t.totalTests
  totalFailures : u.totalFailures = s.totalFailures + t.totalFailures
  failuresByTest : ∀ id, u.failuresOf id = s.failuresOf id + t.failuresOf id

/-- The statistics count some executions, and their counts fit each other. -/
structure Balances (s : Statistics) (es : List Execution) : Prop extends Counts s es where
  /-- The tests that are listed have failed, as often as it says. -/
  listed : ∀ id n, s.failuresByTest.get? id = some n ↔ 0 < n ∧ n = countOf id (failures es)
  sum_failuresByTest : s.failuresByTest.values.sum = s.totalFailures
  totalFailures_le : s.totalFailures ≤ s.totalTests
  failedExecutions_le : s.failedExecutions ≤ s.totalExecutions

/-- A kept count is none that is zero. -/
lemma kept_eq_some_iff (n m : Nat) : kept n = some m ↔ 0 < m ∧ m = n := by
  unfold kept
  split_ifs with hn
  · simp only [false_iff]
    omega
  · rw [Option.some.injEq]
    omega

namespace Counts

/-- The failures that are counted for a test. -/
lemma failuresOf_eq (h : s.Counts es) (id : String) :
    s.failuresOf id = countOf id (failures es) := by
  unfold failuresOf
  rw [h.failuresByTest, kept]
  split_ifs with hnone
  · exact hnone.symm
  · rfl

/-- The tests that are listed are those of the failures. -/
lemma mem_keys (h : s.Counts es) (id : String) :
    id ∈ s.failuresByTest.keys ↔ id ∈ (failures es).map Result.testId := by
  have hpos : 0 < countOf id (failures es) ↔ id ∈ (failures es).map Result.testId := by
    unfold countOf
    rw [List.countP_pos_iff, List.mem_map]
    simp only [beq_iff_eq]
  rw [Dict.mem_keys, Option.isSome_iff_exists, ← hpos]
  constructor
  · rintro ⟨n, hn⟩
    rw [h.failuresByTest, kept_eq_some_iff] at hn
    omega
  · intro hfails
    exact ⟨_, (h.failuresByTest id).trans ((kept_eq_some_iff _ _).mpr ⟨hfails, rfl⟩)⟩

/-- The failures of the tests are together all failures. -/
lemma sum_failuresByTest (h : s.Counts es) : s.failuresByTest.values.sum = s.totalFailures := by
  let ids := (failures es).map Result.testId
  have hcount (id : String) : (s.failuresByTest.get? id).getD 0 = ids.count id := by
    have hcountOf : ids.count id = countOf id (failures es) := List.countP_map
    rw [hcountOf]
    exact h.failuresOf_eq id
  have hkeys : s.failuresByTest.keys.Perm ids.dedup := by
    refine (List.perm_ext_iff_of_nodup (Dict.nodup_keys _) ids.nodup_dedup).mpr fun id => ?_
    rw [h.mem_keys, List.mem_dedup]
  calc s.failuresByTest.values.sum
      = (s.failuresByTest.keys.map fun id => ids.count id).sum := by
        rw [Dict.values_eq _ 0]
        simp only [hcount]
    _ = (ids.dedup.map fun id => ids.count id).sum := (hkeys.map _).sum_eq
    _ = ids.length := List.sum_map_count_dedup_eq_length ids
    _ = s.totalFailures := by rw [List.length_map, h.totalFailures]

/-- No more tests have failed than there were. -/
lemma totalFailures_le (h : s.Counts es) : s.totalFailures ≤ s.totalTests := by
  rw [h.totalFailures, h.totalTests, failures, List.length_flatMap]
  exact List.sum_le_sum fun e _ => List.length_filter_le _ _

/-- No more executions have failed than there were. -/
lemma failedExecutions_le (h : s.Counts es) : s.failedExecutions ≤ s.totalExecutions := by
  rw [h.failedExecutions, h.totalExecutions]
  exact List.countP_le_length

/-- What counts executions balances. -/
lemma balances (h : s.Counts es) : s.Balances es where
  toCounts := h
  listed := fun id n => by rw [h.failuresByTest, kept_eq_some_iff]
  sum_failuresByTest := h.sum_failuresByTest
  totalFailures_le := h.totalFailures_le
  failedExecutions_le := h.failedExecutions_le

/-- Of finished executions those are failed that have a failed result. -/
lemma failedExecutions_eq (h : s.Counts es) (hfinished : ∀ e ∈ es, e.Finished) :
    s.failedExecutions = es.countP fun e => !e.failedResults.isEmpty := by
  rw [h.failedExecutions]
  refine List.countP_congr fun e he => ?_
  simpa using (hfinished e he).failed_iff

/-- What counts executions and others after them is the sum of what counts either. -/
lemma isSum (hs : s.Counts es) (ht : t.Counts es') (hu : u.Counts (es ++ es')) : IsSum s t u := by
  have hfailures : failures (es ++ es') = failures es ++ failures es' := List.flatMap_append
  refine ⟨?_, ?_, ?_, ?_, fun id => ?_⟩
  · rw [hs.totalExecutions, ht.totalExecutions, hu.totalExecutions, List.length_append]
  · rw [hs.failedExecutions, ht.failedExecutions, hu.failedExecutions, List.countP_append]
  · rw [hs.totalTests, ht.totalTests, hu.totalTests, List.map_append, List.sum_append]
  · rw [hs.totalFailures, ht.totalFailures, hu.totalFailures, hfailures, List.length_append]
  · rw [hs.failuresOf_eq, ht.failuresOf_eq, hu.failuresOf_eq, hfailures]
    exact List.countP_append

end Counts

/-- The statistics of a history count exactly the executions that started since the beginning of the
window, and their counts balance: the failures of the listed tests, each of which has some, are
together all failures, of which there are no more than results, as there are no more failed
executions than executions.  If all executions are finished, the failed ones are those with a failed
result.  The statistics of two histories one after the other are the sums of theirs, and the order
of a history does not matter. -/
theorem ofHistory_balances (history : List Execution) (days : Int) (now : Instant) :
    let s := ofHistory history days now
    let counted := history.filter fun e => s.since.le e.startedAt
    s.Balances counted ∧
    ((∀ e ∈ history, e.Finished) →
      s.failedExecutions = counted.countP fun e => !e.failedResults.isEmpty) ∧
    (∀ more, IsSum s (ofHistory more days now) (ofHistory (history ++ more) days now)) ∧
    ∀ history', history'.Perm history → ofHistory history' days now = s := by
  intro s counted
  obtain ⟨hcounts, -, hsince⟩ := counts_ofHistory history days now
  have hwindow : window history days now = counted := by
    unfold window
    rw [← hsince]
  have hsum (more : List Execution) :
      IsSum s (ofHistory more days now) (ofHistory (history ++ more) days now) := by
    have hmore := (counts_ofHistory more days now).1
    have hboth := (counts_ofHistory (history ++ more) days now).1
    refine hcounts.isSum hmore ?_
    rw [window, List.filter_append] at hboth
    exact hboth
  rw [hwindow] at hcounts
  refine ⟨hcounts.balances, fun hfinished => ?_, hsum, fun history' h => ofHistory_perm h days now⟩
  exact hcounts.failedExecutions_eq fun e he => hfinished e (List.mem_of_mem_filter he)

end Statistics

end Retrial
