import Retrial.Proofs.Statistics.Counts
import Retrial.Proofs.Time.Order

/-!
# Windows of different lengths

A window of more days begins earlier, so it holds all that a shorter one holds, and statistics of
some executions are at most those of more (`Statistics.Counts.atMost`).  There is one default for
windows whose beginning does not exist, whether it would lie before all times or after them: such a
window holds the whole history.  This is right for a window that reaches back past the earliest
instant.  But a window of so many negative days that it would begin after the last day holds the
whole history too, where windows of a few more days hold nothing
(`Statistics.not_atMost_firstOfAll`).  That is the only exception
(`Statistics.ofHistory_atMost_iff`).
-/

namespace Retrial

open Time

namespace Statistics

variable {s t : Statistics} {es es' history : List Execution} {now : Instant} {days days' : Int}

/-- Each count, also that of each test, is at most the other's. -/
structure AtMost (s t : Statistics) : Prop where
  totalExecutions : s.totalExecutions ≤ t.totalExecutions
  failedExecutions : s.failedExecutions ≤ t.failedExecutions
  totalTests : s.totalTests ≤ t.totalTests
  totalFailures : s.totalFailures ≤ t.totalFailures
  failuresByTest : ∀ id n, s.failuresByTest.get? id = some n →
    ∃ m, t.failuresByTest.get? id = some m ∧ n ≤ m

/-- The window would begin after the last day that times can lie on. -/
def Overshoots (days : Int) (now : Instant) : Prop := maxDay < (now.daysBack days).day

/-- The window would begin before the first day that times can lie on. -/
def ReachesPast (days : Int) (now : Instant) : Prop := (now.daysBack days).day < minDay

/-- A kept count stays, and does not go down, when there is more to be counted. -/
lemma exists_kept_of_le {n m k : Nat} (h : n ≤ m) (hk : kept n = some k) :
    ∃ l, kept m = some l ∧ k ≤ l := by
  unfold kept at hk ⊢
  split_ifs at hk with hn
  obtain rfl := Option.some.inj hk
  exact ⟨m, if_neg (by omega), h⟩

/-- What counts some of the executions is at most what counts all. -/
lemma Counts.atMost (hs : s.Counts es) (ht : t.Counts es') (h : es.Sublist es') : s.AtMost t := by
  have hfailures : (failures es).Sublist (failures es') := h.flatMap _
  refine ⟨?_, ?_, ?_, ?_, fun id n hn => ?_⟩
  · rw [hs.totalExecutions, ht.totalExecutions]
    exact h.length_le
  · rw [hs.failedExecutions, ht.failedExecutions]
    exact h.countP_le
  · rw [hs.totalTests, ht.totalTests]
    exact (h.map _).sum_le_sum fun _ _ => Nat.zero_le _
  · rw [hs.totalFailures, ht.totalFailures]
    exact hfailures.length_le
  · rw [hs.failuresByTest] at hn
    rw [ht.failuresByTest]
    exact exists_kept_of_le hfailures.countP_le hn

/-! ### The beginning of a window -/

/-- A window begins so many days back, or at the earliest instant if there is none. -/
lemma windowStart_eq (h : now.inRange = true) (days : Int) :
    windowStart days now =
      if (now.daysBack days).inRange then now.daysBack days else Instant.earliest := by
  unfold windowStart
  rw [Instant.minusDays?_eq h]
  split_ifs <;> rfl

/-- A window that reaches past the earliest instant begins there, and so does one that overshoots
the last day. -/
lemma windowStart_eq_earliest (h : now.inRange = true)
    (hout : ReachesPast days now ∨ Overshoots days now) :
    windowStart days now = Instant.earliest := by
  rw [windowStart_eq h, if_neg]
  unfold ReachesPast Overshoots at hout
  rw [Instant.inRange_iff]
  omega

/-- No window begins before the earliest instant. -/
lemma earliest_le_windowStart (h : now.inRange = true) (days : Int) :
    Instant.earliest.le (windowStart days now) = true := by
  rw [windowStart_eq h]
  split_ifs with hin
  · exact Instant.earliest_le hin
  · exact Instant.earliest_le (by decide)

/-- A window that does not overshoot the last day begins no earlier than one of more days. -/
lemma windowStart_le (h : now.inRange = true) (hdays : days ≤ days')
    (hstart : ¬Overshoots days now) :
    (windowStart days' now).le (windowStart days now) = true := by
  have hback := Instant.daysBack_le now hdays
  have hday := Instant.day_le hback
  by_cases hout : (now.daysBack days').inRange = true
  · -- the shorter window begins between the longer one and the last day
    have hin : (now.daysBack days).inRange = true := by
      rw [Instant.inRange_iff] at hout ⊢
      unfold Overshoots at hstart
      omega
    rw [windowStart_eq h, windowStart_eq h, if_pos hout, if_pos hin]
    exact hback
  · rw [windowStart_eq h days', if_neg hout]
    exact earliest_le_windowStart h days

/-- A window that begins no later holds no less. -/
lemma window_sublist (h : (windowStart days' now).le (windowStart days now) = true)
    (history : List Execution) :
    (window history days now).Sublist (window history days' now) :=
  List.monotone_filter_right history fun _ hin => Instant.le_trans h hin

/-- A window that begins at the earliest instant holds the whole history. -/
lemma window_eq_self (h : windowStart days now = Instant.earliest)
    (hstarts : ∀ e ∈ history, e.startedAt.inRange = true) : window history days now = history := by
  unfold window
  rw [h]
  exact List.filter_eq_self.mpr fun e he => Instant.earliest_le (hstarts e he)

/-! ### Statistics of longer windows -/

/-- An execution that started at the earliest instant. -/
def firstOfAll : Execution := Execution.start Instant.earliest "exec_0" "smoke"

/-- A window that overshoots the last day holds what no window holds that begins after the earliest
instant. -/
lemma not_atMost_firstOfAll (h : now.inRange = true) (hover : Overshoots days now)
    (hlater : windowStart days' now ≠ Instant.earliest) :
    ¬(ofHistory [firstOfAll] days now).AtMost (ofHistory [firstOfAll] days' now) := by
  intro hle
  have hall : window [firstOfAll] days now = [firstOfAll] := by
    refine window_eq_self (windowStart_eq_earliest h (Or.inr hover)) fun e he => ?_
    rw [List.mem_singleton.mp he]
    decide
  have hnone : window [firstOfAll] days' now = [] := by
    refine List.filter_eq_nil_iff.mpr fun e he hin => hlater ?_
    rw [List.mem_singleton.mp he] at hin
    exact Instant.le_antisymm hin (earliest_le_windowStart h days')
  have hcount := hle.totalExecutions
  rw [(counts_ofHistory _ days now).1.totalExecutions,
    (counts_ofHistory _ days' now).1.totalExecutions, hall, hnone] at hcount
  exact absurd hcount (by decide)

/-- Statistics of a window of more days are at least those of one of fewer, for every history,
exactly if the shorter window does not begin after the last day, or the longer one begins at the
earliest instant.  A window that reaches back past the earliest instant counts the whole history. -/
theorem ofHistory_atMost_iff (hnow : now.inRange = true) (hdays : days ≤ days') :
    ((∀ history, (ofHistory history days now).AtMost (ofHistory history days' now)) ↔
      ¬Overshoots days now ∨ windowStart days' now = Instant.earliest) ∧
    (ReachesPast days' now → ∀ history : List Execution,
      (∀ e ∈ history, e.startedAt.inRange = true) →
        (ofHistory history days' now).Counts history) := by
  refine ⟨⟨fun hmono => ?_, fun hstart history => ?_⟩, fun hpast history hstarts => ?_⟩
  · by_contra hexception
    obtain ⟨hover, hlater⟩ := not_or.mp hexception
    exact not_atMost_firstOfAll hnow (not_not.mp hover) hlater (hmono _)
  · have hbegin : (windowStart days' now).le (windowStart days now) = true := by
      obtain hstart | hstart := hstart
      · exact windowStart_le hnow hdays hstart
      · rw [hstart]
        exact earliest_le_windowStart hnow days
    exact (counts_ofHistory history days now).1.atMost (counts_ofHistory history days' now).1
      (window_sublist hbegin history)
  · have hcounts := (counts_ofHistory history days' now).1
    rwa [window_eq_self (windowStart_eq_earliest hnow (Or.inl hpast)) hstarts] at hcounts

/-- A week against a billion days, which reach back past the earliest instant. -/
theorem ofHistory_atMost_iff_billionDays :
    let now : Instant := ⟨1592222400, 0⟩
    now.inRange = true ∧ (7 : Int) ≤ 1000000000 ∧ firstOfAll.startedAt.inRange = true ∧
      (∀ history, (ofHistory history 7 now).AtMost (ofHistory history 1000000000 now)) ∧
      (ofHistory [firstOfAll] 1000000000 now).Counts [firstOfAll] := by
  have hnow : Instant.inRange ⟨1592222400, 0⟩ = true := by decide
  have hfirst : firstOfAll.startedAt.inRange = true := by decide
  have hstart : ¬Overshoots 7 ⟨1592222400, 0⟩ := by
    unfold Overshoots
    decide
  have hpast : ReachesPast 1000000000 ⟨1592222400, 0⟩ := by
    unfold ReachesPast
    decide
  obtain ⟨hmono, hall⟩ := ofHistory_atMost_iff hnow (by decide : (7 : Int) ≤ 1000000000)
  refine ⟨hnow, by decide, hfirst, hmono.mpr (Or.inl hstart), hall hpast [firstOfAll] ?_⟩
  exact List.forall_mem_singleton.mpr hfirst

/-- A window that would begin a billion days ahead counts an execution that a window beginning now
leaves out. -/
theorem not_atMost_billionDaysAhead :
    let now : Instant := ⟨1592222400, 0⟩
    let failed : Result := { Result.pending ⟨1577836800, 0⟩ "login" with status := .failed }
    let old := Execution.complete ⟨1577836801, 0⟩ (.start ⟨1577836800, 0⟩ "exec_1" "smoke") [failed]
    now.Valid ∧ old.startedAt.Valid ∧ (-1000000000 : Int) ≤ 0 ∧
      ¬(ofHistory [old] (-1000000000) now).AtMost (ofHistory [old] 0 now) := by
  intro now failed old
  refine ⟨by decide, by decide, by decide, fun hle => ?_⟩
  have hcounts : (ofHistory [old] (-1000000000) now).totalExecutions = 1 ∧
      (ofHistory [old] 0 now).totalExecutions = 0 := by decide
  have hcount := hle.totalExecutions
  rw [hcounts.1, hcounts.2] at hcount
  exact absurd hcount (by decide)

end Statistics

end Retrial
