import Retrial.Proofs.Pattern.Growth
import Retrial.Proofs.Retry.Average

/-!
# What the policies of a store average

A policy changes by the outcomes reported under its id and by nothing else
(`get?_policies_enterAll`), and as long as its counter does not overflow its count and average are
those of the running average of these outcomes (`RetryPolicy.counted_foldl`).  The program keeps
this average in doubles.  In exact fractions the same computation gives the average of all outcomes,
and for a policy that has started with its pattern the fraction of the reported retries that
succeeded (`averages_exact`).
-/

namespace Retrial

/-- How many outcomes a policy has counted, and their average. -/
def RetryPolicy.counted (q : RetryPolicy) : ℕ × Float := (q.totalApplied.toNat, q.successRate)

/-- Outcomes enter the count and the average of a policy as they enter a running average, as long as
they do not overflow its counter. -/
lemma RetryPolicy.counted_foldl {q : RetryPolicy} {outcomes : List Bool}
    (hroom : q.totalApplied.toNat + outcomes.length < 2 ^ 64) :
    (outcomes.foldl recordOutcome q).counted =
      Average.foldAll q.successRate q.totalApplied.toNat outcomes := by
  induction outcomes generalizing q with
  | nil => rfl
  | cons success rest ih =>
    rw [List.length_cons] at hroom
    have hlt : q.totalApplied.toNat + 1 < 2 ^ 64 := by omega
    have hnext : (q.recordOutcome success).totalApplied.toNat = q.totalApplied.toNat + 1 :=
      Counter.toNat_plus_of_lt hlt
    have hrate : (q.recordOutcome success).successRate =
        Average.fold q.successRate (q.totalApplied.toNat + 1) success := by
      rw [← hnext]
      rfl
    rw [List.foldl_cons, ih (by omega), hnext, hrate]
    rfl

/-- The average of a policy that a pattern starts with is zero. -/
@[simp] lemma RetryPolicy.successRate_ofKind (id : String) (kind : FailureKind) :
    (RetryPolicy.ofKind id kind).successRate = 0 := by
  cases kind <;> rfl

/-- Outcomes enter the count and the average of the policy that a pattern starts with from
nothing. -/
lemma RetryPolicy.counted_foldl_ofKind {id : String} {kind : FailureKind} {outcomes : List Bool}
    (hroom : outcomes.length < 2 ^ 64) :
    (outcomes.foldl recordOutcome (ofKind id kind)).counted =
      Average.foldAll (0 : Float) 0 outcomes := by
  have hzero : (ofKind id kind).totalApplied.toNat = 0 := by rw [totalApplied_ofKind]; rfl
  rw [counted_foldl (by omega), hzero, successRate_ofKind]

namespace PatternStore

/-- The outcome that the call reports under the pattern id. -/
def Call.reported? (id : String) : Call → Option Bool
  | feedback id' success => if id' = id then some success else none
  | _ => none

/-- The outcomes that calls report under the pattern id, in order. -/
def reported (id : String) (calls : List Call) : List Bool := calls.filterMap (Call.reported? id)

/-- What a call makes of a policy is what the outcome reported makes of it. -/
lemma Call.onPolicy_eq (id : String) (c : Call) (q : RetryPolicy) :
    c.onPolicy id q = (c.reported? id).toList.foldl RetryPolicy.recordOutcome q := by
  cases c with
  | feedback id' success =>
    rw [onPolicy, reported?]
    split_ifs <;> rfl
  | _ => rfl

variable {b : PatternBook} {id : String} {q : RetryPolicy}

/-- Calls leave of a policy what the outcomes reported under its id make of it. -/
lemma get?_policies_enterAll (h : b.policies.get? id = some q) (calls : List Call) :
    (enterAll b calls).policies.get? id =
      some ((reported id calls).foldl RetryPolicy.recordOutcome q) := by
  induction calls generalizing b q with
  | nil => exact h
  | cons c cs ih =>
    rw [enterAll_cons, ih (c.get?_policies_enter h), c.onPolicy_eq]
    unfold reported
    rw [List.filterMap_cons]
    cases c.reported? id <;> rfl

/-- Outcomes reported one after another are the outcomes reported. -/
lemma reported_map_feedback (id : String) (outcomes : List Bool) :
    reported id (outcomes.map (.feedback id)) = outcomes := by
  unfold reported
  rw [List.filterMap_map]
  refine (List.filterMap_congr fun success _ => ?_).trans List.filterMap_some
  exact if_pos rfl

/-- The policy of a new pattern, after calls, is the one it has started with, changed by the
outcomes reported since. -/
lemma get?_policies_record_enterAll {now : Time.Instant} {testId message trace : String}
    {fix : Option String}
    (hpattern : b.patterns.get? (Signature.patternIdOf message trace) = none)
    (hpolicy : b.policies.get? (Signature.patternIdOf message trace) = none)
    (later : List Call) :
    (enterAll b (.record now testId message trace fix :: later)).policies.get?
        (Signature.patternIdOf message trace) =
      some ((reported (Signature.patternIdOf message trace) later).foldl RetryPolicy.recordOutcome
        (RetryPolicy.ofKind (Signature.patternIdOf message trace)
          (FailureKind.classify message))) := by
  have hnew : ((Call.record now testId message trace fix).enter b).policies.get?
      (Signature.patternIdOf message trace) =
        some (RetryPolicy.ofKind (Signature.patternIdOf message trace)
          (FailureKind.classify message)) := by
    rw [Call.enter, PatternBook.get?_policies_record, hpattern, hpolicy, if_neg (by simp),
      if_pos rfl, Option.getD_none]
  exact get?_policies_enterAll hnew later

/-- Averages as exact fractions.  From an average between zero and one of some number of outcomes,
further outcomes lead to the average of all of them, whatever their order.  It lies between zero and
one at each outcome, so keeping it there changes nothing.

As long as its counter does not overflow, the count and the average of a policy are this computation
in doubles.  For a policy that has started with its pattern, it starts from nothing and runs over
the outcomes reported since; in exact fractions it gives the fraction of them that are successes. -/
theorem averages_exact {rate : ℚ} (hrate : rate ∈ Set.Icc 0 1) (count : ℕ) {outcomes : List Bool}
    (hsome : outcomes ≠ []) :
    Average.foldAll rate count outcomes = (count + outcomes.length,
      (rate * count + outcomes.count true) / (count + outcomes.length)) ∧
    (Average.foldAll rate count outcomes).2 ∈ Set.Icc (0 : ℚ) 1 ∧
    (∀ before success, let r := Average.foldAll rate count before
      Average.fold r.2 (r.1 + 1) success = Average.blend r.2 (r.1 + 1) success) ∧
    (∀ outcomes', outcomes'.Perm outcomes →
      Average.foldAll rate count outcomes' = Average.foldAll rate count outcomes) ∧
    (∀ q : RetryPolicy, q.totalApplied.toNat + outcomes.length < 2 ^ 64 →
      (outcomes.foldl RetryPolicy.recordOutcome q).counted =
        Average.foldAll q.successRate q.totalApplied.toNat outcomes) ∧
    ∀ (s : PatternStore) d now testId message trace fix later,
      let id := Signature.patternIdOf message trace
      s.book.patterns.get? id = none → s.book.policies.get? id = none →
        ∃ q, (runCalls s d (.record now testId message trace fix :: later)).2.1.book.policies.get?
            id = some q ∧
          ((reported id later).length < 2 ^ 64 →
            q.counted = Average.foldAll (0 : Float) 0 (reported id later)) ∧
          Average.foldAll (0 : ℚ) 0 (reported id later) = ((reported id later).length,
            ((reported id later).count true : ℚ) / (reported id later).length) := by
  refine ⟨Average.foldAll_eq hrate count hsome, (Average.foldAll_mul hrate count outcomes).1,
    fun before success => ?_, fun outcomes' h => Average.foldAll_perm hrate count h,
    fun q hroom => RetryPolicy.counted_foldl hroom, ?_⟩
  · exact Average.fold_eq_blend (Average.foldAll_mul hrate count before).1 _ success
  · intro s d now testId message trace fix later id hpattern hpolicy
    rw [runCalls_book]
    refine ⟨_, get?_policies_record_enterAll hpattern hpolicy later, fun hroom => ?_,
      Average.foldAll_zero _⟩
    exact RetryPolicy.counted_foldl_ofKind hroom

/-- Two outcomes of which one was a success, then two successes and a failure: three fifths, in any
order.  And a new policy with a success and a failure has an average of one half. -/
theorem averages_exact_threeFifths :
    (1 / 2 : ℚ) ∈ Set.Icc 0 1 ∧ [true, false, true] ≠ [] ∧
      Average.foldAll (1 / 2 : ℚ) 2 [true, false, true] = (5, 3 / 5) ∧
      Average.foldAll (1 / 2 : ℚ) 2 [false, true, true] = (5, 3 / 5) ∧
      ∃ q, (runCalls .inMemory Disk.empty [.record ⟨0, 0⟩ "login" "boom" "" none,
          .feedback (Signature.patternIdOf "boom" "") true, .feedback "other" true,
          .feedback (Signature.patternIdOf "boom" "") false]).2.1.book.policies.get?
            (Signature.patternIdOf "boom" "") = some q ∧
        q.counted = Average.foldAll (0 : Float) 0 [true, false] ∧
        Average.foldAll (0 : ℚ) 0 [true, false] = (2, 1 / 2) := by
  have hhalf : (1 / 2 : ℚ) ∈ Set.Icc 0 1 := by
    constructor <;> norm_num
  have hsome : [true, false, true] ≠ [] := List.cons_ne_nil _ _
  obtain ⟨hexact, -, -, hperm, -, hstore⟩ := averages_exact hhalf 2 hsome
  have hfifths : Average.foldAll (1 / 2 : ℚ) 2 [true, false, true] = (5, 3 / 5) := by
    rw [hexact]
    norm_num
  have hother : "other" ≠ Signature.patternIdOf "boom" "" := by
    decide +kernel
  have hreported : reported (Signature.patternIdOf "boom" "")
      [.feedback (Signature.patternIdOf "boom" "") true, .feedback "other" true,
        .feedback (Signature.patternIdOf "boom" "") false] = [true, false] := by
    simp [reported, Call.reported?, hother]
  refine ⟨hhalf, hsome, hfifths, ?_, ?_⟩
  · rw [hperm _ (List.Perm.swap true false [true]), hfifths]
  · obtain ⟨q, hq, hcounted, hfraction⟩ := hstore .inMemory Disk.empty ⟨0, 0⟩ "login" "boom" "" none
      [.feedback (Signature.patternIdOf "boom" "") true, .feedback "other" true,
        .feedback (Signature.patternIdOf "boom" "") false] rfl rfl
    rw [hreported] at hcounted hfraction
    refine ⟨q, hq, hcounted (by decide), hfraction.trans ?_⟩
    norm_num

end PatternStore

end Retrial
