import Retrial.Proofs.Run.Course

/-!
# What the run of a case asks for

The run of a case asks collaborators for nothing on behalf of another case, enters failures under no
other name, and hands no result in; that is left to the batch.  The result it ends with bears the
name of the case.
-/

namespace Retrial

/-- The requests that the run of a case may make: what concerns a case concerns this one, and
nothing is handed in. -/
def Request.Concerns (c : Case) : Request → Prop
  | .now => True
  | .load c' => c' = c
  | .build c' => c' = c
  | .invoke c' _ => c' = c
  | .teardown c' => c' = c
  | .release c' => c' = c
  | .heal c' _ => c' = c
  | .pause _ => True
  | .detect _ => True
  | .policy _ => True
  | .record testId _ => testId = c.id
  | .feedback _ _ => True
  | .report _ => False

namespace Executor

open Proc

variable {x : Executor} {c : Case}

/-- An attempt asks for its own case only. -/
lemma only_attempt : Only (Request.Concerns c) (x.attempt c) := by
  rw [attempt_eq]
  refine ⟨rfl, fun built => ?_⟩
  cases built with
  | error k => trivial
  | ok u => exact ⟨rfl, fun _ => ⟨rfl, fun _ => ⟨rfl, fun _ => trivial⟩⟩⟩

/-- Feedback names no case. -/
lemma only_feedBack {awaiting : Option String} {outcome : Except Failure Unit} :
    Only (Request.Concerns c) (feedBack awaiting outcome) := by
  cases awaiting with
  | none => trivial
  | some id => exact ⟨trivial, fun _ => trivial⟩

/-- A case that fails is recorded under its own name. -/
lemma only_fail {r : Result} {f : Failure} : Only (Request.Concerns c) (Executor.fail c r f) :=
  ⟨trivial, fun _ => ⟨rfl, fun _ => trivial⟩⟩

/-- A case that is granted no retry asks for its own fixes only. -/
lemma only_afterUngranted {n : Nat} {r : Result} {f : Failure} {healed : String → Proc Result}
    (hh : x.mayHeal n = true → ∀ fix, Only (Request.Concerns c) (healed fix)) :
    Only (Request.Concerns c) (x.afterUngranted c n r f healed) := by
  unfold afterUngranted
  split
  next hm =>
    refine ⟨rfl, fun reply => ?_⟩
    beta_reduce
    cases acceptedFix reply with
    | none => exact only_fail
    | some fix => exact hh hm fix
  next => exact only_fail

/-- The loop asks for its own case only. -/
lemma only_attemptFrom {usedUp : Result → Proc Result} {n : Nat} {r : Result}
    {granted retried : Bool} {awaiting : Option String}
    (hopen : n < x.settings.baseAttempts ∨ granted = true) :
    Only (Request.Concerns c) (x.attemptFrom c usedUp n r granted retried awaiting) := by
  induction hk : x.attemptLimit - n using Nat.strong_induction_on
    generalizing n r granted retried awaiting with
  | h k ih =>
    have hheal : ∀ f, Only (Request.Concerns c)
        (x.afterUngranted c (n + 1) ((numbered (n + 1) r).withFailure f) f fun fix =>
          x.attemptFrom c usedUp (n + 1) (((numbered (n + 1) r).withFailure f).withFix fix) false
            retried none) := by
      intro f
      refine only_afterUngranted fun hm fix => ?_
      have hlt := lt_attemptLimit_of_heal hm
      exact ih _ (by omega) (.inl (lt_baseAttempts_of_mayHeal hm)) rfl
    rw [attemptFrom_of_open hopen]
    refine only_attempt.bind fun outcome => only_feedBack.bind fun _ => ?_
    cases outcome with
    | ok u => exact ⟨trivial, fun _ => trivial⟩
    | error f =>
      refine ⟨trivial, fun found => ?_⟩
      cases found with
      | none => exact hheal f
      | some p =>
        refine ⟨trivial, fun policy => ?_⟩
        beta_reduce
        by_cases hn : n + 1 ≤ policy.maxRetries.toNat
        · have hlt := lt_attemptLimit_of_retry (x := x) hn
          rw [if_pos hn]
          exact ⟨trivial, fun _ => ih _ (by omega) (.inr rfl) rfl⟩
        · rw [if_neg hn]
          exact hheal f

/-- The run of a case asks for this case only, and hands nothing in. -/
theorem only_execute (x : Executor) (c : Case) : Only (Request.Concerns c) (x.execute c) := by
  cases hs : x.settings.skipTags.find? c.hasTag with
  | some tag =>
    rw [execute_of_skipped hs]
    exact ⟨trivial, fun _ => ⟨trivial, fun _ => trivial⟩⟩
  | none =>
    rw [execute_of_unskipped hs]
    refine ⟨trivial, fun start => ⟨rfl, fun loaded => ?_⟩⟩
    cases loaded with
    | error fault => exact ⟨trivial, fun _ => trivial⟩
    | ok u => exact only_attemptFrom (.inl x.settings.one_le_baseAttempts)

/-- The attempts leave the name of the result. -/
lemma Course.testId_eq {n : Nat} {r a : Result} {retried : Bool} {awaiting : Option String}
    {log : List Exchange} (h : Course x c n r retried awaiting log a) : a.testId = r.testId := by
  induction h with
  | pass => rfl
  | retry _ _ _ _ _ ih => exact ih
  | heal _ _ _ _ _ _ _ ih => exact ih
  | fail => rfl

/-- `x.Returns c r`: some run of the case `c` ends with the result `r`. -/
def Returns (x : Executor) (c : Case) (r : Result) : Prop := ∃ log, Trace (x.execute c) log r

/-- A result bears the name of its case. -/
lemma Returns.testId_eq {r : Result} (h : x.Returns c r) : r.testId = c.id := by
  obtain ⟨log, hlog⟩ := h
  cases trace_execute_iff.mp hlog with
  | skipped => rfl
  | unloadable => rfl
  | ran _ _ hr => exact hr.testId_eq

end Executor

end Retrial
