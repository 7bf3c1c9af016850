import Mathlib
import Retrial.Runner

/-!
# What a runner remembers

A runner is told to run batches and to load what is stored, in any order and each time in a world or
on a disk of its own.  What one call does to its memory is said by its answer (`Call.answers`): a
batch that is completed is added, loaded executions are added behind what is there, and any other
answer leaves the runner as it was.

So nothing is ever forgotten, and the place of the last batch stays the place of this batch, however
much is loaded after it (`Recalls`): the current summary is the one of the last batch that was
completed (`Runner.remembers`).
-/

namespace Retrial

namespace Runner

/-- What a runner can be told: to run a batch of cases in a world, or to load what is stored on a
disk. -/
inductive Call (β : Type)
  | run (c : Collaborators β) (label : Nat → String) (id strategyId : String) (cases : List Case)
      (w : World β)
  | load (d : Disk)

/-- What it answers. -/
inductive Reply
  | ran (outcome : RunOutcome)
  | loaded (count : Outcome Nat)

variable {β : Type} {r r' : Runner} {call : Call β} {calls : List (Call β)} {reply : Reply}

/-- Makes a call. -/
def Call.enter (r : Runner) : Call β → Reply × Runner
  | run c label id strategyId cases w =>
    (.ran (r.runStrategy c label id strategyId cases w).1,
      (r.runStrategy c label id strategyId cases w).2.1)
  | load d => (.loaded (r.loadHistory d).1, (r.loadHistory d).2)

/-- The runner after some calls. -/
def after (r : Runner) (calls : List (Call β)) : Runner :=
  calls.foldl (fun r call => (call.enter r).2) r

/-- The execution that an answer says is completed. -/
def Reply.completed? : Reply → Option Execution
  | ran (.completed e) => some e
  | _ => none

/-- What an answer says about the runner before and after the call: a completed execution has been
added and is the current one; executions that were loaded have been added, with the same one
current; after any other answer the runner is the same. -/
def Reply.Leaves (r r' : Runner) : Reply → Prop
  | ran (.completed e) => r'.history = r.history ++ [e] ∧ r'.currentSummary = some e.summary
  | ran _ => r' = r
  | loaded (.ok n) => (∃ added : List Execution, added.length = n ∧
      r'.history = r.history ++ added) ∧ r'.currentSummary = r.currentSummary
  | loaded (.error _) => r' = r

/-- The executions that some calls complete, in their order. -/
def completed (r : Runner) : List (Call β) → List Execution
  | [] => []
  | call :: calls => (call.enter r).1.completed?.toList ++ (call.enter r).2.completed calls

/-- Calls are made one after another. -/
lemma after_append (r : Runner) (calls later : List (Call β)) :
    r.after (calls ++ later) = (r.after calls).after later := List.foldl_append

/-- One more call. -/
lemma after_append_singleton (r : Runner) (calls : List (Call β)) (call : Call β) :
    r.after (calls ++ [call]) = (call.enter (r.after calls)).2 := after_append r calls [call]

/-- What one more call completes comes last. -/
lemma completed_append_singleton (r : Runner) (calls : List (Call β)) (call : Call β) :
    r.completed (calls ++ [call]) =
      r.completed calls ++ (call.enter (r.after calls)).1.completed?.toList := by
  induction calls generalizing r with
  | nil => simp [completed, after]
  | cons first calls ih =>
    rw [List.cons_append, completed, completed, ih, List.append_assoc]
    rfl

/-! ### One call -/

/-- How a call is answered, and what it does to the runner. -/
inductive Answers (r : Runner) : Call β → Reply → Runner → Prop
  | completed {c : Collaborators β} {label : Nat → String} {id strategyId : String}
      {cases : List Case} {w : World β} (e : Execution) (hid : e.id = id) :
      Answers r (.run c label id strategyId cases w) (.ran (.completed e))
        { r with history := r.history ++ [e], lastRun := some r.history.length }
  | failed {c : Collaborators β} {label : Nat → String} {id strategyId : String}
      {cases : List Case} {w : World β} (problem : Problem) :
      Answers r (.run c label id strategyId cases w) (.ran (.failed problem)) r
  | crashed {c : Collaborators β} {label : Nat → String} {id strategyId : String}
      {cases : List Case} {w : World β} (k : Crash) :
      Answers r (.run c label id strategyId cases w) (.ran (.crashed k)) r
  | loaded {d : Disk} (es : List Execution) (h : r.storage.loadAll d = .ok es) :
      Answers r (.load d) (.loaded (.ok (r.newlyLoaded es).length))
        { r with history := r.history ++ r.newlyLoaded es }
  | notLoaded {d : Disk} (problem cause : Problem) (h : r.storage.loadAll d = .error cause) :
      Answers r (.load d) (.loaded (.error problem)) r

/-- Every call is answered so. -/
lemma Call.answers (r : Runner) (call : Call β) :
    Answers r call (call.enter r).1 (call.enter r).2 := by
  cases call with
  | run c label id strategyId cases w =>
    simp only [Call.enter, runStrategy]
    generalize r.runCases c label cases w.now.2 = ran
    obtain ⟨k | results, w₁⟩ := ran
    · exact .crashed k
    · simp only
      generalize hdone : (Execution.start w.now.1 id strategyId).complete w₁.now.1 results = done
      have hid : done.id = id := by
        rw [← hdone]
        rfl
      cases (r.storage.save done w₁.now.2.disk).1 with
      | error problem => exact .failed _
      | ok p => exact .completed done hid
  | load d =>
    simp only [Call.enter, loadHistory]
    cases hload : r.storage.loadAll d with
    | error cause => exact .notLoaded _ cause hload
    | ok es => exact .loaded es hload

namespace Answers

/-- A call adds to the memory, at its end. -/
lemma isPrefix (h : Answers r call reply r') : r.history <+: r'.history := by
  cases h with
  | completed e hid => exact List.prefix_append _ _
  | failed problem => exact List.prefix_refl _
  | crashed k => exact List.prefix_refl _
  | loaded es hload => exact List.prefix_append _ _
  | notLoaded problem cause hload => exact List.prefix_refl _

/-- A call leaves the storage. -/
lemma storage_eq (h : Answers r call reply r') : r'.storage = r.storage := by
  cases h <;> rfl

end Answers

/-! ### Any calls -/

/-- Calls add to the memory, at its end. -/
lemma history_isPrefix_after (r : Runner) (calls : List (Call β)) :
    r.history <+: (r.after calls).history := by
  induction calls using List.reverseRecOn with
  | nil => exact List.prefix_refl _
  | append_singleton calls call ih =>
    rw [after_append_singleton]
    exact ih.trans (call.answers _).isPrefix

/-- The place of the last run is in the memory, and has the last of some executions. -/
structure Recalls (r : Runner) (ran : List Execution) : Prop where
  inRange : ∀ i ∈ r.lastRun, i < r.history.length
  last : (r.lastRun.bind fun i => r.history[i]?) = ran.getLast?

namespace Recalls

variable {ran : List Execution}

/-- The current summary is the one of the last execution. -/
lemma currentSummary_eq (h : r.Recalls ran) :
    r.currentSummary = ran.getLast?.map fun e => e.summary := by
  unfold currentSummary
  rw [h.last]

/-- What is added behind it leaves the last run in its place. -/
lemma append (h : r.Recalls ran) (added : List Execution) :
    Recalls { r with history := r.history ++ added } ran := by
  constructor
  · intro i hi
    have hbefore := h.inRange i hi
    simp only [List.length_append]
    omega
  · rw [← h.last]
    cases hlast : r.lastRun with
    | none => rfl
    | some i => exact List.getElem?_append_left (h.inRange i hlast)

/-- An execution that is completed is the last one. -/
lemma complete (r : Runner) (ran : List Execution) (e : Execution) :
    Recalls { r with history := r.history ++ [e], lastRun := some r.history.length }
      (ran ++ [e]) := by
  constructor
  · rintro i ⟨⟩
    simp
  · rw [List.getLast?_concat]
    exact List.getElem?_concat_length

/-- Each call keeps it so. -/
lemma answers (h : r.Recalls ran) (hanswers : Answers r call reply r') :
    r'.Recalls (ran ++ reply.completed?.toList) := by
  cases hanswers with
  | completed e hid => exact complete r ran e
  | failed problem => simpa [Reply.completed?] using h
  | crashed k => simpa [Reply.completed?] using h
  | loaded es hload => simpa [Reply.completed?] using h.append (r.newlyLoaded es)
  | notLoaded problem cause hload => simpa [Reply.completed?] using h

end Recalls

/-- After any calls, a new runner has the execution that was completed last in its place. -/
lemma recalls_after (x : Executor) (storage : Storage) (calls : List (Call β)) :
    ((new x storage).after calls).Recalls ((new x storage).completed calls) := by
  induction calls using List.reverseRecOn with
  | nil =>
    constructor
    · rintro i ⟨⟩
    · rfl
  | append_singleton calls call ih =>
    rw [after_append_singleton, completed_append_singleton]
    exact ih.answers (call.answers _)

/-- What a call leaves is what its answer says. -/
lemma Recalls.leaves {ran : List Execution} (h : r.Recalls ran)
    (hanswers : Answers r call reply r') : reply.Leaves r r' := by
  have hafter := (h.answers hanswers).currentSummary_eq
  cases hanswers with
  | completed e hid =>
    refine ⟨rfl, ?_⟩
    rw [hafter]
    simp [Reply.completed?]
  | failed problem => rfl
  | crashed k => rfl
  | loaded es hload =>
    refine ⟨⟨_, rfl, rfl⟩, ?_⟩
    rw [hafter, h.currentSummary_eq]
    simp [Reply.completed?]
  | notLoaded problem cause hload => rfl

/-- **A runner only adds to its memory.** After any calls to a new runner: whatever is called later,
what is in the memory now stays there, in its place and order. The current summary is the one of the
last batch that was completed, and there is none before the first. A batch that is completed adds
its own execution and nothing else, and what is loaded is added without a change to the summary. A
batch that fails or crashes leaves the runner as it is, and so does a loading that fails. -/
theorem remembers (x : Executor) (storage : Storage) (calls : List (Call β)) :
    (∀ later : List (Call β), ((new x storage).after calls).history <+:
        ((new x storage).after (calls ++ later)).history) ∧
      ((new x storage).after calls).currentSummary =
        ((new x storage).completed calls).getLast?.map (fun e => e.summary) ∧
      ∀ call : Call β, (call.enter ((new x storage).after calls)).1.Leaves
        ((new x storage).after calls) (call.enter ((new x storage).after calls)).2 := by
  have hrecalls := recalls_after x storage calls
  refine ⟨?_, hrecalls.currentSummary_eq, ?_⟩
  · intro later
    rw [after_append]
    exact history_isPrefix_after _ later
  · intro call
    exact hrecalls.leaves (call.answers _)

end Runner

end Retrial
