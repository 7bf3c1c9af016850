import Retrial.Proofs.Run.Closings
import Retrial.Proofs.Run.Findings
import Retrial.Run.Rehearsal

/-!
# The contexts of a case

Every attempt asks for one context.  A context that was built is run on once, torn down once and
released once, and nothing comes in between; where none was built there is no run and no teardown,
and the attempt has failed.  So the log of a case is other requests, with a *tending* here and
there: the four exchanges on a context, or the one with which there was none (`Tended`).

What `Tended` says of the whole log, `Contexts` says of each exchange by what stands before it and
behind it.  How a teardown ends is not looked at, so that it changes neither the result nor what
becomes of the store (`execute_contexts`).
-/

namespace Retrial

namespace Executor

open Proc

variable {x : Executor} {c : Case} {a n : Nat} {awaiting : Option String}
  {log before after rest round attempted decided : List Exchange} {outcome : Except Failure Unit}
  {f : Failure} {turn : Turn} {r res : Result} {retried : Bool}

/-! ### Tendings -/

/-- What is asked on a context that was built: a run, the teardown, the release. -/
def tending (x : Executor) (c : Case) (ended : RunEnd) (closed : TeardownEnd) : List Exchange :=
  [⟨.build c, .ok ()⟩, ⟨.invoke c x.settings.timeoutSecs, ended⟩, ⟨.teardown c, closed⟩,
    ⟨.release c, ()⟩]

/-- A log goes on with the failure of an attempt without a context: after a report that is owed, the
failure is looked up. -/
def Setback (k : Crash) (log : List Exchange) : Prop :=
  ∃ fed found rest, log = fed ++ ⟨.detect (setupFailure k), found⟩ :: rest ∧ AllOf .feedback fed

/-- Contexts are asked for, run on, torn down and released in whole tendings, among other
requests. -/
inductive Tended (x : Executor) (c : Case) : List Exchange → Prop
  | nil : Tended x c []
  | other {e : Exchange} {rest : List Exchange} (he : e.request.phase ≠ .attempt)
      (h : Tended x c rest) : Tended x c (e :: rest)
  | unbuilt {rest : List Exchange} (k : Crash) (hk : Setback k rest) (h : Tended x c rest) :
      Tended x c (⟨.build c, .error k⟩ :: rest)
  | built {rest : List Exchange} (ended : RunEnd) (closed : TeardownEnd) (h : Tended x c rest) :
      Tended x c (tending x c ended closed ++ rest)

/-- Other requests may come first. -/
lemma Tended.append_others (hbefore : ∀ e ∈ before, e.request.phase ≠ .attempt)
    (h : Tended x c rest) : Tended x c (before ++ rest) := by
  induction before with
  | nil => exact h
  | cons e before ih =>
    obtain ⟨he, hbefore⟩ := List.forall_mem_cons.mp hbefore
    exact .other he (ih hbefore)

/-- Nothing of a phase other than the attempt is asked on a context. -/
lemma ne_attempt_of_allOf {s : Phase} (h : AllOf s log) (hs : s ≠ .attempt) :
    ∀ e ∈ log, e.request.phase ≠ .attempt := by
  intro e he
  rw [h e he]
  exact hs

/-- A decision on a failure begins with looking it up. -/
lemma Decided.exists_detect (h : Decided x c a (.error f) decided turn) :
    ∃ found rest, decided = ⟨.detect f, found⟩ :: rest := by
  cases h with
  | retried _ p policy hp => exact ⟨_, _, rfl⟩
  | healed hf hm reply fix hx => cases hf <;> exact ⟨_, _, rfl⟩
  | failed hf hh now p => cases hf <;> exact ⟨_, _, rfl⟩

/-- A round before a log whose contexts are tended tends its own. -/
lemma Round.tended_append (h : Round x c a awaiting round outcome turn) (hrest : Tended x c rest) :
    Tended x c (round ++ rest) := by
  obtain ⟨ha, hd⟩ := h
  have hfed := allOf_feedbackLog awaiting outcome
  rw [List.append_assoc, List.append_assoc]
  have hbehind := Tended.append_others (ne_attempt_of_allOf hfed (by decide))
    (Tended.append_others (ne_attempt_of_allOf hd.allOf (by decide)) hrest)
  cases ha with
  | unbuilt k =>
    obtain ⟨found, more, rfl⟩ := hd.exists_detect
    exact .unbuilt k ⟨_, found, _, rfl, hfed⟩ hbehind
  | ran ended closed => exact .built ended closed hbehind

/-- The contexts of a course are tended. -/
lemma Course.tended (h : Course x c n r retried awaiting log res) : Tended x c log := by
  induction h using Course.byRounds with
  | passed hround now _ => simpa using hround.tended_append .nil
  | retried hround _ _ ih => exact hround.tended_append ih
  | healed hround _ _ ih => exact hround.tended_append ih
  | failed hround now _ => simpa using hround.tended_append .nil

/-- The contexts of a run are tended. -/
lemma Executed.tended (h : Executed x c log res) : Tended x c log := by
  have hnow : ∀ now, (⟨.now, now⟩ : Exchange).request.phase ≠ .attempt := fun _ => by rintro ⟨⟩
  have hload : ∀ loaded, (⟨.load c, loaded⟩ : Exchange).request.phase ≠ .attempt :=
    fun _ => by rintro ⟨⟩
  cases h with
  | skipped hs start finish => exact .other (hnow _) (.other (hnow _) .nil)
  | unloadable hs start now fault =>
    exact .other (hnow _) (.other (hload _) (.other (hnow _) .nil))
  | ran hs start hr => exact .other (hnow _) (.other (hload _) hr.tended)

/-- Where an exchange of an attempt stands: it found no context, or it is one of the four on a
context, and the others stand around it. -/
lemma Tended.place (h : Tended x c log) {e : Exchange} (hlog : log = before ++ e :: after)
    (he : e.request.phase = .attempt) :
    (∃ k, e = ⟨.build c, .error k⟩ ∧ Setback k after) ∨
      ∃ earlier ended closed later, ∃ i < 4,
        before = earlier ++ (tending x c ended closed).take i ∧
          e :: after = (tending x c ended closed).drop i ++ later := by
  induction h generalizing before with
  | nil => simp at hlog
  | @other e' rest he' h ih =>
    cases before with
    | nil =>
      obtain rfl : e' = e := (List.cons.inj hlog).1
      exact absurd he he'
    | cons b before =>
      obtain ⟨rfl, hrest⟩ := List.cons.inj hlog
      rcases ih hrest with hunbuilt | ⟨earlier, ended, closed, later, i, hi, rfl, hafter⟩
      · exact .inl hunbuilt
      · exact .inr ⟨_ :: earlier, ended, closed, later, i, hi, rfl, hafter⟩
  | unbuilt k hk h ih =>
    cases before with
    | nil =>
      obtain ⟨rfl, rfl⟩ := List.cons.inj hlog
      exact .inl ⟨k, rfl, hk⟩
    | cons b before =>
      obtain ⟨rfl, hrest⟩ := List.cons.inj hlog
      rcases ih hrest with hunbuilt | ⟨earlier, ended, closed, later, i, hi, rfl, hafter⟩
      · exact .inl hunbuilt
      · exact .inr ⟨_ :: earlier, ended, closed, later, i, hi, rfl, hafter⟩
  | @built rest ended closed h ih =>
    by_cases hlt : before.length < 4
    · -- The exchange is one of this tending.
      refine .inr ⟨[], ended, closed, rest, before.length, hlt, ?_, ?_⟩
      · have htake := congrArg (List.take before.length) hlog
        rw [List.take_left, List.take_append_of_le_length hlt.le] at htake
        exact htake.symm
      · have hdrop := congrArg (List.drop before.length) hlog
        rw [List.drop_left, List.drop_append_of_le_length hlt.le] at hdrop
        exact hdrop.symm
    · -- It lies behind it.
      have hle : 4 ≤ before.length := Nat.le_of_not_lt hlt
      have htake := congrArg (List.take 4) hlog
      have hdrop := congrArg (List.drop 4) hlog
      rw [List.take_append_of_le_length hle] at htake
      rw [List.drop_append_of_le_length hle] at hdrop
      have hbefore : before = tending x c ended closed ++ before.drop 4 :=
        (List.take_append_drop 4 before).symm.trans (congrArg (· ++ before.drop 4) htake.symm)
      rcases ih hdrop with hunbuilt | ⟨earlier, ended', closed', later, i, hi, hcut, hafter⟩
      · exact .inl hunbuilt
      · refine .inr ⟨tending x c ended closed ++ earlier, ended', closed', later, i, hi, ?_, hafter⟩
        rw [hbefore, hcut, List.append_assoc]

/-- What becomes of the contexts of a case.  Every attempt asks for one, and without attempts there
is none.  What is built is run on next, torn down next, and released next; where nothing is built
the attempt has failed.  A run, a teardown and a release come at no other place: a run directly
behind the context that was built for it, a teardown directly behind the run, and a release directly
behind the teardown. -/
structure Contexts (x : Executor) (c : Case) (log : List Exchange) (res : Result) : Prop where
  attempts : Loaded c log → attemptsIn log = res.attempts
  untouched : ¬Loaded c log → ∀ e ∈ log, e.request.phase ≠ .attempt
  built : ∀ before c' after, log = before ++ ⟨.build c', .ok ()⟩ :: after →
    c' = c ∧ ∃ ended closed rest, after =
      ⟨.invoke c x.settings.timeoutSecs, ended⟩ :: ⟨.teardown c, closed⟩ :: ⟨.release c, ()⟩ :: rest
  unbuilt : ∀ before c' k after, log = before ++ ⟨.build c', .error k⟩ :: after →
    c' = c ∧ Setback k after
  run : ∀ before c' limitSecs ended after,
    log = before ++ ⟨.invoke c' limitSecs, ended⟩ :: after →
      c' = c ∧ limitSecs = x.settings.timeoutSecs ∧
        ∃ earlier, before = earlier ++ [⟨.build c, .ok ()⟩]
  tornDown : ∀ before c' closed after, log = before ++ ⟨.teardown c', closed⟩ :: after →
    c' = c ∧ ∃ earlier ended, before =
      earlier ++ [⟨.build c, .ok ()⟩, ⟨.invoke c x.settings.timeoutSecs, ended⟩]
  released : ∀ before c' after, log = before ++ ⟨.release c', ()⟩ :: after →
    c' = c ∧ ∃ earlier ended closed, before = earlier ++
      [⟨.build c, .ok ()⟩, ⟨.invoke c x.settings.timeoutSecs, ended⟩, ⟨.teardown c, closed⟩]

/-- A run that makes no attempt asks for nothing that an attempt does. -/
lemma Executed.untouched (h : Executed x c log res) (hl : ¬Loaded c log) :
    ∀ e ∈ log, e.request.phase ≠ .attempt := by
  cases h with
  | skipped hs start finish => simp [Request.phase]
  | unloadable hs start now fault => simp [Request.phase]
  | ran hs start hr => exact absurd (by simp [Loaded]) hl

/-- So it is with the contexts of every run. -/
lemma Executed.contexts (h : Executed x c log res) : Contexts x c log res := by
  have htended := h.tended
  constructor
  case attempts =>
    intro hl
    rcases h.loaded_cases with ⟨start, rest, rfl, hr⟩ | ⟨hnot, -⟩
    · have hcount := hr.attempts_eq
      simpa [Request.isBuild] using hcount.symm
    · exact absurd hl hnot
  case untouched => exact h.untouched
  case built =>
    intro before c' after hlog
    rcases htended.place hlog rfl with
      ⟨k, he, -⟩ | ⟨earlier, ended, closed, later, i, hi, -, hafter⟩
    · cases he
    · interval_cases i
      · cases hafter
        exact ⟨rfl, ended, closed, later, rfl⟩
      all_goals cases hafter
  case unbuilt =>
    intro before c' k after hlog
    rcases htended.place hlog rfl with
      ⟨k', he, hk⟩ | ⟨earlier, ended, closed, later, i, hi, -, hafter⟩
    · cases he
      exact ⟨rfl, hk⟩
    · interval_cases i
      all_goals cases hafter
  case run =>
    intro before c' limitSecs ended after hlog
    rcases htended.place hlog rfl with
      ⟨k, he, -⟩ | ⟨earlier, ended', closed, later, i, hi, hbefore, hafter⟩
    · cases he
    · interval_cases i
      · cases hafter
      · cases hafter
        exact ⟨rfl, rfl, earlier, hbefore⟩
      all_goals cases hafter
  case tornDown =>
    intro before c' closed after hlog
    rcases htended.place hlog rfl with
      ⟨k, he, -⟩ | ⟨earlier, ended, closed', later, i, hi, hbefore, hafter⟩
    · cases he
    · interval_cases i
      · cases hafter
      · cases hafter
      · cases hafter
        exact ⟨rfl, earlier, ended, hbefore⟩
      · cases hafter
  case released =>
    intro before c' after hlog
    rcases htended.place hlog rfl with
      ⟨k, he, -⟩ | ⟨earlier, ended, closed, later, i, hi, hbefore, hafter⟩
    · cases he
    · interval_cases i
      · cases hafter
      · cases hafter
      · cases hafter
      · cases hafter
        exact ⟨rfl, earlier, ended, closed, hbefore⟩

end Executor

/-! ### Rehearsals -/

namespace Rehearsal

/-- Rehearsals of one stage, but for how teardowns end. -/
inductive Restaged : Rehearsal → Rehearsal → Prop
  | intro {modules : Registry StagedModule} {healer : Script HealCue}
      {build : Script (Option Crash)} {teardown teardown' : Script TeardownCue} {runs : Dict Nat}
      {heals builds teardowns : Nat}
      {happenings : List Happening} {notices : List Notice}
      (h : ∀ call, (teardown.cue {} call).ms = (teardown'.cue {} call).ms) :
      Restaged
        ⟨⟨modules, healer, some ⟨build, teardown⟩⟩, runs, heals, builds, teardowns, happenings,
          notices⟩
        ⟨⟨modules, healer, some ⟨build, teardown'⟩⟩, runs, heals, builds, teardowns, happenings,
          notices⟩

/-- Rehearsals of stages that differ in how teardowns end do not differ in anything else. -/
lemma differInClosings : collaborators.DifferInClosings collaborators Restaged where
  load c s s' h := by
    obtain ⟨h⟩ := h
    simp only [collaborators, Rehearsal.load]
    split
    · exact ⟨rfl, .intro h⟩
    · exact ⟨rfl, .intro h⟩
    · exact ⟨rfl, .intro h⟩
  build time c s s' h := by
    obtain ⟨h⟩ := h
    simp only [collaborators, Rehearsal.build, Rehearsal.note]
    split
    · exact ⟨rfl, .intro h⟩
    · exact ⟨rfl, .intro h⟩
  invoke time c s s' h := by
    obtain ⟨h⟩ := h
    simp only [collaborators, Rehearsal.invoke, moduleScript, note]
    split
    · exact ⟨rfl, .intro h⟩
    · exact ⟨rfl, .intro h⟩
  teardown time c s s' h := by
    obtain ⟨h⟩ := h
    exact ⟨congrArg Except.ok (h _), .intro h⟩
  release time c s s' h := ⟨rfl, h⟩
  heal time c f s s' h := by
    obtain ⟨h⟩ := h
    simp only [collaborators, Rehearsal.heal, note]
    split
    · exact ⟨rfl, .intro h⟩
    · exact ⟨rfl, .intro h⟩
  progress time r s s' h := by
    obtain ⟨h⟩ := h
    exact .intro h

end Rehearsal

namespace Executor

/-- However the requests of a case are answered, its contexts are tended to: each attempt asks for
one, and one that was built is run on, torn down and released at once, before anything else is
asked; without a context there is no run and no teardown, and the attempt has failed.  How teardowns
end changes neither the result nor the other requests; and a case that runs alone ends in the same
way, and leaves the same store and disk, with collaborators that differ in how teardowns end. -/
theorem execute_contexts (x : Executor) (c : Case) :
    (∀ o : Proc.Answers,
      Contexts x c ((x.execute c).answered o []).1 ((x.execute c).answered o []).2) ∧
    (∀ o o' : Proc.Answers, o.DifferInClosings o' →
      ((x.execute c).answered o []).2 = ((x.execute c).answered o' []).2 ∧
        List.Forall₂ Exchange.Alike ((x.execute c).answered o []).1
          ((x.execute c).answered o' []).1) ∧
    ∀ (β β' : Type) (others : Collaborators β) (others' : Collaborators β') (R : β → β' → Prop),
      others.DifferInClosings others' R →
      ∀ (b : Batch (World β)) (b' : Batch (World β')), World.Alike R b.world b'.world →
        let run := (World.surroundings others).runAlone (x.execute c) b
        let run' := (World.surroundings others').runAlone (x.execute c) b'
        run.1 = run'.1 ∧ run.2.world.store = run'.2.world.store ∧
          run.2.world.disk = run'.2.world.disk := by
  refine ⟨fun o => ?_, fun o o' ho => ?_, fun β β' others others' R h b b' hb => ?_⟩
  · exact (trace_execute_iff.mp (Proc.trace_answered o (x.execute c) [])).contexts
  · exact (heedless_execute x c).answered ho .nil
  · intro run run'
    obtain ⟨hres, hworld⟩ := World.Alike.runAlone h (heedless_execute x c) hb
    have hkept : ∀ {w : World β} {w' : World β'}, World.Alike R w w' →
        w.store = w'.store ∧ w.disk = w'.disk := by
      rintro _ _ ⟨-⟩
      exact ⟨rfl, rfl⟩
    exact ⟨hres, hkept hworld⟩

/-- A stage with one module, which fails at its first run, and with teardowns that take 5 ms and end
in some way. -/
def closingStage (how : TeardownEnd) : Stage where
  modules :=
    Registry.empty.register "m" (.scripted ⟨[{ how := .failed (.ofMessage "boom") }], false⟩)
  healer := ⟨[{ fix := .ok (some "wait longer") }], true⟩
  contexts := some ⟨⟨[], false⟩, ⟨[{ ms := 5, how }], true⟩⟩

/-- A world in which a case is rehearsed on a stage, with an empty store. -/
def closingBatch (how : TeardownEnd) : Batch (World Rehearsal) :=
  ⟨⟨.inMemory, Disk.empty, 0, default, 0, 0, .ofStage (closingStage how)⟩, []⟩

/-- The run of a case on a stage whose teardowns end in some way. -/
def closingRun (how : TeardownEnd) : Except Crash Result × Batch (World Rehearsal) :=
  (World.surroundings Rehearsal.collaborators).runAlone (tenacious.execute lateCase)
    (closingBatch how)

/-- A case that is healed after a failed attempt does not see that its teardowns crash. -/
theorem execute_contexts_closing :
    Rehearsal.collaborators.DifferInClosings Rehearsal.collaborators Rehearsal.Restaged ∧
    World.Alike Rehearsal.Restaged (closingBatch .done).world
      (closingBatch (.crashed ⟨some "gone"⟩)).world ∧
    (closingRun .done).1.toOption.map (fun r => (r.status, r.attempts)) = some (.healed, 2) ∧
    (closingRun .done).1 = (closingRun (.crashed ⟨some "gone"⟩)).1 ∧
    (closingRun .done).2.world.store = (closingRun (.crashed ⟨some "gone"⟩)).2.world.store ∧
    (closingRun .done).2.world.disk = (closingRun (.crashed ⟨some "gone"⟩)).2.world.disk := by
  have hcue : ∀ call, ((⟨[⟨5, .done⟩], true⟩ : Script TeardownCue).cue {} call).ms =
      ((⟨[⟨5, .crashed ⟨some "gone"⟩⟩], true⟩ : Script TeardownCue).cue {} call).ms := by
    intro call
    unfold Script.cue
    cases call - 1 <;> rfl
  have hworld : World.Alike Rehearsal.Restaged (closingBatch .done).world
      (closingBatch (.crashed ⟨some "gone"⟩)).world := .intro (.intro hcue)
  exact ⟨Rehearsal.differInClosings, hworld, by decide +kernel,
    (execute_contexts tenacious lateCase).2.2 _ _ _ _ _ Rehearsal.differInClosings _ _ hworld⟩

end Executor

end Retrial
