import Retrial.Proofs.Pattern.Footprint
import Retrial.Proofs.Pool.Schedule
import Retrial.Runner

/-!
# What a run of cases leaves as it was

Surroundings *keep* a property of their state if every answer does, every look at the clock, every
note of a result, and every move of the clock.  Then every run keeps it, whatever the cases are and
whatever they ask for: the run of one process, every step of the pool, and the reports of what dead
tasks left out.

A world keeps the path of its pattern store, and its disk but for what the store keeps there
(`World.keeps_footprint`).  So does a run of cases (`Runner.footprint_runCases`).
-/

namespace Retrial

namespace Surroundings

variable {σ : Type}

/-- Whatever the surroundings do keeps a property of their state. -/
structure Keeps (s : Surroundings σ) (P : σ → Prop) : Prop where
  answer : ∀ q w, P w → P (s.answer q w).2
  readClock : ∀ w, P w → P (s.readClock w).2
  progress : ∀ r w, P w → P (s.progress r w)
  moveTo : ∀ t w, P w → P (s.moveTo t w)

namespace Keeps

variable {s : Surroundings σ} {P : σ → Prop} {b : Batch σ}

/-- Responding to a request keeps it. -/
lemma respond (h : s.Keeps P) (hb : P b.world) (group : Nat) (q : Request) :
    P (s.respond group q b).2.world := by
  cases q with
  | report r => exact h.progress r _ hb
  | _ => exact h.answer _ _ hb

/-- The run of a process keeps it. -/
lemma runAlone (h : s.Keeps P) {α : Type} (p : Proc α) (hb : P b.world) :
    P (s.runAlone p b).2.world := by
  induction p generalizing b with
  | done a => exact hb
  | ask q next ih =>
    have hq := h.respond hb 0 q
    unfold Surroundings.runAlone
    split
    · rename_i heq
      rwa [heq] at hq
    · rename_i heq
      rw [heq] at hq
      exact ih _ (h.moveTo _ _ hq)

open Pool

/-- A step of the pool keeps it. -/
lemma step (h : s.Keeps P) {bound : Nat} {mortal : Prop} {st st' : State σ}
    (hst : P st.batch.world) (hs : Step s bound mortal st st') : P st'.batch.world := by
  cases hs with
  | @work i t p time ht hp room =>
    have hat : P (st.atTime s time).batch.world := by
      cases time with
      | none => exact hst
      | some t => exact h.moveTo t _ hst
    have hadv := advanced_advance s i p (st.atTime s time)
    generalize advance s i p (st.atTime s time) = st' at hadv ⊢
    generalize st.atTime s time = st at hadv hat
    cases hadv with
    | ended => exact hat
    | sent r next => exact hat
    | @replied q next hq afterMs r world ha =>
      have hanswer := h.answer q _ hat
      rwa [ha] at hanswer
    | @crashed q next hq k world ha =>
      have hanswer := h.answer q _ hat
      rwa [ha] at hanswer
  | die hm k ht hp => exact hst
  | receive hflight => exact h.progress _ _ hst

/-- Every run of the pool keeps it. -/
lemma reaches (h : s.Keeps P) {bound : Nat} {mortal : Prop} {st st' : State σ}
    (hst : P st.batch.world) (hs : Reaches s bound mortal st st') : P st'.batch.world := by
  induction hs with
  | refl => exact hst
  | tail _ hstep ih => exact h.step ih hstep

/-- Reporting lost cases keeps it. -/
lemma reportLost (h : s.Keeps P) (group : Nat) (fault : EngineFault) (cases : List Case)
    (hb : P b.world) : P (reportLost s group fault cases b).world := by
  induction cases generalizing b with
  | nil => exact hb
  | cons c cases ih => exact ih (h.progress _ _ (h.readClock _ (h.readClock _ hb)))

/-- So does reporting what all dead tasks left out. -/
lemma reportDead (h : s.Keeps P) (label : Nat → String) (es : List (Nat × ServiceGroup × Task))
    (hb : P b.world) : P (reportDead s label es b).world := by
  induction es generalizing b with
  | nil => exact hb
  | cons e es ih =>
    obtain ⟨i, g, t⟩ := e
    unfold Pool.reportDead
    split
    · exact ih (h.reportLost i _ _ hb)
    · exact ih hb

/-- A run of service groups keeps it. -/
lemma runGroups (h : s.Keeps P) {label : Nat → String} {x : Executor} {workers : Nat}
    {groups : List ServiceGroup} {w : σ} (hw : P w) {b : Batch σ}
    (hb : runGroups s label x workers groups ⟨w, []⟩ = .ok b) : P b.world := by
  rcases le_or_gt (Pool.bound workers) maxPermits with hpermits | hfew
  · obtain ⟨st, hreach, -, heq⟩ := exists_joined_eq_runGroups s label x hpermits groups w False
    cases hb.symm.trans heq
    exact h.reportDead label _ (h.reaches hw hreach)
  · cases hb.symm.trans (runGroups_of_lt s label x groups _ hfew)

end Keeps

end Surroundings

/-! ### The disk -/

namespace World

variable {β : Type}

/-- The store of a world has its file at a path, if it has one, and the world's disk is one on which
nothing has changed but what such a store keeps there. -/
def Keeping (path : Option Path) (d : Disk) (w : World β) : Prop :=
  w.store.path = path ∧ PatternStore.Footprint path d w.disk

/-- What every call of the store keeps of the store and the disk, a world keeps, whatever the
collaborators are. -/
lemma keeps_of_calls (c : Collaborators β) {P : PatternStore → Disk → Prop}
    (h : ∀ (call : PatternStore.Call) (s : PatternStore) (d : Disk), P s d →
      P (call.run s d).2.1 (call.run s d).2.2) :
    (surroundings c).Keeps fun w => P w.store w.disk where
  readClock w hw := hw
  progress r w hw := hw
  moveTo t w hw := hw
  answer q w hw := by
    cases q with
    | invoke case limitSecs =>
      simp only [surroundings, World.answer]
      split <;> exact hw
    | teardown case =>
      simp only [surroundings, World.answer]
      split <;> exact hw
    | release case =>
      simp only [surroundings, World.answer]
      split <;> exact hw
    | heal case f =>
      simp only [surroundings, World.answer]
      split <;> exact hw
    | detect f => exact h (.detect w.now.1 f.message f.trace) _ _ hw
    | record testId f => exact h (.record w.now.1 testId f.message f.trace none) _ _ hw
    | feedback id success => exact h (.feedback id success) _ _ hw
    | _ => exact hw

/-- A world keeps to the file of its store. -/
lemma keeps_footprint (c : Collaborators β) (path : Option Path) (d : Disk) :
    (surroundings c).Keeps (Keeping path d) := by
  refine keeps_of_calls (P := fun s d' => s.path = path ∧ PatternStore.Footprint path d d') c
    fun call s d' h => ?_
  obtain ⟨hpath, hfoot⟩ := PatternStore.footprint_run h.2.tree s call
  exact ⟨hpath.trans h.1, h.2.trans (h.1 ▸ hfoot)⟩

end World

namespace Runner

variable {β : Type} (r : Runner) (c : Collaborators β) (label : Nat → String) (cases : List Case)
  {w : World β}

/-- A run of cases keeps what its surroundings keep. -/
lemma keeps_runCases {P : World β → Prop} (hkeeps : (World.surroundings c).Keeps P) (h : P w) :
    P (r.runCases c label cases w).2 := by
  unfold runCases
  by_cases hpar : r.executor.settings.isParallel = true
  · rw [if_pos hpar]
    split
    · exact h
    · rename_i hb
      exact hkeeps.runGroups h hb
  · rw [if_neg hpar]
    have hrun : P ((World.surroundings c).runAlone (r.executor.batch cases) ⟨w, []⟩).2.world :=
      hkeeps.runAlone _ h
    split
    · rename_i heq
      rwa [heq] at hrun
    · rename_i heq
      rwa [heq] at hrun

/-- A run of cases keeps to the file of the store. -/
lemma footprint_runCases {path : Option Path} {d : Disk} (h : w.Keeping path d) :
    (r.runCases c label cases w).2.Keeping path d :=
  r.keeps_runCases c label cases (World.keeps_footprint c path d) h

end Runner

end Retrial
