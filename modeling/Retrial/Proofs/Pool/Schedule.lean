import Retrial.Proofs.Pool.Machine
import Retrial.Proofs.Run.Alone

/-!
# The schedule of the pool is a run of the machine

`runTasks` lets a task run until it has to wait, and receives what it hands in at once.  Each of its
moves is a sequence of steps of the machine: the requests of the task one by one, and the receipt of
a result right after the result was handed in.  So whatever holds of every run of the machine holds
of the pool, and the loop ends in a finished state (`exists_finished_runTasks`).
-/

namespace Retrial

namespace Pool

open Surroundings

variable {σ : Type} {s : Surroundings σ} {bound : Nat} {mortal : Prop} {tasks : List Task}
  {b : Batch σ} {i : Nat} {t : Task} {p : Proc Unit}

/-- The state of the machine between two moves of the loop: everything handed in was received. -/
def between (tasks : List Task) (b : Batch σ) : State σ := ⟨tasks, b.received, b⟩

/-! ### The next move -/

/-- The earliest of some entries is one of them. -/
lemma mem_of_earliest {es : List (Nat × Nat)} {e : Nat × Nat} (h : earliest es = some e) :
    e ∈ es := by
  induction es generalizing e with
  | nil => cases h
  | cons e' es ih =>
    simp only [earliest] at h
    cases hes : earliest es with
    | none =>
      rw [hes] at h
      simp only [Option.some.injEq] at h
      exact h ▸ List.mem_cons_self
    | some f =>
      rw [hes] at h
      simp only at h
      split at h
      · simp only [Option.some.injEq] at h
        exact h ▸ List.mem_cons_self
      · simp only [Option.some.injEq] at h
        exact h ▸ List.mem_cons_of_mem _ (ih hes)

/-- Of some entries there is an earliest one. -/
lemma eq_nil_of_earliest {es : List (Nat × Nat)} (h : earliest es = none) : es = [] := by
  cases es with
  | nil => rfl
  | cons e es =>
    simp only [earliest] at h
    cases hes : earliest es with
    | none =>
      rw [hes] at h
      cases h
    | some f =>
      rw [hes] at h
      simp only at h
      split at h <;> cases h

/-- The sleepers are the tasks in progress. -/
lemma mem_sleepers_iff {time : Nat} :
    (i, time) ∈ sleepers tasks ↔ ∃ p, tasks[i]? = some (.asleep time p) := by
  simp only [sleepers, List.mem_filterMap]
  constructor
  · rintro ⟨⟨t, j⟩, hmem, h⟩
    cases t with
    | waiting p => cases h
    | ended k => cases h
    | asleep time' p =>
      simp only [Option.some.injEq, Prod.mk.injEq] at h
      obtain ⟨rfl, rfl⟩ := h
      exact ⟨p, List.mk_mem_zipIdx_iff_getElem?.mp hmem⟩
  · rintro ⟨p, h⟩
    exact ⟨(.asleep time p, i), List.mk_mem_zipIdx_iff_getElem?.mpr h, rfl⟩

/-- The loop moves a task that is not over, and starts one only where there is room. -/
lemma nextMove_some {time : Option Nat} (h : nextMove bound tasks = some (i, time)) :
    ∃ t p, tasks[i]? = some t ∧ t.rest = some p ∧
      (t.isWaiting = true → inProgress tasks < bound) := by
  have hwaking : ∀ {j : Nat} {at_ : Option Nat},
      (earliest (sleepers tasks)).map (fun e => (e.1, some e.2)) = some (j, at_) →
      ∃ t p, tasks[j]? = some t ∧ t.rest = some p ∧
        (t.isWaiting = true → inProgress tasks < bound) := by
    intro j at_ h
    obtain ⟨e, he, heq⟩ := Option.map_eq_some_iff.mp h
    simp only [Prod.mk.injEq] at heq
    obtain ⟨rfl, -⟩ := heq
    obtain ⟨p, hp⟩ := mem_sleepers_iff.mp (mem_of_earliest he)
    exact ⟨_, p, hp, rfl, fun hw => by cases hw⟩
  unfold nextMove at h
  split at h
  next hroom =>
    cases hf : firstWaiting tasks with
    | none =>
      rw [hf] at h
      exact hwaking h
    | some j =>
      rw [hf] at h
      simp only [Option.some.injEq, Prod.mk.injEq] at h
      obtain ⟨rfl, -⟩ := h
      obtain ⟨hlt, hw, -⟩ := List.findIdx?_eq_some_iff_getElem.mp hf
      cases ht : tasks[j] with
      | waiting p =>
        exact ⟨_, p, by rw [List.getElem?_eq_getElem hlt, ht], rfl, fun _ => hroom⟩
      | asleep time p => simp [ht, Task.isWaiting] at hw
      | ended k => simp [ht, Task.isWaiting] at hw
  next => exact hwaking h

/-- The loop stops only where no task is left to wake. -/
lemma sleepers_eq_nil_of_nextMove (h : nextMove bound tasks = none) : sleepers tasks = [] := by
  unfold nextMove at h
  refine eq_nil_of_earliest ?_
  split at h
  · cases hf : firstWaiting tasks with
    | none =>
      rw [hf] at h
      exact Option.map_eq_none_iff.mp h
    | some j =>
      rw [hf] at h
      cases h
  · exact Option.map_eq_none_iff.mp h

/-- With room for a task, the loop stops only where no task is left to start. -/
lemma firstWaiting_eq_none_of_nextMove (h : nextMove bound tasks = none)
    (hroom : inProgress tasks < bound) : firstWaiting tasks = none := by
  unfold nextMove at h
  rw [if_pos hroom] at h
  cases hf : firstWaiting tasks with
  | none => rfl
  | some j =>
    rw [hf] at h
    cases h

/-- Where no task sleeps, none is in progress. -/
lemma inProgress_eq_zero (h : sleepers tasks = []) : inProgress tasks = 0 := by
  refine List.countP_eq_zero.mpr fun t ht hin => ?_
  cases t with
  | waiting p => cases hin
  | ended k => cases hin
  | asleep time p =>
    obtain ⟨i, hi⟩ := List.mem_iff_getElem?.mp ht
    have hmem : (i, time) ∈ sleepers tasks := mem_sleepers_iff.mpr ⟨p, hi⟩
    rw [h] at hmem
    cases hmem

/-- With room for a task, the loop stops only where all tasks are over. -/
lemma rest_eq_none_of_nextMove (hb : 1 ≤ bound) (h : nextMove bound tasks = none) :
    ∀ t ∈ tasks, t.rest = none := by
  have hidle := inProgress_eq_zero (sleepers_eq_nil_of_nextMove h)
  have hfirst := firstWaiting_eq_none_of_nextMove h (by omega)
  intro t ht
  have hstarted : t.isWaiting ≠ true := by
    simpa using List.findIdx?_eq_none_iff.mp hfirst t ht
  have hawake : ¬t.inProgress = true := List.countP_eq_zero.mp hidle t ht
  cases t with
  | ended k => rfl
  | asleep time p => exact absurd rfl hawake
  | waiting p => exact absurd rfl hstarted

/-! ### One move -/

/-- The clock may move between two moves. -/
lemma between_atTime (time : Option Nat) :
    (between tasks b).atTime s time = between tasks (atTime s time b) := by
  simp [between, State.atTime]

/-- A task in progress does not wait for room. -/
lemma room_of_asleep {time n : Nat} (h : (Task.asleep time p).isWaiting = true) :
    inProgress tasks < n := by
  cases h

/-- Handing a result in and receiving it at once are two steps. -/
lemma reaches_report (r : Result) (next : Unit → Proc Unit) :
    Step s bound mortal (advance s i (.ask (.report r) next) (between tasks b))
      (between (tasks.set i (.asleep (s.clock b.world) (next ()))) (receive s (i, r) b)) := by
  have hflight : (advance s i (.ask (.report r) next) (between tasks b)).inFlight = [(i, r)] :=
    List.drop_left
  exact .receive hflight

/-- Whatever a move of the loop does with a task, the machine can do in some steps. -/
lemma reaches_runUntilYield (time : Option Nat) (ht : tasks[i]? = some t) (hp : t.rest = some p)
    (room : t.isWaiting = true → inProgress tasks < bound) :
    Reaches s bound mortal (between tasks b)
      (between (tasks.set i (taskOf (s.runUntilYield i p (atTime s time b)).1))
        (s.runUntilYield i p (atTime s time b)).2) := by
  induction p generalizing tasks t time b with
  | done u =>
    have hwork : Step s bound mortal (between tasks b) _ := .work time ht hp room
    rw [between_atTime] at hwork
    exact .single hwork
  | ask q next ih =>
    have hwork : Step s bound mortal (between tasks b) _ := .work time ht hp room
    rw [between_atTime] at hwork
    generalize atTime s time b = b at hwork ⊢
    have hlt : i < tasks.length := (List.getElem?_eq_some_iff.mp ht).1
    -- After its first request the task is in progress, and nothing needs to be waited for.
    have hrest : ∀ (time' : Nat) (r : q.Reply) (b' : Batch σ),
        Reaches s bound mortal (between (tasks.set i (.asleep time' (next r))) b')
          (between (tasks.set i (taskOf (s.runUntilYield i (next r) b').1))
            (s.runUntilYield i (next r) b').2) := by
      intro time' r b'
      have hset : (tasks.set i (.asleep time' (next r)))[i]? = some (.asleep time' (next r)) :=
        List.getElem?_set_self hlt
      have hyield := ih r none hset rfl room_of_asleep (b := b')
      rwa [List.set_set] at hyield
    by_cases hq : ∃ r, q = .report r
    · obtain ⟨r, rfl⟩ := hq
      exact (Relation.ReflTransGen.single hwork).tail (reaches_report r next) |>.trans
        (hrest _ () _)
    · push Not at hq
      refine (Relation.ReflTransGen.single hwork).trans ?_
      rw [runUntilYield, respond_of_ne_report hq]
      have hadv := advanced_advance s i (.ask q next) (between tasks b)
      generalize advance s i (.ask q next) (between tasks b) = st at hadv
      cases hadv with
      | sent r => exact absurd rfl (hq r)
      | crashed _ _ ha =>
        rw [show s.answer q b.world = _ from ha]
        exact .refl
      | @replied _ _ _ afterMs r world ha =>
        rw [show s.answer q b.world = _ from ha]
        simp only
        split
        next => exact hrest _ r ⟨world, b.received⟩
        next => exact .refl

/-! ### The loop, move by move -/

/-- One move of the loop: the task that goes on next does so until it has to wait. -/
def move (s : Surroundings σ) (bound : Nat) (e : List Task × Batch σ) : List Task × Batch σ :=
  match nextMove bound e.1 with
  | none => e
  | some (i, time) =>
    match e.1[i]?.bind Task.rest with
    | none => e
    | some p =>
      (e.1.set i (taskOf (s.runUntilYield i p (atTime s time e.2)).1),
        (s.runUntilYield i p (atTime s time e.2)).2)

/-- A move is one of a task that is not over. -/
lemma exists_move_eq {time : Option Nat} (hm : nextMove bound tasks = some (i, time)) :
    ∃ t p, tasks[i]? = some t ∧ t.rest = some p ∧
      (t.isWaiting = true → inProgress tasks < bound) ∧
      move s bound (tasks, b) =
        (tasks.set i (taskOf (s.runUntilYield i p (atTime s time b)).1),
          (s.runUntilYield i p (atTime s time b)).2) := by
  obtain ⟨t, p, ht, hp, room⟩ := nextMove_some hm
  refine ⟨t, p, ht, hp, room, ?_⟩
  unfold move
  rw [hm]
  simp only [ht, Option.bind_some, hp]

/-- Where no move is left the loop ends. -/
lemma runTasks_of_nextMove_eq_none (h : nextMove bound tasks = none) :
    runTasks s bound tasks b = (tasks, b) := by
  rw [runTasks, h]

/-- A move of the loop does not change where the loop ends. -/
lemma runTasks_move (tasks : List Task) (b : Batch σ) :
    runTasks s bound (move s bound (tasks, b)).1 (move s bound (tasks, b)).2 =
      runTasks s bound tasks b := by
  cases hm : nextMove bound tasks with
  | none => simp only [move, hm]
  | some e =>
    obtain ⟨t, p, ht, hp, -, hmove⟩ := exists_move_eq (s := s) (b := b) hm
    rw [hmove]
    conv_rhs => rw [runTasks, hm]
    simp only
    split
    next hnone => cases ht.symm.trans hnone
    next t' ht' =>
      cases Option.some.inj (ht'.symm.trans ht)
      split
      next hnone => cases hp.symm.trans hnone
      next p' hp' =>
        cases Option.some.inj (hp'.symm.trans hp)
        rfl

/-- Moves until none is left come to where the loop ends. -/
lemma runTasks_of_iterate_move (n : Nat)
    (h : nextMove bound ((move s bound)^[n] (tasks, b)).1 = none) :
    runTasks s bound tasks b = (move s bound)^[n] (tasks, b) := by
  induction n generalizing tasks b with
  | zero => exact runTasks_of_nextMove_eq_none h
  | succ n ih => exact (runTasks_move tasks b).symm.trans (ih h)

/-! ### The whole run -/

/-- The loop makes a run of the machine, and stops where all tasks are over. -/
theorem exists_finished_runTasks (mortal : Prop) (hb : 1 ≤ bound) (tasks : List Task)
    (b : Batch σ) :
    Reaches s bound mortal (between tasks b)
        (between (runTasks s bound tasks b).1 (runTasks s bound tasks b).2) ∧
      (between (runTasks s bound tasks b).1 (runTasks s bound tasks b).2).Finished := by
  induction tasks using Progress.wellFounded.induction generalizing b with
  | h tasks ih =>
    cases hm : nextMove bound tasks with
    | none =>
      rw [runTasks_of_nextMove_eq_none hm]
      exact ⟨.refl, rest_eq_none_of_nextMove hb hm, List.drop_length⟩
    | some e =>
      obtain ⟨i, time⟩ := e
      obtain ⟨t, p, ht, hp, room, hmove⟩ := exists_move_eq (s := s) (b := b) hm
      have hless := Progress.set ht (less_taskOf s i (b := atTime s time b) hp)
      obtain ⟨hrun, hfinished⟩ := ih _ hless (s.runUntilYield i p (atTime s time b)).2
      rw [← runTasks_move tasks b, hmove]
      exact ⟨(reaches_runUntilYield time ht hp room).trans hrun, hfinished⟩

/-- A pool with permits for its workers delivers what the machine has received in one of its
finished states, joined with what dead tasks left out. -/
theorem exists_joined_eq_runGroups (s : Surroundings σ) (label : Nat → String) (x : Executor)
    {workers : Nat} (hpermits : Pool.bound workers ≤ maxPermits) (groups : List ServiceGroup)
    (w : σ) (mortal : Prop) :
    ∃ st, Reaches s (Pool.bound workers) mortal (start x groups w) st ∧ st.Finished ∧
      runGroups s label x workers groups ⟨w, []⟩ = .ok (joined s label groups st) := by
  obtain ⟨hrun, hfinished⟩ := exists_finished_runTasks (s := s) mortal (le_max_left 1 workers)
    (groups.map fun g => Task.waiting (x.batch g.cases)) ⟨w, []⟩
  exact ⟨_, hrun, hfinished, runGroups_of_le s label x groups ⟨w, []⟩ hpermits⟩

end Pool

end Retrial
