import Mathlib
import Retrial.Run.Pool

/-!
# The pool as a machine

The pool of `Run/Pool` keeps to one schedule: the first group that can go on does, until it has to
wait.  Here the tasks take their steps in any order.  A step answers one request of one task, at
whatever time; a result is *handed in* by the task and *received* by the pool in two separate steps,
and what has been handed in waits in between, first in, first out.  A task that has not started
needs room among those in progress.  Where tasks are mortal, one that is not over may also die of
itself at any point: before its first request, between two requests, or after it has handed in its
last result.

When all tasks are over and everything handed in has been received, the pool reports what dead tasks
have left out (`joined`).  Every run comes to such a state: steps cannot go on for ever
(`Step.wellFounded`), and before that there is always a next one (`exists_step`).
-/

namespace Retrial

namespace Pool

variable {σ : Type}

/-- A state of a pool: where the tasks stand, the results they have handed in, in that order and
each with the number of its group, and what the pool has received of them. -/
structure State (σ : Type) where
  /-- The tasks of the groups. -/
  tasks : List Task
  /-- The results handed in so far. -/
  sent : List (Nat × Result)
  /-- The surroundings and the results received so far. -/
  batch : Batch σ

namespace State

/-- What has been handed in and not received. -/
def inFlight (st : State σ) : List (Nat × Result) := st.sent.drop st.batch.received.length

/-- All tasks are over, and everything handed in has been received. -/
def Finished (st : State σ) : Prop := (∀ t ∈ st.tasks, t.rest = none) ∧ st.inFlight = []

/-- The state in which the task of a group has become another. -/
def put (st : State σ) (i : Nat) (t : Task) : State σ := { st with tasks := st.tasks.set i t }

/-- The state at a time, if there is one to wait for. -/
def atTime (s : Surroundings σ) (time : Option Nat) (st : State σ) : State σ :=
  { st with batch := Pool.atTime s time st.batch }

end State

@[simp] lemma atTime_received (s : Surroundings σ) (time : Option Nat) (b : Batch σ) :
    (atTime s time b).received = b.received := by
  cases time <;> rfl

/-- The batch that has received one more result. -/
def receive (s : Surroundings σ) (e : Nat × Result) (b : Batch σ) : Batch σ :=
  ⟨s.progress e.2 b.world, b.received ++ [e]⟩

/-- What the task of a group does with what it still has to do: it ends, hands a result in, or makes
a request, the answer to which may be a crash. -/
def advance (s : Surroundings σ) (i : Nat) : Proc Unit → State σ → State σ
  | .done (), st => st.put i (.ended none)
  | .ask (.report r) next, st =>
    { st.put i (.asleep (s.clock st.batch.world) (next ())) with sent := st.sent ++ [(i, r)] }
  | .ask q next, st =>
    match s.answer q st.batch.world with
    | (.reply afterMs r, world) =>
      { st.put i (.asleep (s.clock world + afterMs) (next r)) with
        batch := { st.batch with world } }
    | (.crash c, world) =>
      { st.put i (.ended (some c)) with batch := { st.batch with world } }

/-- One step of a pool with room for `bound` tasks in progress.  Whether tasks may die of themselves
is up to `mortal`. -/
inductive Step (s : Surroundings σ) (bound : Nat) (mortal : Prop) : State σ → State σ → Prop
  /-- A task goes on, and starts if it has not. -/
  | work {st : State σ} {i : Nat} {t : Task} {p : Proc Unit} (time : Option Nat)
      (ht : st.tasks[i]? = some t) (hp : t.rest = some p)
      (room : t.isWaiting = true → inProgress st.tasks < bound) :
      Step s bound mortal st (advance s i p (st.atTime s time))
  /-- A task that is not over dies. -/
  | die {st : State σ} {i : Nat} {t : Task} {p : Proc Unit} (hm : mortal) (c : Crash)
      (ht : st.tasks[i]? = some t) (hp : t.rest = some p) :
      Step s bound mortal st (st.put i (.ended (some c)))
  /-- The pool receives the result that has waited longest. -/
  | receive {st : State σ} {e : Nat × Result} {rest : List (Nat × Result)}
      (h : st.inFlight = e :: rest) :
      Step s bound mortal st { st with batch := receive s e st.batch }

/-- `Reaches s bound mortal st st'`: some steps lead from one state to the other. -/
def Reaches (s : Surroundings σ) (bound : Nat) (mortal : Prop) : State σ → State σ → Prop :=
  Relation.ReflTransGen (Step s bound mortal)

/-- The state before the first step. -/
def start (x : Executor) (groups : List ServiceGroup) (world : σ) : State σ :=
  ⟨groups.map fun g => .waiting (x.batch g.cases), [], ⟨world, []⟩⟩

/-- What the pool has received in the end, once it has reported what dead tasks left out. -/
def joined (s : Surroundings σ) (label : Nat → String) (groups : List ServiceGroup) (st : State σ) :
    Batch σ :=
  reportDead s label ((groups.zip st.tasks).zipIdx.map fun e => (e.2, e.1)) st.batch

variable {s : Surroundings σ} {bound : Nat} {mortal : Prop} {st st' : State σ}

/-! ### What a task can do -/

/-- The ways in which a task goes on. -/
inductive Advanced (s : Surroundings σ) (i : Nat) (st : State σ) : Proc Unit → State σ → Prop
  | ended : Advanced s i st (.done ()) (st.put i (.ended none))
  | sent (r : Result) (next : Unit → Proc Unit) :
      Advanced s i st (.ask (.report r) next)
        { st.put i (.asleep (s.clock st.batch.world) (next ())) with sent := st.sent ++ [(i, r)] }
  | replied {q : Request} (next : q.Reply → Proc Unit) (hq : ∀ r, q ≠ .report r) {afterMs : Nat}
      {r : q.Reply} {world : σ} (ha : s.answer q st.batch.world = (.reply afterMs r, world)) :
      Advanced s i st (.ask q next)
        { st.put i (.asleep (s.clock world + afterMs) (next r)) with
          batch := { st.batch with world } }
  | crashed {q : Request} (next : q.Reply → Proc Unit) (hq : ∀ r, q ≠ .report r) {c : Crash}
      {world : σ} (ha : s.answer q st.batch.world = (.crash c, world)) :
      Advanced s i st (.ask q next)
        { st.put i (.ended (some c)) with batch := { st.batch with world } }

/-- A task goes on in one of these ways. -/
lemma advanced_advance (s : Surroundings σ) (i : Nat) (p : Proc Unit) (st : State σ) :
    Advanced s i st p (advance s i p st) := by
  unfold advance
  split
  · exact .ended
  · exact .sent _ _
  next q next hq =>
    have hq' : ∀ r, q ≠ .report r := by
      rintro r rfl
      exact hq r next rfl HEq.rfl
    split
    next ha => exact .replied next hq' ha
    next ha => exact .crashed next hq' ha

/-- A task that has come to its end is nearer to it than one that has not. -/
lemma less_of_rest_none {t t' : Task} {p : Proc Unit} (hp : t.rest = some p) (h : t'.rest = none) :
    Task.Less t' t := by
  simp only [Task.Less, hp, h]

/-- A task that has a later part left to do is nearer to its end. -/
lemma less_of_below {t t' : Task} {p p' : Proc Unit} (hp : t.rest = some p)
    (h : t'.rest = some p') (hb : Proc.Below p' p) : Task.Less t' t := by
  simpa only [Task.Less, hp, h] using hb

/-- A task that has gone on is nearer to its end. -/
lemma progress_advance {i : Nat} {t : Task} {p : Proc Unit} (ht : st.tasks[i]? = some t)
    (hp : t.rest = some p) : Progress (advance s i p st).tasks st.tasks := by
  have h := advanced_advance s i p st
  generalize advance s i p st = st' at h ⊢
  cases h with
  | ended => exact Progress.set ht (less_of_rest_none hp rfl)
  | sent r next => exact Progress.set ht (less_of_below hp rfl (.next (.report r) next ()))
  | replied next hq ha => exact Progress.set ht (less_of_below hp rfl (.next _ next _))
  | crashed next hq ha => exact Progress.set ht (less_of_rest_none hp rfl)

/-! ### Every run ends -/

/-- What is left to receive once the oldest result has been received. -/
lemma inFlight_receive {e : Nat × Result} {rest : List (Nat × Result)}
    (h : st.inFlight = e :: rest) :
    ({ st with batch := receive s e st.batch } : State σ).inFlight = rest := by
  unfold State.inFlight at h
  have hdrop := congrArg (List.drop 1) h
  rw [List.drop_drop, List.drop_one, List.tail_cons] at hdrop
  simp only [State.inFlight, receive, List.length_append, List.length_singleton]
  exact hdrop

/-- A step brings the tasks nearer to their ends, or leaves them and receives a result. -/
lemma Step.decreases (h : Step s bound mortal st st') :
    Prod.Lex Progress (· < ·) (st'.tasks, st'.inFlight.length) (st.tasks, st.inFlight.length) := by
  cases h with
  | @work i t p time ht hp room =>
    have hat : (st.atTime s time).tasks[i]? = some t := ht
    exact .left _ _ (progress_advance hat hp)
  | die hm c ht hp =>
    exact .left _ _ (Progress.set ht (less_of_rest_none hp rfl))
  | @receive e rest h =>
    refine .right _ ?_
    rw [inFlight_receive h, h]
    exact Nat.lt_succ_self _

/-- Steps cannot go on for ever. -/
lemma Step.wellFounded (s : Surroundings σ) (bound : Nat) (mortal : Prop) :
    WellFounded fun st' st => Step s bound mortal st st' := by
  have hlex : WellFounded (Prod.Lex Progress (· < · : Nat → Nat → Prop)) :=
    WellFounded.prod_lex Progress.wellFounded Nat.lt_wfRel.wf
  exact Subrelation.wf (fun h => Step.decreases h)
    (InvImage.wf (fun st : State σ => (st.tasks, st.inFlight.length)) hlex)

/-- With room for a task, a state that is not finished has a next step: a task in progress can go
on, and where none is in progress one that waits can start. -/
lemma exists_step (hb : 1 ≤ bound) (h : ¬st.Finished) : ∃ st', Step s bound mortal st st' := by
  by_cases hover : ∀ t ∈ st.tasks, t.rest = none
  · have hflight : st.inFlight ≠ [] := fun hnil => h ⟨hover, hnil⟩
    obtain ⟨e, rest, he⟩ := List.exists_cons_of_ne_nil hflight
    exact ⟨_, .receive he⟩
  · push Not at hover
    obtain ⟨t, ht, hrest⟩ := hover
    by_cases hp : inProgress st.tasks = 0
    · obtain ⟨p, hp'⟩ := Option.ne_none_iff_exists'.mp hrest
      obtain ⟨i, hi⟩ := List.mem_iff_getElem?.mp ht
      exact ⟨_, .work none hi hp' fun _ => by omega⟩
    · obtain ⟨u, hu, hin⟩ := List.countP_pos_iff.mp (Nat.pos_of_ne_zero hp)
      obtain ⟨i, hi⟩ := List.mem_iff_getElem?.mp hu
      cases u with
      | waiting p => simp [Task.inProgress] at hin
      | ended c => simp [Task.inProgress] at hin
      | asleep time p => exact ⟨_, .work none hi rfl fun hw => by simp [Task.isWaiting] at hw⟩

end Pool

end Retrial
