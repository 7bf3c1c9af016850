import Retrial.Run.Attempt
import Retrial.Run.Surroundings
import Retrial.Text.Field

/-!
# The worker pool

Each service group is the task of one worker, and at most a given number of tasks are in progress at
the same time. Tasks start in order, as soon as there is room; a task in progress runs until it has
to wait, and when nothing can start, the clock moves to the earliest time that a task waits for. A
crash ends its task only: the cases of the group that have not been reported fail, and these results
follow all reported ones, in the order of the groups.

Every task in progress holds a permit, and there is a largest number of permits. A pool that is
asked for more workers crashes before any task starts.
-/

namespace Retrial

open Time (Instant)

/-- Where the task of a group stands. -/
inductive Task : Type
  /-- It has not started. -/
  | waiting (p : Proc Unit)
  /-- It is in progress and waits for a time. -/
  | asleep (until_ : Nat) (p : Proc Unit)
  /-- It has ended, or crashed. -/
  | ended (crash : Option Crash)

namespace Task

/-- What a task still has to do. -/
def rest : Task → Option (Proc Unit)
  | waiting p => some p
  | asleep _ p => some p
  | ended _ => none

/-- Whether a task is in progress. -/
def inProgress : Task → Bool
  | asleep _ _ => true
  | _ => false

/-- Whether a task has not started. -/
def isWaiting : Task → Bool
  | waiting _ => true
  | _ => false

/-- `Less t' t`: the task `t` has got further and become `t'`. -/
def Less (t' t : Task) : Prop :=
  match t.rest, t'.rest with
  | some p, some p' => Proc.Below p' p
  | some _, none => True
  | none, _ => False

theorem acc_of_rest_none {t : Task} (h : t.rest = none) : Acc Less t := by
  constructor
  intro t' h'
  simp [Less, h] at h'

theorem acc_of_rest {p : Proc Unit} : ∀ {t : Task}, t.rest = some p → Acc Less t := by
  induction Proc.acc_below p with
  | intro p _ ih =>
    intro t ht
    constructor
    intro t' h'
    simp only [Less, ht] at h'
    cases hr : t'.rest with
    | none => exact acc_of_rest_none hr
    | some p' =>
      rw [hr] at h'
      exact ih p' h' hr

theorem acc_less (t : Task) : Acc Less t := by
  cases h : t.rest with
  | none => exact acc_of_rest_none h
  | some p => exact acc_of_rest h

end Task

/-- One task of a list gets further. -/
inductive Progress : List Task → List Task → Prop
  | head {t' t : Task} {ts : List Task} (h : Task.Less t' t) : Progress (t' :: ts) (t :: ts)
  | tail {t : Task} {ts' ts : List Task} (h : Progress ts' ts) : Progress (t :: ts') (t :: ts)

namespace Progress

theorem acc_nil : Acc Progress [] := by
  constructor
  intro ts h
  cases h

theorem acc_cons {t : Task} (ht : Acc Task.Less t) :
    ∀ {ts : List Task}, Acc Progress ts → Acc Progress (t :: ts) := by
  induction ht with
  | intro t _ iht =>
    intro ts hts
    induction hts with
    | intro ts hacc ihts =>
      constructor
      intro us h
      cases h with
      | head h => exact iht _ h ⟨ts, hacc⟩
      | tail h => exact ihts _ h

theorem wellFounded : WellFounded Progress :=
  ⟨fun ts => by
    induction ts with
    | nil => exact acc_nil
    | cons t ts ih => exact acc_cons (Task.acc_less t) ih⟩

theorem set {ts : List Task} {i : Nat} {t t' : Task} (hi : ts[i]? = some t) (h : Task.Less t' t) :
    Progress (ts.set i t') ts := by
  induction ts generalizing i with
  | nil => simp at hi
  | cons u us ih =>
    cases i with
    | zero =>
      simp only [List.getElem?_cons_zero, Option.some.injEq] at hi
      subst hi
      exact .head h
    | succ i =>
      simp only [List.getElem?_cons_succ] at hi
      exact .tail (ih hi)

end Progress

instance : WellFoundedRelation (List Task) := ⟨Progress, Progress.wellFounded⟩

namespace Pool

/-- The group of the first task that has not started. -/
def firstWaiting (tasks : List Task) : Option Nat := tasks.findIdx? Task.isWaiting

/-- The tasks in progress: for each the number of its group and the time it waits for. -/
def sleepers (tasks : List Task) : List (Nat × Nat) :=
  tasks.zipIdx.filterMap fun e =>
    match e.1 with
    | .asleep t _ => some (e.2, t)
    | _ => none

/-- The entry with the earliest time; of several the first one. -/
def earliest : List (Nat × Nat) → Option (Nat × Nat)
  | [] => none
  | e :: es =>
    match earliest es with
    | none => some e
    | some f => if e.2 ≤ f.2 then some e else some f

/-- The number of tasks in progress. -/
def inProgress (tasks : List Task) : Nat := tasks.countP Task.inProgress

/-- The group whose task goes on next, given how many may be in progress, and the time it waited
for; none when all tasks are over. -/
def nextMove (bound : Nat) (tasks : List Task) : Option (Nat × Option Nat) :=
  let waking := (earliest (sleepers tasks)).map fun e => (e.1, some e.2)
  if inProgress tasks < bound then
    match firstWaiting tasks with
    | some i => some (i, none)
    | none => waking
  else waking

/-- The task that a process has become. -/
def taskOf : Surroundings.Yield Unit → Task
  | .asleep t p => .asleep t p
  | .done () => .ended none
  | .crashed c => .ended (some c)

variable {σ : Type}

/-- The batch once the clock has reached a time, if there is one to wait for. -/
def atTime (s : Surroundings σ) (time : Option Nat) (b : Batch σ) : Batch σ :=
  match time with
  | none => b
  | some t => { b with world := s.moveTo t b.world }

theorem less_taskOf (s : Surroundings σ) (group : Nat) {t : Task} {p : Proc Unit} {b : Batch σ}
    (h : t.rest = some p) : Task.Less (taskOf (s.runUntilYield group p b).1) t := by
  simp only [Task.Less, h]
  cases hy : (s.runUntilYield group p b).1 with
  | asleep _ rest => exact s.below_of_runUntilYield group hy
  | done u => trivial
  | crashed c => trivial

/-- Makes moves until all tasks are over. -/
def runTasks (s : Surroundings σ) (bound : Nat) (tasks : List Task) (b : Batch σ) :
    List Task × Batch σ :=
  match nextMove bound tasks with
  | none => (tasks, b)
  | some (group, time) =>
    match _ht : tasks[group]? with
    | none => (tasks, b)
    | some t =>
      match _hp : t.rest with
      | none => (tasks, b)
      | some p =>
        runTasks s bound (tasks.set group (taskOf (s.runUntilYield group p (atTime s time b)).1))
          (s.runUntilYield group p (atTime s time b)).2
termination_by tasks
decreasing_by exact Progress.set _ht (less_taskOf s group _hp)

/-- The words for the crash of a worker. -/
def workerFault (label : String) (c : Crash) : EngineFault :=
  .worker ("task " ++ label ++ " panicked"
    ++ match c.text with
      | none => ""
      | some text => " with message " ++ Text.messageQuoted text)

/-- The result of a case that a dead worker has not reported. -/
def lostResult (start finish : Instant) (c : Case) (fault : EngineFault) : Result :=
  { (Result.pending start c.id).withError fault.message none with
    status := .failed, attempts := 1 }.finish finish

/-- The number of results a group has handed in. -/
def reported (b : Batch σ) (group : Nat) : Nat := b.received.countP fun e => e.1 == group

/-- Reports the cases that a dead worker has not reported. -/
def reportLost (s : Surroundings σ) (group : Nat) (fault : EngineFault) :
    List Case → Batch σ → Batch σ
  | [], b => b
  | c :: rest, b =>
    let (start, world) := s.readClock b.world
    let (finish, world) := s.readClock world
    let r := lostResult start finish c fault
    reportLost s group fault rest ⟨s.progress r world, b.received ++ [(group, r)]⟩

/-- Reports what dead workers have not reported, group by group. -/
def reportDead (s : Surroundings σ) (label : Nat → String) :
    List (Nat × ServiceGroup × Task) → Batch σ → Batch σ
  | [], b => b
  | (group, g, t) :: rest, b =>
    let b :=
      match t with
      | .ended (some c) =>
        reportLost s group (workerFault (label group) c) (g.cases.drop (reported b group)) b
      | _ => b
    reportDead s label rest b

/-- How many tasks may be in progress when a number of workers is asked for: at least one. -/
def bound (workers : Nat) : Nat := max 1 workers

/-- The most permits there can be. -/
def maxPermits : Nat := Nat.pow 2 61 - 1

/-- The crash of a pool for which there are not enough permits. -/
def tooManyPermits : Crash :=
  ⟨some ("a semaphore may not have more than MAX_PERMITS permits (" ++ toString maxPermits ++ ")")⟩

/-- Runs service groups on a number of workers. -/
def runGroups (s : Surroundings σ) (label : Nat → String) (x : Executor) (workers : Nat)
    (groups : List ServiceGroup) (b : Batch σ) : Except Crash (Batch σ) :=
  if maxPermits < bound workers then .error tooManyPermits
  else
    let tasks := groups.map fun g => Task.waiting (x.batch g.cases)
    let (tasks, b) := runTasks s (bound workers) tasks b
    .ok (reportDead s label ((groups.zip tasks).zipIdx.map fun e => (e.2, e.1)) b)

section RunGroups

variable (s : Surroundings σ) (label : Nat → String) (x : Executor) {workers : Nat}
  (groups : List ServiceGroup) (b : Batch σ)

theorem runGroups_of_le (h : bound workers ≤ maxPermits) :
    runGroups s label x workers groups b =
      let e := runTasks s (bound workers) (groups.map fun g => .waiting (x.batch g.cases)) b
      .ok (reportDead s label ((groups.zip e.1).zipIdx.map fun e => (e.2, e.1)) e.2) := by
  unfold runGroups
  rw [if_neg (Nat.not_lt.mpr h)]

theorem runGroups_of_lt (h : maxPermits < bound workers) :
    runGroups s label x workers groups b = .error tooManyPermits := by
  unfold runGroups
  rw [if_pos h]

end RunGroups

end Pool

end Retrial
