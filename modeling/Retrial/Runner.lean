import Retrial.Run.Pool
import Retrial.Run.World
import Retrial.Statistics
import Retrial.Storage.Basic

/-!
# The runner

A runner runs batches of cases as executions, keeps each in the storage, and remembers those it ran
or loaded. Executions that could not be kept are not remembered.
-/

namespace Retrial

open Time (Instant)

/-- The runner's memory beside the settings it runs with. -/
structure Runner where
  executor : Executor
  storage : Storage
  /-- The executions run or loaded, in that order. -/
  history : List Execution
  /-- The place in the history of the last execution that was run. -/
  lastRun : Option Nat
deriving Inhabited

/-- What comes of running a batch. -/
inductive RunOutcome
  | completed (e : Execution)
  | failed (problem : Problem)
  /-- A crash that nothing contained. -/
  | crashed (c : Crash)

namespace Runner

/-- A runner with an empty memory. -/
def new (executor : Executor) (storage : Storage) : Runner := ⟨executor, storage, [], none⟩

/-- The summary of the last execution that was run. -/
def currentSummary (r : Runner) : Option Summary :=
  (r.lastRun.bind fun i => r.history[i]?).map fun e => e.summary

/-- The stored executions that the runner does not know yet. -/
def newlyLoaded (r : Runner) (loaded : List Execution) : List Execution :=
  loaded.filter fun e => !r.history.any fun known => known.id == e.id

/-- Adds what is stored to the memory; gives how many executions were added. -/
def loadHistory (r : Runner) (d : Disk) : Outcome Nat × Runner :=
  match Problem.during "Failed to load execution history" (r.storage.loadAll d) with
  | .error problem => (.error problem, r)
  | .ok loaded =>
    let added := r.newlyLoaded loaded
    (.ok added.length, { r with history := r.history ++ added })

/-- The remembered executions, the newest first: of one strategy or of all, at most `limit` of
them. -/
def executionHistory (r : Runner) (limit : Option Nat) (strategyId : Option String) :
    List Execution :=
  let matching := r.history.filter fun e => strategyId.all fun id => e.strategyId == id
  let sorted := matching.mergeSort Storage.newerFirst
  match limit with
  | none => sorted
  | some n => sorted.take n

/-- The failure statistics of the remembered executions. -/
def failureStatistics (r : Runner) (days : Int) (now : Instant) : Statistics :=
  Statistics.ofHistory r.history days now

variable {β : Type}

/-- Runs cases one after another, or by service groups if the settings say so; gives the results in
the order they were reported. -/
def runCases (r : Runner) (c : Collaborators β) (label : Nat → String) (cases : List Case)
    (w : World β) : Except Crash (List Result) × World β :=
  let s := World.surroundings c
  let b : Batch (World β) := ⟨w, []⟩
  if r.executor.settings.isParallel then
    match Pool.runGroups s label r.executor r.executor.settings.workers
      (ServiceGroup.ofCases cases) b with
    | .error crash => (.error crash, w)
    | .ok b => (.ok (b.received.map fun e => e.2), b.world)
  else
    match s.runAlone (r.executor.batch cases) b with
    | (.error crash, b) => (.error crash, b.world)
    | (.ok (), b) => (.ok (b.received.map fun e => e.2), b.world)

section RunCases

variable {r : Runner} (c : Collaborators β) (label : Nat → String) (cases : List Case) (w : World β)

theorem runCases_of_runGroups_ok (h : r.executor.settings.isParallel = true) {b : Batch (World β)}
    (hb : Pool.runGroups (World.surroundings c) label r.executor r.executor.settings.workers
      (ServiceGroup.ofCases cases) ⟨w, []⟩ = .ok b) :
    r.runCases c label cases w = (.ok (b.received.map fun e => e.2), b.world) := by
  unfold runCases
  rw [if_pos h, hb]

theorem runCases_of_runGroups_error (h : r.executor.settings.isParallel = true) {crash : Crash}
    (hb : Pool.runGroups (World.surroundings c) label r.executor r.executor.settings.workers
      (ServiceGroup.ofCases cases) ⟨w, []⟩ = .error crash) :
    r.runCases c label cases w = (.error crash, w) := by
  unfold runCases
  rw [if_pos h, hb]

theorem runCases_of_ok (h : r.executor.settings.isParallel = false) {b : Batch (World β)}
    (hb : (World.surroundings c).runAlone (r.executor.batch cases) ⟨w, []⟩ = (.ok (), b)) :
    r.runCases c label cases w = (.ok (b.received.map fun e => e.2), b.world) := by
  unfold runCases
  rw [if_neg (by simp [h]), hb]

end RunCases

/-- Runs a batch of cases as one execution, which is stored and remembered. -/
def runStrategy (r : Runner) (c : Collaborators β) (label : Nat → String) (id strategyId : String)
    (cases : List Case) (w : World β) : RunOutcome × Runner × World β :=
  let (started, w) := w.now
  let e := Execution.start started id strategyId
  match r.runCases c label cases w with
  | (.error crash, w) => (.crashed crash, r, w)
  | (.ok results, w) =>
    let (completed, w) := w.now
    let e := e.complete completed results
    let (saved, disk) := r.storage.save e w.disk
    let w := { w with disk }
    match Problem.during ("Failed to persist execution " ++ id) saved with
    | .error problem => (.failed problem, r, w)
    | .ok _ =>
      (.completed e,
        { r with history := r.history ++ [e], lastRun := some r.history.length }, w)

/-- Runs one case by itself; nothing is remembered. -/
def runCase (r : Runner) (c : Collaborators β) (case : Case) (w : World β) :
    Except Crash Result × World β :=
  let (result, b) := (World.surroundings c).runAlone (r.executor.execute case) ⟨w, []⟩
  (result, b.world)

end Runner

end Retrial
