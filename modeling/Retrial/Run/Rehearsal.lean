import Retrial.Run.Context
import Retrial.Run.World

/-!
# Rehearsals

A rehearsal runs cases with collaborators that follow scripts. A script says for each call of a
collaborator what happens, call by call; a rehearsal counts the calls and keeps a log of everything
the collaborators were asked, with the time on the clock. So the engine's decisions can be watched
without any real module.
-/

namespace Retrial

/-- What happens at the calls of one collaborator, the first call first. -/
structure Script (α : Type) where
  cues : List α
  /-- Whether the last cue holds for all later calls. -/
  lastRepeats : Bool
deriving Inhabited

/-- The cue of a call, counted from one. Past the end it is the last cue if that repeats, else the
blank one. -/
def Script.cue {α : Type} (s : Script α) (blank : α) (call : Nat) : α :=
  match s.cues[call - 1]? with
  | some cue => cue
  | none => if s.lastRepeats then s.cues.getLast?.getD blank else blank

/-- What happens at a run of a module. -/
structure RunCue where
  /-- The run crashes before it begins, outside what contains its crashes. -/
  outright : Option Crash := none
  ms : Nat := 0
  how : RunEnd := .passed
deriving Inhabited

/-- What happens when a healer is asked. -/
structure HealCue where
  /-- The healer crashes before it begins, outside what contains its crashes. -/
  outright : Option Crash := none
  ms : Nat := 0
  fix : Except Crash (Option String) := .ok none
deriving Inhabited

/-- What happens when a context is torn down. -/
structure TeardownCue where
  ms : Nat := 0
  how : TeardownEnd := .done
deriving Inhabited

/-- What stands behind the reference of a module. -/
inductive StagedModule
  | scripted (s : Script RunCue)
  /-- The loader crashes over it. -/
  | unloadable (c : Crash)

/-- The scripts of the contexts. -/
structure StagedContexts where
  build : Script (Option Crash)
  teardown : Script TeardownCue

/-- The scripts of all collaborators. Without scripts for the contexts every context is fresh and
empty, and runs of modules look at it. -/
structure Stage where
  modules : Registry StagedModule
  healer : Script HealCue
  contexts : Option StagedContexts

/-- Something a collaborator was asked, or looked at, at a time on the clock. -/
inductive Happening
  | run (at_ : Nat) (moduleRef : String) (call : Nat)
  /-- A run looked at a fresh context and found it unused. -/
  | context (at_ : Nat)
  | build (at_ call : Nat)
  | teardown (at_ call : Nat)
  | heal (at_ : Nat) (caseId : String) (call : Nat) (failure : Failure)
deriving DecidableEq, Repr

/-- A result that was reported, and when. -/
structure Notice where
  at_ : Nat
  testId : String
  status : Status
deriving DecidableEq, Repr

/-- The scripts, the numbers of calls so far, and the log since it was last cleared. -/
structure Rehearsal where
  stage : Stage
  runs : Dict Nat
  heals : Nat
  builds : Nat
  teardowns : Nat
  happenings : List Happening
  notices : List Notice

namespace Rehearsal

/-- A rehearsal before its first call. -/
def ofStage (stage : Stage) : Rehearsal := ⟨stage, Dict.empty, 0, 0, 0, [], []⟩

/-- The rehearsal with one more thing in its log. -/
def note (r : Rehearsal) (h : Happening) : Rehearsal := { r with happenings := r.happenings ++ [h] }

/-- The rehearsal with an empty log. -/
def cleared (r : Rehearsal) : Rehearsal := { r with happenings := [], notices := [] }

/-- Loads the module of a case. -/
def load (c : Case) (r : Rehearsal) : Except LoadFault Unit × Rehearsal :=
  match r.stage.modules.load c.moduleRef with
  | .error fault => (.error (.engine fault), r)
  | .ok (.unloadable c) => (.error (.crashed c), r)
  | .ok (.scripted _) => (.ok (), r)

/-- Builds a context. -/
def build (time : Nat) (_ : Case) (r : Rehearsal) : Except Crash Unit × Rehearsal :=
  match r.stage.contexts with
  | none => (.ok (), r)
  | some s =>
    let call := r.builds + 1
    let r := { r with builds := call }.note (.build time call)
    match s.build.cue none call with
    | some crash => (.error crash, r)
    | none => (.ok (), r)

/-- The script of a module; one that has none passes every run. -/
def moduleScript (r : Rehearsal) (moduleRef : String) : Script RunCue :=
  match r.stage.modules.load moduleRef with
  | .ok (.scripted s) => s
  | _ => ⟨[], false⟩

/-- Runs the module of a case. -/
def invoke (time : Nat) (c : Case) (r : Rehearsal) : Invocation × Rehearsal :=
  let call := (r.runs.get? c.moduleRef).getD 0 + 1
  let cue := (r.moduleScript c.moduleRef).cue {} call
  let r := { r with runs := r.runs.insert c.moduleRef call }.note (.run time c.moduleRef call)
  match cue.outright with
  | some crash => (.crashes crash, r)
  | none =>
    let r := if r.stage.contexts.isNone then r.note (.context time) else r
    (.ends cue.ms cue.how, r)

/-- Tears a context down. -/
def teardown (time : Nat) (_ : Case) (r : Rehearsal) : Closing × Rehearsal :=
  match r.stage.contexts with
  | none => (.ends 0 .done, r)
  | some s =>
    let call := r.teardowns + 1
    let cue := s.teardown.cue {} call
    (.ends cue.ms cue.how, { r with teardowns := call }.note (.teardown time call))

/-- Lets go of a context; nothing of it is left. -/
def release (_ : Nat) (_ : Case) (r : Rehearsal) : Option Crash × Rehearsal := (none, r)

/-- Asks for a fix. -/
def heal (time : Nat) (c : Case) (f : Failure) (r : Rehearsal) : Healing × Rehearsal :=
  let call := r.heals + 1
  let cue := r.stage.healer.cue {} call
  let r := { r with heals := call }.note (.heal time c.id call f)
  match cue.outright with
  | some crash => (.crashes crash, r)
  | none => (.answers cue.ms cue.fix, r)

/-- Notices a result. -/
def progress (time : Nat) (x : Result) (r : Rehearsal) : Rehearsal :=
  { r with notices := r.notices ++ [⟨time, x.testId, x.status⟩] }

/-- Collaborators that follow their scripts. -/
def collaborators : Collaborators Rehearsal where
  load := load
  build := build
  invoke := invoke
  teardown := teardown
  release := release
  heal := heal
  progress := progress

end Rehearsal

end Retrial
