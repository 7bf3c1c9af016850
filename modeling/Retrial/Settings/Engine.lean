import Retrial.Json.Record

/-!
# Settings of the engine

How a batch of cases is run: whether failures may be fixed and how many attempts that gives a case,
how many service groups run at once, how long one attempt may take, and which tags are skipped.
-/

namespace Retrial

/-- How a batch of cases is run. -/
structure EngineSettings where
  selfHealing : Bool
  /-- The attempts a case has while failures may be fixed. -/
  maxFixAttempts : Nat
  /-- The service groups that run at once; one means no parallel run. -/
  workers : Nat
  /-- The seconds one attempt may take, if there is a limit. -/
  timeoutSecs : Option Nat
  skipTags : List String
deriving DecidableEq, Repr

namespace EngineSettings

/-- The settings when nothing is said. -/
def default : EngineSettings := ⟨false, 3, 1, some 300, []⟩

instance : Inhabited EngineSettings := ⟨default⟩

/-- The attempts a case has before retries of known patterns come in. -/
def baseAttempts (s : EngineSettings) : Nat := if s.selfHealing then max s.maxFixAttempts 1 else 1

/-- Whether service groups run at the same time. -/
def isParallel (s : EngineSettings) : Bool := 1 < s.workers

/-- Lets failures be fixed, with a number of attempts. -/
def withSelfHealing (s : EngineSettings) (attempts : Nat) : EngineSettings :=
  { s with selfHealing := true, maxFixAttempts := attempts }

/-- Sets the number of service groups that run at once. -/
def withWorkers (s : EngineSettings) (n : Nat) : EngineSettings := { s with workers := n }

/-- Sets or lifts the limit for one attempt. -/
def withTimeout (s : EngineSettings) (secs : Option Nat) : EngineSettings :=
  { s with timeoutSecs := secs }

/-- Skips one more tag. -/
def withSkipTag (s : EngineSettings) (tag : String) : EngineSettings :=
  { s with skipTags := s.skipTags ++ [tag] }

/-- Why settings cannot be run with. -/
inductive Fault
  | noWorkers
  | noFixAttempts
  | noTime
deriving DecidableEq, Repr

/-- The words for a fault. -/
def Fault.message : Fault → String
  | noWorkers => "parallel_workers must be at least 1"
  | noFixAttempts => "max_auto_fix_attempts must be at least 1"
  | noTime => "test_timeout_secs must be positive when set"

/-- The first fault of settings, if there is one. -/
def fault? (s : EngineSettings) : Option Fault :=
  if s.workers == 0 then some .noWorkers
  else if s.maxFixAttempts == 0 then some .noFixAttempts
  else if s.timeoutSecs == some 0 then some .noTime
  else none

/-- Settings in records; whatever is left out has its default. -/
def codec : Json.Codec EngineSettings :=
  .record [Bool, Nat, Nat, Option Nat, List String]
    (Json.defaulted "enable_self_healing" .bool default.selfHealing,
      Json.defaulted "max_auto_fix_attempts" (.nat 32) default.maxFixAttempts,
      Json.defaulted "parallel_workers" (.nat 64) default.workers,
      Json.defaulted "test_timeout_secs" (.optional (.nat 64)) default.timeoutSecs,
      Json.defaulted "skip_tags" (.list .string) default.skipTags, ())
    (fun s => (s.selfHealing, s.maxFixAttempts, s.workers, s.timeoutSecs, s.skipTags, ()))
    (fun (selfHealing, maxFixAttempts, workers, timeoutSecs, skipTags, ()) =>
      ⟨selfHealing, maxFixAttempts, workers, timeoutSecs, skipTags⟩)

theorem one_le_baseAttempts (s : EngineSettings) : 1 ≤ s.baseAttempts := by
  unfold baseAttempts
  split <;> omega

end EngineSettings

end Retrial
