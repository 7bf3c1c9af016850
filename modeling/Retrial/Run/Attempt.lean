import Retrial.Run.Proc
import Retrial.Settings.Engine
import Retrial.Text.CharClass

/-!
# Running one case

A case that carries a skipped tag is not run, and one whose module cannot be loaded fails at once.
Any other case is attempted until it passes or nothing is left to try. After a failed attempt a
retry comes first: a failure of a known pattern is retried after the delay of the pattern's policy
while the attempt is within the policy's retries, and the next attempt's outcome is fed back to the
policy. Failing that, a fix is asked for, while fixes are allowed and attempts are left. A failure
that neither helps ends the case and enters the pattern store.

Every attempt has a context of its own, which is torn down and then released whatever came of the
attempt.

Attempts are counted here without a bound. The program counts them in 32 bits; the two counts are
the same as long as no policy allows as many retries as 32 bits can name.
-/

namespace Retrial

open Text
open Time (Instant)

/-- How cases are run: the settings, and whether anybody can be asked for fixes. -/
structure Executor where
  settings : EngineSettings
  hasHealer : Bool
deriving Inhabited

/-- What one run of a module comes to. -/
def RunEnd.outcome (limitSecs : Option Nat) : RunEnd → Except Failure Unit
  | .passed => .ok ()
  | .failed f => .error f
  | .crashed c => .error (.ofMessage ("test panicked: " ++ c.message))
  | .timedOut =>
    .error (.ofMessage
      ("test execution timed out after " ++ toString (limitSecs.getD 0) ++ " seconds"))

/-- The failure of an attempt that has no context. -/
def setupFailure (c : Crash) : Failure := .ofMessage ("context setup panicked: " ++ c.message)

/-- A fix that says something. -/
def acceptedFix (reply : Except Crash (Option String)) : Option String :=
  match reply with
  | .ok (some fix) => if isBlankText fix then none else some fix
  | _ => none

/-- Whether a process succeeded. -/
def succeeded (outcome : Except Failure Unit) : Bool :=
  match outcome with
  | .ok _ => true
  | .error _ => false

/-- The result with what an attempt's failure leaves on it. -/
def Result.withFailure (r : Result) (f : Failure) : Result :=
  { r with
    errorMessage := some f.message
    stackTrace := if f.trace == "" then none else some f.trace }

/-- The result of a case that passed. -/
def Result.success (now : Instant) (r : Result) (retried : Bool) : Result :=
  { r with
    status := if r.healed then .healed else if retried then .flaky else .passed
    errorMessage := none
    stackTrace := none }.finish now

/-- The result with a fix applied. -/
def Result.withFix (r : Result) (fix : String) : Result :=
  { r with healed := true, healingApplied := some fix }

namespace Executor

open Proc (request)

/-- One attempt on a context of its own. -/
def attempt (x : Executor) (c : Case) : Proc (Except Failure Unit) := do
  match ← request (.build c) with
  | .error crash => return .error (setupFailure crash)
  | .ok () =>
    let ended ← request (.invoke c x.settings.timeoutSecs)
    let _ ← request (.teardown c)
    request (.release c)
    return ended.outcome x.settings.timeoutSecs

/-- Feeds the outcome of a retry back to the policy that granted it. -/
def feedBack (awaiting : Option String) (outcome : Except Failure Unit) : Proc Unit :=
  match awaiting with
  | none => return ()
  | some id => request (.feedback id (succeeded outcome))

/-- Whether a fix may be asked for after an attempt. -/
def mayHeal (x : Executor) (attempt : Nat) : Bool :=
  x.settings.selfHealing && decide (attempt < x.settings.baseAttempts) && x.hasHealer

/-- Ends a case with its last failure, which enters the pattern store. -/
def fail (c : Case) (r : Result) (f : Failure) : Proc Result := do
  let now ← request .now
  let _ ← request (.record c.id f)
  return { r with status := .failed }.finish now

/-- Ends a case whose attempts are used up without a decision. -/
def giveUp (r : Result) : Proc Result := do
  let now ← request .now
  return { r with status := .failed }.finish now

/-- The number of attempts that no case reaches. -/
def attemptLimit (x : Executor) : Nat := max x.settings.baseAttempts UInt32.size

theorem lt_attemptLimit_of_retry {x : Executor} {n : Nat} {m : UInt32} (h : n + 1 ≤ m.toNat) :
    n < x.attemptLimit := by
  have : m.toNat < UInt32.size := m.toNat_lt_size
  unfold attemptLimit
  omega

theorem lt_attemptLimit_of_heal {x : Executor} {n : Nat} (h : x.mayHeal (n + 1) = true) :
    n < x.attemptLimit := by
  simp only [mayHeal, Bool.and_eq_true, decide_eq_true_eq] at h
  unfold attemptLimit
  omega

/-- Attempts a case after `done` attempts. `granted` says that the last one was granted a retry,
`retried` that any was, and `awaiting` names the pattern whose policy waits for the outcome. What
`usedUp` says becomes of a case when no attempt is left. -/
def attemptFrom (x : Executor) (c : Case) (usedUp : Result → Proc Result) (done : Nat) (r : Result)
    (granted retried : Bool) (awaiting : Option String) : Proc Result :=
  if done < x.settings.baseAttempts || granted then do
    let r := { r with attempts := done + 1 }
    let outcome ← x.attempt c
    feedBack awaiting outcome
    match outcome with
    | .ok () =>
      let now ← request .now
      return r.success now retried
    | .error f =>
      let r := r.withFailure f
      let next (_ : Unit) : Proc Result :=
        if _h : x.mayHeal (done + 1) = true then do
          match acceptedFix (← request (.heal c f)) with
          | some fix => x.attemptFrom c usedUp (done + 1) (r.withFix fix) false retried none
          | none => fail c r f
        else fail c r f
      match ← request (.detect f) with
      | none => next ()
      | some p => do
        let policy : RetryPolicy ← request (.policy p.patternId)
        if _h : done + 1 ≤ policy.maxRetries.toNat then do
          request (.pause (policy.delay (done + 1)))
          x.attemptFrom c usedUp (done + 1) r true true (some p.patternId)
        else next ()
  else usedUp r
termination_by x.attemptLimit - done
decreasing_by
  · have := lt_attemptLimit_of_heal _h
    omega
  · have := lt_attemptLimit_of_retry (x := x) _h
    omega

/-- Runs one case. -/
def execute (x : Executor) (c : Case) : Proc Result := do
  match x.settings.skipTags.find? c.hasTag with
  | some tag =>
    let start ← request .now
    let finish ← request .now
    return Result.skipped start finish c.id ("Skipped by tag '" ++ tag ++ "'")
  | none =>
    let start ← request .now
    let r := Result.pending start c.id
    match ← request (.load c) with
    | .error fault =>
      let now ← request .now
      return { r with
        attempts := 1, status := .failed, errorMessage := some fault.message }.finish now
    | .ok () => x.attemptFrom c giveUp 0 { r with status := .running } false false none

/-- Runs cases one after another and reports each result. -/
def batch (x : Executor) : List Case → Proc Unit
  | [] => return ()
  | c :: rest => do
    let r ← x.execute c
    request (.report r)
    x.batch rest

end Executor

end Retrial
