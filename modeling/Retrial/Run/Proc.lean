import Retrial.Case
import Retrial.Failure.Basic
import Retrial.Pattern.Basic
import Retrial.Problem
import Retrial.Result.Basic
import Retrial.Retry.Policy

/-!
# Processes

A running case asks its surroundings for things: the time, a module, a context, a fix, a pause, the
pattern store. A *process* is either done, or a request with what comes after each possible reply.
Nothing is said here about who replies and when: one process at a time or many at once, with real
modules or a script, are different ways to answer the same requests.
-/

namespace Retrial

open Time (Instant)

/-- The end of a collaborator that gave up altogether, with a text if it left one. -/
structure Crash where
  text : Option String
deriving DecidableEq, Repr, Inhabited

/-- The words for a crash. -/
def Crash.message (c : Crash) : String := c.text.getD "unknown panic payload"

/-- Why there is no module to run. -/
inductive LoadFault
  | engine (fault : EngineFault)
  | crashed (c : Crash)
deriving DecidableEq, Repr

/-- The words for a failed load. -/
def LoadFault.message : LoadFault → String
  | engine fault => fault.message
  | crashed c => "module loader panicked: " ++ c.message

/-- How one run of a module ended. -/
inductive RunEnd
  | passed
  | failed (f : Failure)
  | crashed (c : Crash)
  /-- The limit for one attempt was reached first. -/
  | timedOut
deriving DecidableEq, Repr

/-- How the teardown of a context ended. -/
inductive TeardownEnd
  | done
  | failed (message : String)
  | crashed (c : Crash)
deriving DecidableEq, Repr

/-- What a running case asks for. What a collaborator is asked names the case it is asked for. -/
inductive Request
  /-- The time. -/
  | now
  /-- The module of a case. -/
  | load (case : Case)
  /-- A fresh context. -/
  | build (case : Case)
  /-- One run of the case's module on the context, with a limit in seconds. -/
  | invoke (case : Case) (limitSecs : Option Nat)
  /-- The end of the context. -/
  | teardown (case : Case)
  /-- To be rid of what is left of the context. -/
  | release (case : Case)
  /-- A fix for a failure. -/
  | heal (case : Case) (failure : Failure)
  /-- To be left alone for some milliseconds. -/
  | pause (ms : Nat)
  /-- The pattern of a failure, which counts as an occurrence. -/
  | detect (failure : Failure)
  /-- The retry policy of a pattern. -/
  | policy (patternId : String)
  /-- To enter a failure that ended a case. -/
  | record (testId : String) (failure : Failure)
  /-- To enter the outcome of a retry. -/
  | feedback (patternId : String) (success : Bool)
  /-- To hand a result in. -/
  | report (result : Result)

/-- What comes back. -/
def Request.Reply : Request → Type
  | .now => Instant
  | .load _ => Except LoadFault Unit
  | .build _ => Except Crash Unit
  | .invoke _ _ => RunEnd
  | .teardown _ => TeardownEnd
  | .release _ => Unit
  | .heal _ _ => Except Crash (Option String)
  | .pause _ => Unit
  | .detect _ => Option Pattern
  | .policy _ => RetryPolicy
  | .record _ _ => Pattern
  | .feedback _ _ => Unit
  | .report _ => Unit

/-- A process that ends with an `α`. -/
inductive Proc (α : Type) : Type
  | done (a : α)
  | ask (q : Request) (next : q.Reply → Proc α)

namespace Proc

variable {α β : Type}

/-- One process after another. -/
def bind (p : Proc α) (f : α → Proc β) : Proc β :=
  match p with
  | .done a => f a
  | .ask q next => .ask q fun r => (next r).bind f

instance : Monad Proc where
  pure := .done
  bind := bind

/-- Asks for one thing. -/
def request (q : Request) : Proc q.Reply := .ask q .done

/-- `Below p' p`: the process `p` becomes `p'` after one or more replies. -/
inductive Below : Proc α → Proc α → Prop
  | next (q : Request) (next : q.Reply → Proc α) (r : q.Reply) : Below (next r) (.ask q next)
  | later {p : Proc α} (q : Request) (next : q.Reply → Proc α) (r : q.Reply)
      (h : Below p (next r)) : Below p (.ask q next)

theorem acc_below (p : Proc α) : Acc Below p := by
  induction p with
  | done a =>
    constructor
    intro p h
    cases h
  | ask q next ih =>
    constructor
    intro p h
    cases h with
    | next _ _ r => exact ih r
    | later _ _ r h => exact (ih r).inv h

end Proc

end Retrial
