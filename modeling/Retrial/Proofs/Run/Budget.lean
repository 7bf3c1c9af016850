import Retrial.Proofs.Run.Course

/-!
# The attempts that a case can use up

How long a case can go on, and what it leaves behind, read off the log of its run: the attempts are
the contexts asked for, the *retry limit* is the largest number of retries that a policy named when
it was asked, and the *records* are the failures entered in the pattern store.

A retry may go past the attempts that the settings allow, and heals use up the same attempts, so no
single counter bounds the loop.  The bound holds because an attempt beyond the allowed ones follows
a retry, and a retry was granted by a policy that counts that attempt among its own
(`Course.attempts_le`).
-/

namespace Retrial

/-! ### Reading a log -/

/-- Whether a request asks for a context, which every attempt does first. -/
def Request.isBuild : Request → Bool
  | .build _ => true
  | _ => false

/-- The attempts in a log. -/
def attemptsIn (log : List Exchange) : Nat := log.countP fun e => e.request.isBuild

/-- The retries that the reply to a request allows: those of a policy. -/
def Exchange.allowance : Exchange → Nat
  | ⟨.policy _, policy⟩ => RetryPolicy.maxRetries policy |>.toNat
  | _ => 0

/-- The most retries that a policy in a log allows, and none if there is no policy in it. -/
def retryLimit (log : List Exchange) : Nat := log.foldr (fun e m => max e.allowance m) 0

/-- The failure that a request enters in the pattern store, with the case it ended. -/
def Request.entry? : Request → Option (String × Failure)
  | .record testId f => some (testId, f)
  | _ => none

/-- The failures that a log enters in the pattern store, each with the case it ended. -/
def recorded (log : List Exchange) : List (String × Failure) :=
  log.filterMap fun e => e.request.entry?

@[simp] lemma attemptsIn_nil : attemptsIn [] = 0 := rfl

@[simp] lemma attemptsIn_cons (e : Exchange) (log : List Exchange) :
    attemptsIn (e :: log) = attemptsIn log + if e.request.isBuild then 1 else 0 :=
  List.countP_cons

@[simp] lemma attemptsIn_append (log log' : List Exchange) :
    attemptsIn (log ++ log') = attemptsIn log + attemptsIn log' := List.countP_append

@[simp] lemma retryLimit_nil : retryLimit [] = 0 := rfl

@[simp] lemma retryLimit_cons (e : Exchange) (log : List Exchange) :
    retryLimit (e :: log) = max e.allowance (retryLimit log) := rfl

@[simp] lemma retryLimit_append (log log' : List Exchange) :
    retryLimit (log ++ log') = max (retryLimit log) (retryLimit log') := by
  induction log with
  | nil => simp
  | cons e log ih => simp [ih, max_assoc]

@[simp] lemma recorded_nil : recorded [] = [] := rfl

@[simp] lemma recorded_cons (e : Exchange) (log : List Exchange) :
    recorded (e :: log) = e.request.entry?.toList ++ recorded log := by
  cases h : e.request.entry? <;> simp [recorded, h]

@[simp] lemma recorded_append (log log' : List Exchange) :
    recorded (log ++ log') = recorded log ++ recorded log' := List.filterMap_append

namespace Executor

open Proc

variable {x : Executor} {c : Case} {n : Nat} {f : Failure} {log : List Exchange}
  {outcome : Except Failure Unit}

/-! ### The parts of a round in the log -/

/-- An attempt asks for one context. -/
lemma Attempted.attemptsIn_eq (h : Attempted x c log outcome) : attemptsIn log = 1 := by
  cases h <;> rfl

/-- An attempt enters no failure. -/
lemma Attempted.recorded_eq (h : Attempted x c log outcome) : recorded log = [] := by
  cases h <;> rfl

/-- Feedback is no attempt. -/
lemma attemptsIn_feedbackLog (awaiting : Option String) :
    attemptsIn (feedbackLog awaiting outcome) = 0 := by
  cases awaiting <;> rfl

/-- Feedback enters no failure. -/
lemma recorded_feedbackLog (awaiting : Option String) :
    recorded (feedbackLog awaiting outcome) = [] := by
  cases awaiting <;> rfl

/-- Looking a failure up is no attempt. -/
lemma Ungranted.attemptsIn_eq (h : Ungranted n f log) : attemptsIn log = 0 := by
  cases h <;> rfl

/-- Looking a failure up enters none. -/
lemma Ungranted.recorded_eq (h : Ungranted n f log) : recorded log = [] := by
  cases h <;> rfl

/-- Asking for a fix is no attempt. -/
lemma Unhealed.attemptsIn_eq (h : Unhealed x c n f log) : attemptsIn log = 0 := by
  cases h <;> rfl

/-- Asking for a fix enters no failure. -/
lemma Unhealed.recorded_eq (h : Unhealed x c n f log) : recorded log = [] := by
  cases h <;> rfl

/-! ### Whole courses -/

section Course

variable {r a : Result} {retried : Bool} {awaiting : Option String}

/-- The result counts the attempts of its course. -/
lemma Course.attempts_eq (h : Course x c n r retried awaiting log a) :
    a.attempts = n + attemptsIn log := by
  induction h with
  | pass ha now =>
    simp [ha.attemptsIn_eq, attemptsIn_feedbackLog, Request.isBuild, numbered, Result.success,
      Result.finish]
  | retry ha p policy hp _ ih =>
    simp [ih, ha.attemptsIn_eq, attemptsIn_feedbackLog, Request.isBuild]
    omega
  | heal ha hf hm reply fix hx _ ih =>
    simp [ih, ha.attemptsIn_eq, hf.attemptsIn_eq, attemptsIn_feedbackLog, Request.isBuild]
    omega
  | fail ha hf hh now p =>
    simp [ha.attemptsIn_eq, hf.attemptsIn_eq, hh.attemptsIn_eq, attemptsIn_feedbackLog,
      Request.isBuild, numbered, Result.withFailure, Result.finish]

/-- An attempt is one of those allowed, or follows a retry that a policy granted.  Here `k` bounds
the retries that were allowed before the course. -/
lemma Course.attempts_le {k : Nat} (h : Course x c n r retried awaiting log a)
    (hn : n < x.settings.baseAttempts ∨ n ≤ k) :
    a.attempts ≤ max x.settings.baseAttempts (1 + max k (retryLimit log)) := by
  induction h generalizing k with
  | pass ha now =>
    simp only [Result.success, Result.finish, numbered]
    omega
  | @retry n _ _ _ _ log rest f ha p policy hp _ ih =>
    have hle := ih (k := max k (RetryPolicy.maxRetries policy).toNat) (.inr (le_max_of_le_right hp))
    -- What the course allows is at least what the policy and the rest allow.
    refine hle.trans (max_le_max le_rfl (Nat.add_le_add_left ?_ 1))
    rw [max_assoc]
    refine max_le_max le_rfl ?_
    simp only [retryLimit_append, retryLimit_cons, Exchange.allowance]
    omega
  | heal ha hf hm reply fix hx _ ih =>
    have hle := ih (k := k) (.inl (lt_baseAttempts_of_mayHeal hm))
    refine hle.trans (max_le_max le_rfl (Nat.add_le_add_left (max_le_max le_rfl ?_) 1))
    rw [retryLimit_append]
    exact le_max_right _ _
  | fail ha hf hh now p =>
    simp only [Result.withFailure, Result.finish, numbered]
    omega

/-- A course ends with a terminal status and a time of completion. -/
lemma Course.isTerminal (h : Course x c n r retried awaiting log a) :
    a.status.isTerminal = true ∧ a.completedAt.isSome = true := by
  induction h with
  | @pass _ r retried _ _ ha now =>
    refine ⟨?_, rfl⟩
    simp only [Result.success, Result.finish_status]
    split
    · rfl
    · split <;> rfl
  | retry _ _ _ _ _ ih => exact ih
  | heal _ _ _ _ _ _ _ ih => exact ih
  | fail => exact ⟨rfl, rfl⟩

/-- A course that fails records its last failure once, and one that does not records nothing. -/
lemma Course.recorded_cases (h : Course x c n r retried awaiting log a) :
    (a.status = .failed ∧
      ∃ f, recorded log = [(c.id, f)] ∧ a.errorMessage = some f.message) ∨
    (a.status ≠ .failed ∧ recorded log = []) := by
  induction h with
  | @pass _ r retried _ _ ha now =>
    refine .inr ⟨?_, ?_⟩
    · simp only [Result.success, Result.finish_status]
      split
      · simp
      · split <;> simp
    · simp [ha.recorded_eq, recorded_feedbackLog, Request.entry?]
  | retry ha p policy hp _ ih =>
    simpa [ha.recorded_eq, recorded_feedbackLog, Request.entry?] using ih
  | heal ha hf hm reply fix hx _ ih =>
    simpa [ha.recorded_eq, hf.recorded_eq, recorded_feedbackLog, Request.entry?] using ih
  | @fail _ _ _ _ _ _ _ f ha hf hh now p =>
    refine .inl ⟨rfl, f, ?_, rfl⟩
    simp [ha.recorded_eq, hf.recorded_eq, hh.recorded_eq, recorded_feedbackLog, Request.entry?]

end Course

/-! ### Whole runs -/

/-- A log in which the module of a case was loaded. -/
def Loaded (c : Case) (log : List Exchange) : Prop := (⟨.load c, .ok ()⟩ : Exchange) ∈ log

/-- A run makes no more attempts than the settings allow, or than one more than the largest number
of retries that a policy named. -/
lemma Executed.attempts_le {res : Result} (h : Executed x c log res) :
    res.attempts ≤ max x.settings.baseAttempts (1 + retryLimit log) := by
  have hopen : 0 < x.settings.baseAttempts := x.settings.one_le_baseAttempts
  cases h with
  | skipped hs start finish => exact Nat.zero_le _
  | unloadable hs start now fault => exact le_max_of_le_left hopen
  | ran hs start hr => simpa [Exchange.allowance] using hr.attempts_le (k := 0) (.inl hopen)

/-- So 32 bits count the attempts if they count those that the settings allow, and no policy names
as many retries as they can count. -/
lemma Executed.attempts_lt {res : Result} (h : Executed x c log res)
    (hbase : x.settings.baseAttempts < UInt32.size) (hlimit : retryLimit log < UInt32.size - 1) :
    res.attempts < UInt32.size := by
  have hle := h.attempts_le
  omega

/-- However the requests of a case are answered, and so whatever its module, the healer and the
store's other users do, its run comes to an end.  It has made no more attempts than the settings
allow, or than one more than the largest number of retries that a policy named; its result is
terminal and has a time of completion.  The loop is never left by using up the attempts, so it may
go on there in any way.  A failed result of a case whose module was loaded has recorded its failure
exactly once, and no other run records anything. -/
theorem execute_within_budget (x : Executor) (c : Case) (o : Answers) :
    let log := ((x.execute c).answered o []).1
    let r := ((x.execute c).answered o []).2
    attemptsIn log ≤ max x.settings.baseAttempts (1 + retryLimit log) ∧
      r.attempts ≤ max x.settings.baseAttempts (1 + retryLimit log) ∧
      r.status.isTerminal = true ∧ r.completedAt.isSome = true ∧
      (∀ usedUp start, x.attemptFrom c usedUp 0 start false false none =
        x.attemptFrom c giveUp 0 start false false none) ∧
      (r.status = .failed ∧ Loaded c log →
        ∃ f, recorded log = [(c.id, f)] ∧ r.errorMessage = some f.message) ∧
      (¬(r.status = .failed ∧ Loaded c log) → recorded log = []) := by
  intro log r
  have hopen : 0 < x.settings.baseAttempts := x.settings.one_le_baseAttempts
  have hrun : Executed x c log r := trace_execute_iff.mp (trace_answered o (x.execute c) [])
  have hle := hrun.attempts_le
  generalize log = log at hrun hle
  generalize r = r at hrun hle
  have hloop : ∀ usedUp start, x.attemptFrom c usedUp 0 start false false none =
      x.attemptFrom c giveUp 0 start false false none :=
    fun usedUp start => attemptFrom_usedUp usedUp giveUp (.inl hopen)
  cases hrun with
  | skipped hs start finish =>
    refine ⟨Nat.zero_le _, Nat.zero_le _, rfl, rfl, hloop, ?_, fun _ => rfl⟩
    rintro ⟨hfailed, -⟩
    cases hfailed
  | unloadable hs start now fault =>
    refine ⟨Nat.zero_le _, le_max_of_le_left hopen, rfl, rfl, hloop, ?_, fun _ => rfl⟩
    rintro ⟨-, hloaded⟩
    simp only [Loaded, List.mem_cons, List.not_mem_nil, or_false] at hloaded
    rcases hloaded with h | h | h <;> cases h
  | @ran _ start rest a hr =>
    have heq := hr.attempts_eq
    have hloaded : Loaded c (⟨.now, start⟩ :: ⟨.load c, .ok ()⟩ :: rest) := by simp [Loaded]
    refine ⟨?_, hle, hr.isTerminal.1, hr.isTerminal.2, hloop, ?_, ?_⟩
    · simpa [Request.isBuild, heq] using hle
    · rintro ⟨hfailed, -⟩
      rcases hr.recorded_cases with ⟨-, f, hf, hm⟩ | ⟨hne, -⟩
      · exact ⟨f, by simpa [Request.entry?] using hf, hm⟩
      · exact absurd hfailed hne
    · intro hn
      rcases hr.recorded_cases with ⟨hfailed, -⟩ | ⟨-, hnone⟩
      · exact absurd ⟨hfailed, hloaded⟩ hn
      · simpa [Request.entry?] using hnone

end Executor

end Retrial
