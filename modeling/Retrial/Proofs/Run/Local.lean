import Retrial.Proofs.Result.Verdict
import Retrial.Proofs.Pattern.Agreement
import Retrial.Proofs.Run.Course
import Retrial.Run.World

/-!
# Collaborators that keep services apart

Local collaborators answer for a case by what has happened to the cases of its service, and by
nothing else: not by the time, and not by other services.  What has happened may be all that the
case itself was asked so far, so collaborators for which a case depends on its own history are among
them.  None of them crashes outside of what contains crashes.

Two runs of the same cases, at different times, are *alike*: they make the same requests as long as
the replies are the same up to times, and hand in results with the same verdicts
(`Executor.alike_batch`).  A run of a case stays *within* its service as long as the patterns of its
failures are owned by the service: then every request concerns a case of the service, or a pattern
that it owns (`Executor.Executed.within`).
-/

namespace Retrial

/-- The pattern id of a failure. -/
def Failure.patternId (f : Failure) : String := Signature.patternIdOf f.message f.trace

/-- Collaborators that keep something of type `γ` for each service, and a listener that keeps
something of type `δ`. -/
structure Local (γ δ : Type) where
  load : Case → γ → Except LoadFault Unit × γ
  build : Case → γ → Except Crash Unit × γ
  /-- A run ends after some milliseconds. -/
  invoke : Case → γ → (Nat × RunEnd) × γ
  teardown : Case → γ → (Nat × TeardownEnd) × γ
  release : Case → γ → γ
  heal : Case → Failure → γ → (Nat × Except Crash (Option String)) × γ
  /-- What the listener makes of a result at a time. -/
  progress : Nat → Result → δ → δ

namespace Local

variable {γ δ : Type}

/-- What is kept when one service has something new. -/
def keep (c : Case) (g : γ) (o : (String → γ) × δ) : (String → γ) × δ :=
  (Function.update o.1 c.service g, o.2)

/-- Local collaborators as collaborators. -/
def collaborators (l : Local γ δ) : Collaborators ((String → γ) × δ) where
  load c o :=
    let (r, g) := l.load c (o.1 c.service)
    (r, keep c g o)
  build _ c o :=
    let (r, g) := l.build c (o.1 c.service)
    (r, keep c g o)
  invoke _ c o :=
    let ((ms, how), g) := l.invoke c (o.1 c.service)
    (.ends ms how, keep c g o)
  teardown _ c o :=
    let ((ms, how), g) := l.teardown c (o.1 c.service)
    (.ends ms how, keep c g o)
  release _ c o := (none, keep c (l.release c (o.1 c.service)) o)
  heal _ c f o :=
    let ((ms, fix), g) := l.heal c f (o.1 c.service)
    (.answers ms fix, keep c g o)
  progress time r o := (o.1, l.progress time r o.2)

/-- How a run of a case ends under a limit. -/
def ending (l : Local γ δ) (limitSecs : Option Nat) (c : Case) (g : γ) : Nat × RunEnd :=
  World.limited limitSecs (l.invoke c g).1.1 (l.invoke c g).1.2

end Local

/-! ### Processes that are alike -/

/-- The requests of a service: those about its cases, and those about patterns that it owns.  Any
service may hand results in. -/
def Request.Within (owner : String → String) (svc : String) : Request → Prop
  | .now => True
  | .load c => c.service = svc
  | .build c => c.service = svc
  | .invoke c _ => c.service = svc
  | .teardown c => c.service = svc
  | .release c => c.service = svc
  | .heal c _ => c.service = svc
  | .pause _ => True
  | .detect f => owner f.patternId = svc
  | .policy id => owner id = svc
  | .record _ f => owner f.patternId = svc
  | .feedback id _ => owner id = svc
  | .report _ => True

/-- Any request but the handing in of a result. -/
def Request.Asks : Request → Prop
  | .report _ => False
  | _ => True

/-- Such a request is not the handing in of a result. -/
lemma Request.Asks.ne_report {q : Request} (h : q.Asks) (r : Result) : q ≠ .report r := by
  rintro rfl
  exact h

/-- The pattern that is found for a failure names the failure's id. -/
def Request.Names : (q : Request) → q.Reply → Prop
  | .detect f, found => ∀ p : Pattern, found = some p → p.patternId = f.patternId
  | _, _ => True

/-- Replies that are the same up to times; the pattern entered for a failure is not looked at. -/
def Request.Same : (q : Request) → q.Reply → q.Reply → Prop
  | .now, _, _ => True
  | .detect _, r, r' => Option.map Pattern.unseen r = Option.map Pattern.unseen r'
  | .record _ _, _, _ => True
  | _, r, r' => r = r'

/-- The case and the failure of the attempt that an exchange decides. -/
def Exchange.failed? : Exchange → Option (Case × Failure)
  | ⟨.build c, .error crash⟩ => some (c, setupFailure crash)
  | ⟨.invoke c limitSecs, ended⟩ =>
    match RunEnd.outcome limitSecs ended with
    | .ok _ => none
    | .error f => some (c, f)
  | _ => none

/-- Processes that make the same requests for the same replies, hand in results with the same
verdicts, and end with what `same` relates. -/
inductive Alike {α : Type} (same : α → α → Prop) : Proc α → Proc α → Prop
  | done {a a' : α} (h : same a a') : Alike same (.done a) (.done a')
  | report {r r' : Result} {next next' : Unit → Proc α} (h : r.verdict = r'.verdict)
      (hn : Alike same (next ()) (next' ())) :
      Alike same (.ask (.report r) next) (.ask (.report r') next')
  | ask {q : Request} {next next' : q.Reply → Proc α} (hq : q.Asks)
      (hn : ∀ r r', q.Names r → q.Names r' → q.Same r r' → Alike same (next r) (next' r')) :
      Alike same (.ask q next) (.ask q next')

section Alike

variable {α β : Type} {same : α → α → Prop} {same' : β → β → Prop}

/-- Sequences of processes that are alike are alike. -/
lemma Alike.bind {p p' : Proc α} {f f' : α → Proc β} (hp : Alike same p p')
    (hf : ∀ a a', same a a' → Alike same' (f a) (f' a')) :
    Alike same' (p.bind f) (p'.bind f') := by
  induction hp with
  | done h => exact hf _ _ h
  | report h _ ih => exact .report h ih
  | ask hq _ ih => exact .ask hq ih

/-- A request that is alike in both processes because its replies are the same. -/
lemma Alike.ask_same {q : Request} {next next' : q.Reply → Proc α} (hq : q.Asks)
    (hsame : ∀ r r', q.Same r r' → r = r') (hn : ∀ r, Alike same (next r) (next' r)) :
    Alike same (.ask q next) (.ask q next') :=
  .ask hq fun r r' _ _ h => hsame r r' h ▸ hn r

/-- The policy of one pattern is asked for in both processes. -/
lemma Alike.ask_policy {id id' : String} {next next' : RetryPolicy → Proc α} (h : id = id')
    (hn : ∀ policy, Alike same (next policy) (next' policy)) :
    Alike same (.ask (.policy id) next) (.ask (.policy id') next') := by
  subst h
  exact .ask_same (q := .policy id) trivial (fun _ _ h => h) hn

end Alike

/-! ### Verdicts along a run -/

/-- Results with the same verdict. -/
def SameVerdict (r r' : Result) : Prop := r.verdict = r'.verdict

namespace SameVerdict

variable {r r' : Result}

/-- Results are numbered alike. -/
lemma numbered (h : SameVerdict r r') (n : Nat) :
    SameVerdict (Executor.numbered n r) (Executor.numbered n r') := by
  have hv := congrArg (fun v : Verdict => { v with attempts := n }) h
  exact hv

/-- Failures leave the same on results. -/
lemma withFailure (h : SameVerdict r r') (f : Failure) :
    SameVerdict (r.withFailure f) (r'.withFailure f) := by
  have hv := congrArg (fun v : Verdict =>
    { v with
      errorMessage := some f.message
      stackTrace := if f.trace == "" then none else some f.trace }) h
  exact hv

/-- Fixes leave the same on results. -/
lemma withFix (h : SameVerdict r r') (fix : String) :
    SameVerdict (r.withFix fix) (r'.withFix fix) := by
  have hv := congrArg (fun v : Verdict => { v with healed := true, healingApplied := some fix }) h
  exact hv

/-- Failed cases end with the same verdict. -/
lemma failed (h : SameVerdict r r') (now now' : Time.Instant) :
    SameVerdict ({ r with status := .failed }.finish now)
      ({ r' with status := .failed }.finish now') := by
  have hv := congrArg (fun v : Verdict => { v with status := .failed }) h
  exact hv

/-- So do cases that pass. -/
lemma success (h : SameVerdict r r') (now now' : Time.Instant) (retried : Bool) :
    SameVerdict (r.success now retried) (r'.success now' retried) := by
  have hv := congrArg (fun v : Verdict =>
    { v with
      status := if v.healed then .healed else if retried then .flaky else .passed
      errorMessage := none
      stackTrace := none }) h
  exact hv

end SameVerdict

namespace Executor

open Proc

variable {x : Executor} {c : Case} {n k : Nat}

/-- The executor with another number of workers. -/
def withWorkers (x : Executor) (n : Nat) : Executor :=
  { x with settings := x.settings.withWorkers n }

/-- Attempts of a case are alike, and have the same outcome. -/
lemma alike_attempt : Alike Eq (x.attempt c) ((x.withWorkers k).attempt c) := by
  rw [attempt_eq, attempt_eq]
  refine .ask_same trivial (fun _ _ h => h) fun built => ?_
  cases built with
  | error crash => exact .done rfl
  | ok u =>
    exact .ask_same trivial (fun _ _ h => h) fun ended =>
      .ask_same trivial (fun _ _ h => h) fun _ =>
        .ask_same trivial (fun _ _ h => h) fun _ => .done rfl

/-- Feedback is alike. -/
lemma alike_feedBack (awaiting : Option String) (outcome : Except Failure Unit) :
    Alike Eq (feedBack awaiting outcome) (feedBack awaiting outcome) := by
  cases awaiting with
  | none => exact .done rfl
  | some id => exact .ask trivial fun _ _ _ _ _ => .done rfl

/-- Cases that end with the same failure end alike. -/
lemma alike_fail {r r' : Result} {f : Failure} (hr : SameVerdict r r') :
    Alike SameVerdict (Executor.fail c r f) (Executor.fail c r' f) := by
  rw [fail_eq, fail_eq]
  exact .ask trivial fun now now' _ _ _ => .ask trivial fun _ _ _ _ _ => .done (hr.failed now now')

/-- Cases that are granted no retry go on alike. -/
lemma alike_afterUngranted {r r' : Result} {f : Failure} {healed healed' : String → Proc Result}
    (hr : SameVerdict r r')
    (hh : x.mayHeal n = true → ∀ fix, Alike SameVerdict (healed fix) (healed' fix)) :
    Alike SameVerdict (x.afterUngranted c n r f healed)
      ((x.withWorkers k).afterUngranted c n r' f healed') := by
  have hmay : (x.withWorkers k).mayHeal n = x.mayHeal n := rfl
  unfold afterUngranted
  rw [hmay]
  split
  next hm =>
    refine .ask_same trivial (fun _ _ h => h) fun reply => ?_
    cases acceptedFix reply with
    | none => exact alike_fail hr
    | some fix => exact hh hm fix
  next => exact alike_fail hr

/-- What follows an attempt is alike. -/
lemma alike_afterAttempt {r r' : Result} {retried : Bool} {outcome : Except Failure Unit}
    {again again' healed healed' : Failure → String → Proc Result} (hr : SameVerdict r r')
    (ha : ∀ f (policy : RetryPolicy), n ≤ policy.maxRetries.toNat →
      Alike SameVerdict (again f f.patternId) (again' f f.patternId))
    (hh : ∀ f, x.mayHeal n = true → ∀ fix, Alike SameVerdict (healed f fix) (healed' f fix)) :
    Alike SameVerdict (x.afterAttempt c n r retried again healed outcome)
      ((x.withWorkers k).afterAttempt c n r' retried again' healed' outcome) := by
  cases outcome with
  | ok u => exact .ask trivial fun now now' _ _ _ => .done (hr.success now now' retried)
  | error f =>
    have hheal : Alike SameVerdict (x.afterUngranted c n (r.withFailure f) f (healed f))
        ((x.withWorkers k).afterUngranted c n (r'.withFailure f) f (healed' f)) :=
      alike_afterUngranted (hr.withFailure f) (hh f)
    refine .ask trivial fun found found' hfound hfound' hsame => ?_
    cases found with
    | none =>
      cases found' with
      | none => exact hheal
      | some p' => cases hsame
    | some p =>
      cases found' with
      | none => cases hsame
      | some p' =>
        -- Both patterns name the id of the failure, so the same policy is asked for.
        have hp : p.patternId = f.patternId := hfound p rfl
        have hp' : p'.patternId = f.patternId := hfound' p' rfl
        refine .ask_policy (hp.trans hp'.symm) fun policy => ?_
        by_cases hn : n ≤ (RetryPolicy.maxRetries policy).toNat
        · rw [if_pos hn, if_pos hn]
          refine .ask_same (q := .pause (RetryPolicy.delay policy n)) trivial (fun _ _ h => h)
            fun _ => ?_
          rw [hp, hp']
          exact ha f policy hn
        · rw [if_neg hn, if_neg hn]
          exact hheal

/-- The attempts of a case go on alike. -/
lemma alike_attemptFrom {usedUp : Result → Proc Result} {done : Nat} {r r' : Result}
    {granted retried : Bool} {awaiting : Option String} (hr : SameVerdict r r')
    (hopen : done < x.settings.baseAttempts ∨ granted = true) :
    Alike SameVerdict (x.attemptFrom c usedUp done r granted retried awaiting)
      ((x.withWorkers k).attemptFrom c usedUp done r' granted retried awaiting) := by
  induction hm : x.attemptLimit - done using Nat.strong_induction_on
    generalizing done r r' granted retried awaiting with
  | h m ih =>
    have hnum := hr.numbered (done + 1)
    rw [attemptFrom_of_open hopen, attemptFrom_of_open (x := x.withWorkers k) hopen]
    refine alike_attempt.bind ?_
    rintro outcome _ rfl
    refine (alike_feedBack awaiting outcome).bind fun _ _ _ => ?_
    refine alike_afterAttempt hnum ?_ ?_
    · intro f policy hn
      have hlt := lt_attemptLimit_of_retry (x := x) hn
      exact ih _ (by omega) (hnum.withFailure f) (.inr rfl) rfl
    · intro f hmay fix
      have hlt := lt_attemptLimit_of_heal hmay
      exact ih _ (by omega) ((hnum.withFailure f).withFix fix)
        (.inl (lt_baseAttempts_of_mayHeal hmay)) rfl

/-- Runs of a case are alike. -/
lemma alike_execute (x : Executor) (k : Nat) (c : Case) :
    Alike SameVerdict (x.execute c) ((x.withWorkers k).execute c) := by
  have hskip : (x.withWorkers k).settings.skipTags = x.settings.skipTags := rfl
  cases hs : x.settings.skipTags.find? c.hasTag with
  | some tag =>
    rw [execute_of_skipped hs, execute_of_skipped (x := x.withWorkers k) (hskip ▸ hs)]
    exact .ask trivial fun _ _ _ _ _ => .ask trivial fun _ _ _ _ _ => .done rfl
  | none =>
    rw [execute_of_unskipped hs, execute_of_unskipped (x := x.withWorkers k) (hskip ▸ hs)]
    refine .ask trivial fun start start' _ _ _ => ?_
    refine .ask_same (q := .load c) trivial (fun _ _ h => h) fun loaded => ?_
    cases loaded with
    | error fault => exact .ask trivial fun _ _ _ _ _ => .done rfl
    | ok u => exact alike_attemptFrom rfl (.inl x.settings.one_le_baseAttempts)

/-- Runs of cases are alike. -/
theorem alike_batch (x : Executor) (k : Nat) (cs : List Case) :
    Alike (fun _ _ => True) (x.batch cs) ((x.withWorkers k).batch cs) := by
  induction cs with
  | nil => exact .done trivial
  | cons c cs ih => exact (x.alike_execute k c).bind fun r r' hr => .report hr ih

/-! ### Staying within a service -/

variable {owner : String → String} {log : List Exchange} {f : Failure}

/-- The exchanges of an attempt concern its case. -/
lemma Attempted.within {outcome : Except Failure Unit} (h : Attempted x c log outcome) :
    ∀ e ∈ log, e.request.Within owner c.service := by
  cases h <;> simp [Request.Within]

/-- An attempt that fails shows the failure of its case. -/
lemma Attempted.mem_failed (h : Attempted x c log (.error f)) :
    (c, f) ∈ log.filterMap Exchange.failed? := by
  generalize ho : (.error f : Except Failure Unit) = outcome at h
  cases h with
  | unbuilt crash =>
    cases ho
    simp [Exchange.failed?]
  | ran ended closed => simp [Exchange.failed?, ← ho]

/-- Looking a failure up is within a service that owns its pattern. -/
lemma Ungranted.within {svc : String} (h : Ungranted n f log) (hf : owner f.patternId = svc)
    (hnames : ∀ e ∈ log, e.request.Names e.reply) : ∀ e ∈ log, e.request.Within owner svc := by
  cases h with
  | unknown => simpa [Request.Within] using hf
  | spent p policy hn =>
    have hp : p.patternId = f.patternId := hnames _ List.mem_cons_self p rfl
    simpa [Request.Within, hp] using hf

/-- Feedback is within a service that owns the pattern it goes to. -/
lemma feedbackLog_within {svc : String} {awaiting : Option String} {outcome : Except Failure Unit}
    (ha : ∀ id, awaiting = some id → owner id = svc) :
    ∀ e ∈ feedbackLog awaiting outcome, e.request.Within owner svc := by
  cases awaiting with
  | none => simp [feedbackLog]
  | some id => simpa [feedbackLog, Request.Within] using ha id rfl

/-- The attempts of a case stay within its service. -/
lemma Course.within {r a : Result} {retried : Bool} {awaiting : Option String}
    (h : Course x c n r retried awaiting log a)
    (ha : ∀ id, awaiting = some id → owner id = c.service)
    (hown : ∀ e ∈ log.filterMap Exchange.failed?, owner e.2.patternId = e.1.service)
    (hnames : ∀ e ∈ log, e.request.Names e.reply) :
    ∀ e ∈ log, e.request.Within owner c.service := by
  induction h with
  | pass hatt now =>
    simp only [List.forall_mem_append]
    exact ⟨⟨hatt.within, feedbackLog_within ha⟩, by simp [Request.Within]⟩
  | @retry n r a retried awaiting log rest f hatt p policy hp _ ih =>
    simp only [List.filterMap_append, List.forall_mem_append] at hown hnames ⊢
    have hf : owner f.patternId = c.service := hown.1.1.1 (c, f) hatt.mem_failed
    have hid : p.patternId = f.patternId := hnames.1.2 _ List.mem_cons_self p rfl
    refine ⟨⟨⟨hatt.within, feedbackLog_within ha⟩, ?_⟩, ih ?_ hown.2 hnames.2⟩
    · simpa [Request.Within, hid] using hf
    · intro id h
      rw [← Option.some.inj h, hid]
      exact hf
  | @heal n r a retried awaiting log found rest f hatt hu hm reply fix hx _ ih =>
    simp only [List.filterMap_append, List.forall_mem_append] at hown hnames ⊢
    have hf : owner f.patternId = c.service := hown.1.1.1.1 (c, f) hatt.mem_failed
    refine ⟨⟨⟨⟨hatt.within, feedbackLog_within ha⟩, hu.within hf hnames.1.1.2⟩, ?_⟩,
      ih (fun _ h => by cases h) hown.2 hnames.2⟩
    simp [Request.Within]
  | @fail n r retried awaiting log found asked f hatt hu hh now p =>
    simp only [List.filterMap_append, List.forall_mem_append] at hown hnames ⊢
    have hf : owner f.patternId = c.service := hown.1.1.1.1 (c, f) hatt.mem_failed
    refine ⟨⟨⟨⟨hatt.within, feedbackLog_within ha⟩, hu.within hf hnames.1.1.2⟩, ?_⟩, ?_⟩
    · cases hh <;> simp [Request.Within]
    · simpa [Request.Within] using hf

/-- The run of a case stays within its service, if the service owns the patterns of the failures and
the patterns found name the ids of the failures. -/
lemma Executed.within {a : Result} (h : Executed x c log a)
    (hown : ∀ e ∈ log.filterMap Exchange.failed?, owner e.2.patternId = e.1.service)
    (hnames : ∀ e ∈ log, e.request.Names e.reply) :
    ∀ e ∈ log, e.request.Within owner c.service := by
  cases h with
  | skipped => simp [Request.Within]
  | unloadable => simp [Request.Within]
  | ran _ _ hr =>
    simp only [List.forall_mem_cons] at hnames ⊢
    refine ⟨trivial, rfl, hr.within (fun _ h => by cases h) ?_ hnames.2.2⟩
    simpa [Exchange.failed?] using hown

end Executor

end Retrial
