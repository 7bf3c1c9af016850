import Retrial.Proofs.Run.Trace
import Retrial.Run.Attempt

/-!
# Courses of a case

What the attempts of a case can come to, said without the loop that makes them.  A *course* is a
sequence of rounds.  Each round is one attempt, the feedback that an earlier retry still owes, and a
decision: the attempt passed, its failure is granted a retry, its failure is healed, or it ends the
case.  `Course` has one constructor for each decision, and every constructor lists the exchanges of
its round.

`trace_attemptFrom_iff` says that the traces of the loop, entered where its guard is open, are the
courses.  No constructor stands for a case whose attempts are used up: the guard is open after every
retry and after every heal.
-/

namespace Retrial

namespace Executor

open Proc

variable {x : Executor} {c : Case}

/-! ### The parts of a round -/

/-- The exchanges of one attempt and its outcome: without a context there is no run, and a context
that was built is torn down and released after the run. -/
inductive Attempted (x : Executor) (c : Case) : List Exchange → Except Failure Unit → Prop
  | unbuilt (k : Crash) : Attempted x c [⟨.build c, .error k⟩] (.error (setupFailure k))
  | ran (ended : RunEnd) (closed : TeardownEnd) :
      Attempted x c
        [⟨.build c, .ok ()⟩, ⟨.invoke c x.settings.timeoutSecs, ended⟩, ⟨.teardown c, closed⟩,
          ⟨.release c, ()⟩]
        (ended.outcome x.settings.timeoutSecs)

/-- The feedback that is due after an attempt: to the policy that granted it, if one did. -/
def feedbackLog (awaiting : Option String) (outcome : Except Failure Unit) : List Exchange :=
  match awaiting with
  | none => []
  | some id => [⟨.feedback id (succeeded outcome), ()⟩]

/-- The look-up of a failure that grants the attempt numbered `n` no retry: the failure is unknown,
or the retries of its policy are spent. -/
inductive Ungranted (n : Nat) (f : Failure) : List Exchange → Prop
  | unknown : Ungranted n f [⟨.detect f, none⟩]
  | spent (p : Pattern) (policy : RetryPolicy) (h : ¬n ≤ policy.maxRetries.toNat) :
      Ungranted n f [⟨.detect f, some p⟩, ⟨.policy p.patternId, policy⟩]

/-- The attempt numbered `n` is not healed: nobody is asked, or no acceptable fix comes back. -/
inductive Unhealed (x : Executor) (c : Case) (n : Nat) (f : Failure) : List Exchange → Prop
  | unasked (h : x.mayHeal n = false) : Unhealed x c n f []
  | refused (h : x.mayHeal n = true) (reply : Except Crash (Option String))
      (hr : acceptedFix reply = none) : Unhealed x c n f [⟨.heal c f, reply⟩]

/-- The result with the number of an attempt. -/
def numbered (n : Nat) (r : Result) : Result := { r with attempts := n }

/-- The attempts of a case after `n` of them, to its end.  As in the loop, `r` is the result so far,
`retried` says whether there was a retry, and `awaiting` names the pattern that is owed feedback. -/
inductive Course (x : Executor) (c : Case) :
    Nat → Result → Bool → Option String → List Exchange → Result → Prop
  /-- The attempt passes. -/
  | pass {n : Nat} {r : Result} {retried : Bool} {awaiting : Option String} {log : List Exchange}
      (ha : Attempted x c log (.ok ())) (now : Time.Instant) :
      Course x c n r retried awaiting (log ++ feedbackLog awaiting (.ok ()) ++ [⟨.now, now⟩])
        ((numbered (n + 1) r).success now retried)
  /-- The failure's pattern is known, and its policy grants the attempt a retry. -/
  | retry {n : Nat} {r a : Result} {retried : Bool} {awaiting : Option String}
      {log rest : List Exchange} {f : Failure} (ha : Attempted x c log (.error f)) (p : Pattern)
      (policy : RetryPolicy) (hp : n + 1 ≤ policy.maxRetries.toNat)
      (hr : Course x c (n + 1) ((numbered (n + 1) r).withFailure f) true (some p.patternId) rest
        a) :
      Course x c n r retried awaiting
        (log ++ feedbackLog awaiting (.error f) ++
          [⟨.detect f, some p⟩, ⟨.policy p.patternId, policy⟩,
            ⟨.pause (policy.delay (n + 1)), ()⟩] ++ rest) a
  /-- No retry is granted, and a fix is accepted. -/
  | heal {n : Nat} {r a : Result} {retried : Bool} {awaiting : Option String}
      {log found rest : List Exchange} {f : Failure} (ha : Attempted x c log (.error f))
      (hf : Ungranted (n + 1) f found) (hm : x.mayHeal (n + 1) = true)
      (reply : Except Crash (Option String)) (fix : String) (hx : acceptedFix reply = some fix)
      (hr : Course x c (n + 1) (((numbered (n + 1) r).withFailure f).withFix fix) retried none rest
        a) :
      Course x c n r retried awaiting
        (log ++ feedbackLog awaiting (.error f) ++ found ++ [⟨.heal c f, reply⟩] ++ rest) a
  /-- Neither helps; the failure ends the case and is recorded. -/
  | fail {n : Nat} {r : Result} {retried : Bool} {awaiting : Option String}
      {log found asked : List Exchange} {f : Failure} (ha : Attempted x c log (.error f))
      (hf : Ungranted (n + 1) f found) (hh : Unhealed x c (n + 1) f asked) (now : Time.Instant)
      (p : Pattern) :
      Course x c n r retried awaiting
        (log ++ feedbackLog awaiting (.error f) ++ found ++ asked ++
          [⟨.now, now⟩, ⟨.record c.id f, p⟩])
        ({ (numbered (n + 1) r).withFailure f with status := .failed }.finish now)

/-! ### The loop in parts -/

/-- What follows a failed attempt that is granted no retry: `healed` goes on with a fix. -/
def afterUngranted (x : Executor) (c : Case) (n : Nat) (r : Result) (f : Failure)
    (healed : String → Proc Result) : Proc Result :=
  if x.mayHeal n = true then
    .ask (.heal c f) fun reply =>
      match acceptedFix reply with
      | some fix => healed fix
      | none => Executor.fail c r f
  else Executor.fail c r f

/-- What follows an attempt: `again` goes on with a retry, `healed` with a fix. -/
def afterAttempt (x : Executor) (c : Case) (n : Nat) (r : Result) (retried : Bool)
    (again : Failure → String → Proc Result) (healed : Failure → String → Proc Result) :
    Except Failure Unit → Proc Result
  | .ok () => .ask .now fun now => .done (r.success now retried)
  | .error f =>
    .ask (.detect f) fun
      | none => x.afterUngranted c n (r.withFailure f) f (healed f)
      | some p =>
        .ask (.policy p.patternId) fun policy =>
          if n ≤ policy.maxRetries.toNat then
            .ask (.pause (policy.delay n)) fun _ => again f p.patternId
          else x.afterUngranted c n (r.withFailure f) f (healed f)

/-- One turn of the loop, where its guard is open. -/
lemma attemptFrom_of_open {usedUp : Result → Proc Result} {n : Nat} {r : Result}
    {granted retried : Bool} {awaiting : Option String}
    (h : n < x.settings.baseAttempts ∨ granted = true) :
    x.attemptFrom c usedUp n r granted retried awaiting =
      (x.attempt c).bind fun outcome =>
        (feedBack awaiting outcome).bind fun _ =>
          x.afterAttempt c (n + 1) (numbered (n + 1) r) retried
            (fun f id => x.attemptFrom c usedUp (n + 1) ((numbered (n + 1) r).withFailure f) true
              true (some id))
            (fun f fix => x.attemptFrom c usedUp (n + 1)
              (((numbered (n + 1) r).withFailure f).withFix fix) false retried none)
            outcome := by
  have hg : (decide (n < x.settings.baseAttempts) || granted) = true := by simpa using h
  rw [attemptFrom, if_pos hg]
  rfl

/-- The requests of one attempt. -/
lemma attempt_eq : x.attempt c =
    .ask (.build c) fun
      | .error k => .done (.error (setupFailure k))
      | .ok () =>
        .ask (.invoke c x.settings.timeoutSecs) fun ended =>
          .ask (.teardown c) fun _ =>
            .ask (.release c) fun _ => .done (ended.outcome x.settings.timeoutSecs) := rfl

/-- The requests that end a case with its last failure. -/
lemma fail_eq (r : Result) (f : Failure) : Executor.fail c r f =
    .ask .now fun now =>
      .ask (.record c.id f) fun _ => .done ({ r with status := .failed }.finish now) := rfl

/-- An attempt goes one of the ways that `Attempted` lists. -/
lemma trace_attempt_iff {log : List Exchange} {outcome : Except Failure Unit} :
    Trace (x.attempt c) log outcome ↔ Attempted x c log outcome := by
  rw [attempt_eq]
  constructor
  · intro h
    obtain ⟨built, rest, rfl, hbuilt⟩ := trace_ask_iff.mp h
    cases built with
    | error k =>
      obtain ⟨rfl, rfl⟩ := trace_done_iff.mp hbuilt
      exact .unbuilt k
    | ok u =>
      obtain ⟨ended, _, rfl, hran⟩ := trace_ask_iff.mp hbuilt
      obtain ⟨closed, _, rfl, hclosed⟩ := trace_ask_iff.mp hran
      obtain ⟨_, _, rfl, hdone⟩ := trace_ask_iff.mp hclosed
      obtain ⟨rfl, rfl⟩ := trace_done_iff.mp hdone
      exact .ran ended closed
  · intro h
    cases h with
    | unbuilt k => exact .step _ _ _ (.here _)
    | ran ended closed => exact .step _ _ _ (.step _ _ _ (.step _ _ _ (.step _ _ _ (.here _))))

/-- Feedback is a single exchange, or none. -/
lemma trace_feedBack_iff {awaiting : Option String} {outcome : Except Failure Unit}
    {log : List Exchange} {u : Unit} :
    Trace (feedBack awaiting outcome) log u ↔ log = feedbackLog awaiting outcome := by
  cases awaiting with
  | none =>
    change Trace (.done ()) log u ↔ log = []
    simp
  | some id =>
    change Trace (.ask (.feedback id (succeeded outcome)) .done) log u ↔
      log = [⟨.feedback id (succeeded outcome), ()⟩]
    constructor
    · intro h
      obtain ⟨_, _, rfl, hdone⟩ := trace_ask_iff.mp h
      obtain ⟨rfl, -⟩ := trace_done_iff.mp hdone
      rfl
    · rintro rfl
      exact .step _ _ _ (.here _)

/-- Ending a case takes a time and the record of its failure. -/
lemma trace_fail_iff {r a : Result} {f : Failure} {log : List Exchange} :
    Trace (Executor.fail c r f) log a ↔
      ∃ now p, log = [⟨.now, now⟩, ⟨.record c.id f, p⟩] ∧
        a = { r with status := .failed }.finish now := by
  rw [fail_eq]
  constructor
  · intro h
    obtain ⟨now, _, rfl, hrec⟩ := trace_ask_iff.mp h
    obtain ⟨p, _, rfl, hdone⟩ := trace_ask_iff.mp hrec
    obtain ⟨rfl, rfl⟩ := trace_done_iff.mp hdone
    exact ⟨now, p, rfl, rfl⟩
  · rintro ⟨now, p, rfl, rfl⟩
    exact .step _ _ _ (.step _ _ _ (.here _))

/-- Without a retry, a case goes on with an accepted fix or ends. -/
lemma trace_afterUngranted_iff {n : Nat} {r a : Result} {f : Failure}
    {healed : String → Proc Result} {log : List Exchange} :
    Trace (x.afterUngranted c n r f healed) log a ↔
      (∃ reply fix rest, log = ⟨.heal c f, reply⟩ :: rest ∧ x.mayHeal n = true ∧
        acceptedFix reply = some fix ∧ Trace (healed fix) rest a) ∨
      ∃ asked now p, log = asked ++ [⟨.now, now⟩, ⟨.record c.id f, p⟩] ∧
        Unhealed x c n f asked ∧ a = { r with status := .failed }.finish now := by
  unfold afterUngranted
  split
  next hm =>
    rw [trace_ask_iff]
    constructor
    · rintro ⟨reply, rest, rfl, h⟩
      cases hx : acceptedFix reply with
      | some fix =>
        rw [hx] at h
        exact .inl ⟨reply, fix, rest, rfl, hm, hx, h⟩
      | none =>
        rw [hx] at h
        obtain ⟨now, p, rfl, rfl⟩ := trace_fail_iff.mp h
        exact .inr ⟨_, now, p, rfl, .refused hm reply hx, rfl⟩
    · rintro (⟨reply, fix, rest, rfl, -, hx, h⟩ | ⟨asked, now, p, rfl, hu, rfl⟩)
      · exact ⟨reply, rest, rfl, by rwa [hx]⟩
      · cases hu with
        | unasked hm' => exact absurd hm (by simp [hm'])
        | refused _ reply hx =>
          refine ⟨reply, _, rfl, ?_⟩
          rw [hx]
          exact trace_fail_iff.mpr ⟨now, p, rfl, rfl⟩
  next hm =>
    rw [trace_fail_iff]
    constructor
    · rintro ⟨now, p, rfl, rfl⟩
      exact .inr ⟨[], now, p, rfl, .unasked (by simpa using hm), rfl⟩
    · rintro (⟨_, _, _, -, hm', -, -⟩ | ⟨asked, now, p, rfl, hu, rfl⟩)
      · exact absurd hm' hm
      · cases hu with
        | unasked _ => exact ⟨now, p, rfl, rfl⟩
        | refused hm' => exact absurd hm' hm

/-- What follows an attempt is one of the four decisions. -/
lemma trace_afterAttempt_iff {n : Nat} {r a : Result} {retried : Bool}
    {again healed : Failure → String → Proc Result} {outcome : Except Failure Unit}
    {log : List Exchange} :
    Trace (x.afterAttempt c n r retried again healed outcome) log a ↔
      (∃ now, outcome = .ok () ∧ log = [⟨.now, now⟩] ∧ a = r.success now retried) ∨
      (∃ f p policy rest, outcome = .error f ∧
        log = [⟨.detect f, some p⟩, ⟨.policy p.patternId, policy⟩, ⟨.pause (policy.delay n), ()⟩] ++
          rest ∧
        n ≤ policy.maxRetries.toNat ∧ Trace (again f p.patternId) rest a) ∨
      ∃ f found rest, outcome = .error f ∧ log = found ++ rest ∧ Ungranted n f found ∧
        Trace (x.afterUngranted c n (r.withFailure f) f (healed f)) rest a := by
  cases outcome with
  | ok u =>
    simp only [afterAttempt, trace_ask_iff, trace_done_iff]
    constructor
    · rintro ⟨now, rest, rfl, rfl, rfl⟩
      exact .inl ⟨now, trivial, rfl, rfl⟩
    · rintro (⟨now, -, rfl, rfl⟩ | ⟨f, _, _, _, hf, -⟩ | ⟨f, _, _, hf, -⟩)
      · exact ⟨now, [], rfl, rfl, rfl⟩
      · cases hf
      · cases hf
  | error f =>
    simp only [afterAttempt, trace_ask_iff]
    constructor
    · rintro ⟨found, rest, rfl, h⟩
      cases found with
      | none => exact .inr (.inr ⟨f, _, rest, rfl, rfl, .unknown, h⟩)
      | some p =>
        obtain ⟨policy, rest, rfl, hpolicy⟩ := trace_ask_iff.mp h
        by_cases hn : n ≤ policy.maxRetries.toNat
        · rw [if_pos hn] at hpolicy
          obtain ⟨_, rest, rfl, hagain⟩ := trace_ask_iff.mp hpolicy
          exact .inr (.inl ⟨f, p, policy, rest, rfl, rfl, hn, hagain⟩)
        · rw [if_neg hn] at hpolicy
          exact .inr (.inr ⟨f, _, rest, rfl, rfl, .spent p policy hn, hpolicy⟩)
    · rintro (⟨_, hf, -⟩ | ⟨f, p, policy, rest, hf, rfl, hn, h⟩ | ⟨f, found, rest, hf, rfl, hu, h⟩)
      · cases hf
      · cases hf
        refine ⟨some p, _, rfl, trace_ask_iff.mpr ⟨policy, _, rfl, ?_⟩⟩
        rw [if_pos hn]
        exact trace_ask_iff.mpr ⟨(), rest, rfl, h⟩
      · cases hf
        cases hu with
        | unknown => exact ⟨none, rest, rfl, h⟩
        | spent p policy hn =>
          refine ⟨some p, _, rfl, trace_ask_iff.mpr ⟨policy, _, rfl, ?_⟩⟩
          rwa [if_neg hn]

/-! ### The loop makes courses -/

/-- A fix may be asked for only while attempts are left, so the guard is open after a heal. -/
lemma lt_baseAttempts_of_mayHeal {n : Nat} (h : x.mayHeal n = true) :
    n < x.settings.baseAttempts := by
  simp only [mayHeal, Bool.and_eq_true, decide_eq_true_eq] at h
  exact h.1.2

/-- Entered where its guard is open, the loop makes one attempt, gives the feedback that is due, and
goes on from the outcome. -/
lemma trace_attemptFrom_round_iff {usedUp : Result → Proc Result} {n : Nat} {r a : Result}
    {granted retried : Bool} {awaiting : Option String} {log : List Exchange}
    (hopen : n < x.settings.baseAttempts ∨ granted = true) :
    Trace (x.attemptFrom c usedUp n r granted retried awaiting) log a ↔
      ∃ attempted outcome rest, log = attempted ++ feedbackLog awaiting outcome ++ rest ∧
        Attempted x c attempted outcome ∧
        Trace (x.afterAttempt c (n + 1) (numbered (n + 1) r) retried
          (fun f id => x.attemptFrom c usedUp (n + 1) ((numbered (n + 1) r).withFailure f) true
            true (some id))
          (fun f fix => x.attemptFrom c usedUp (n + 1)
            (((numbered (n + 1) r).withFailure f).withFix fix) false retried none)
          outcome) rest a := by
  rw [attemptFrom_of_open hopen, trace_bind_iff]
  constructor
  · rintro ⟨attempted, outcome, _, rfl, ha, hrest⟩
    obtain ⟨fed, _, rest, rfl, hfb, hafter⟩ := trace_bind_iff.mp hrest
    rw [trace_feedBack_iff] at hfb
    subst hfb
    have hlog := (List.append_assoc attempted (feedbackLog awaiting outcome) rest).symm
    exact ⟨attempted, outcome, rest, hlog, trace_attempt_iff.mp ha, hafter⟩
  · rintro ⟨attempted, outcome, rest, rfl, ha, hafter⟩
    rw [List.append_assoc]
    refine ⟨attempted, outcome, _, rfl, trace_attempt_iff.mpr ha, ?_⟩
    exact trace_bind_iff.mpr ⟨_, (), rest, rfl, trace_feedBack_iff.mpr rfl, hafter⟩

/-- Whatever the loop does is a course. -/
lemma course_of_trace {usedUp : Result → Proc Result} {n : Nat} {r a : Result}
    {granted retried : Bool} {awaiting : Option String} {log : List Exchange}
    (hopen : n < x.settings.baseAttempts ∨ granted = true)
    (h : Trace (x.attemptFrom c usedUp n r granted retried awaiting) log a) :
    Course x c n r retried awaiting log a := by
  -- The induction follows the measure of the loop: attempts that are still possible.
  induction hk : x.attemptLimit - n using Nat.strong_induction_on
    generalizing n r granted retried awaiting log with
  | h k ih =>
    obtain ⟨attempted, outcome, _, rfl, ha, hafter⟩ := (trace_attemptFrom_round_iff hopen).mp h
    rcases trace_afterAttempt_iff.mp hafter with
      ⟨now, rfl, rfl, rfl⟩ | ⟨f, p, policy, rest, rfl, rfl, hn, hagain⟩ |
        ⟨f, found, rest, rfl, rfl, hu, hungranted⟩
    · exact .pass ha now
    · have hlt := lt_attemptLimit_of_retry (x := x) hn
      have hr := ih _ (by omega) (.inr rfl) hagain rfl
      simpa using Course.retry ha p policy hn hr
    · rcases trace_afterUngranted_iff.mp hungranted with
        ⟨reply, fix, rest, rfl, hm, hx, hhealed⟩ | ⟨asked, now, p, rfl, hh, rfl⟩
      · have hlt := lt_attemptLimit_of_heal hm
        have hr := ih _ (by omega) (.inl (lt_baseAttempts_of_mayHeal hm)) hhealed rfl
        simpa using Course.heal ha hu hm reply fix hx hr
      · simpa using Course.fail ha hu hh now p

/-- Every course is one that the loop can take. -/
lemma Course.trace {usedUp : Result → Proc Result} {n : Nat} {r a : Result}
    {granted retried : Bool} {awaiting : Option String} {log : List Exchange}
    (h : Course x c n r retried awaiting log a)
    (hopen : n < x.settings.baseAttempts ∨ granted = true) :
    Trace (x.attemptFrom c usedUp n r granted retried awaiting) log a := by
  induction h generalizing granted with
  | pass ha now =>
    refine (trace_attemptFrom_round_iff hopen).mpr ⟨_, _, _, rfl, ha, ?_⟩
    exact trace_afterAttempt_iff.mpr (.inl ⟨now, rfl, rfl, rfl⟩)
  | retry ha p policy hp _ ih =>
    rw [List.append_assoc]
    refine (trace_attemptFrom_round_iff hopen).mpr ⟨_, _, _, rfl, ha, ?_⟩
    exact trace_afterAttempt_iff.mpr (.inr (.inl ⟨_, p, policy, _, rfl, rfl, hp, ih (.inr rfl)⟩))
  | heal ha hf hm reply fix hx _ ih =>
    rw [List.append_assoc, List.append_assoc]
    refine (trace_attemptFrom_round_iff hopen).mpr ⟨_, _, _, rfl, ha, ?_⟩
    refine trace_afterAttempt_iff.mpr (.inr (.inr ⟨_, _, _, rfl, rfl, hf, ?_⟩))
    exact trace_afterUngranted_iff.mpr
      (.inl ⟨reply, fix, _, rfl, hm, hx, ih (.inl (lt_baseAttempts_of_mayHeal hm))⟩)
  | fail ha hf hh now p =>
    rw [List.append_assoc, List.append_assoc]
    refine (trace_attemptFrom_round_iff hopen).mpr ⟨_, _, _, rfl, ha, ?_⟩
    refine trace_afterAttempt_iff.mpr (.inr (.inr ⟨_, _, _, rfl, rfl, hf, ?_⟩))
    exact trace_afterUngranted_iff.mpr (.inr ⟨_, now, p, rfl, hh, rfl⟩)

/-- Entered where its guard is open, the loop takes the courses of the case and nothing else. -/
theorem trace_attemptFrom_iff {usedUp : Result → Proc Result} {n : Nat} {r a : Result}
    {granted retried : Bool} {awaiting : Option String} {log : List Exchange}
    (hopen : n < x.settings.baseAttempts ∨ granted = true) :
    Trace (x.attemptFrom c usedUp n r granted retried awaiting) log a ↔
      Course x c n r retried awaiting log a :=
  ⟨course_of_trace hopen, fun h => h.trace hopen⟩

/-! ### What is written after the loop -/

/-- What a heal leads to matters only where a fix may be asked for. -/
lemma afterUngranted_congr {n : Nat} {r : Result} {f : Failure}
    {healed healed' : String → Proc Result}
    (h : x.mayHeal n = true → ∀ fix, healed fix = healed' fix) :
    x.afterUngranted c n r f healed = x.afterUngranted c n r f healed' := by
  unfold afterUngranted
  split
  next hm =>
    congr 1
    funext reply
    cases acceptedFix reply with
    | none => rfl
    | some fix => exact h hm fix
  next => rfl

/-- What a retry leads to matters only where a policy can grant it. -/
lemma afterAttempt_congr {n : Nat} {r : Result} {retried : Bool} {outcome : Except Failure Unit}
    {again again' healed healed' : Failure → String → Proc Result}
    (ha : ∀ f id (m : UInt32), n ≤ m.toNat → again f id = again' f id)
    (hh : x.mayHeal n = true → ∀ f fix, healed f fix = healed' f fix) :
    x.afterAttempt c n r retried again healed outcome =
      x.afterAttempt c n r retried again' healed' outcome := by
  have hungranted : ∀ f, x.afterUngranted c n (r.withFailure f) f (healed f) =
      x.afterUngranted c n (r.withFailure f) f (healed' f) :=
    fun f => afterUngranted_congr fun hm => hh hm f
  cases outcome with
  | ok u => rfl
  | error f =>
    simp only [afterAttempt]
    congr 1
    funext found
    cases found with
    | none => exact hungranted f
    | some p =>
      simp only
      congr 1
      funext policy
      by_cases hn : n ≤ (RetryPolicy.maxRetries policy).toNat
      · rw [if_pos hn, if_pos hn]
        congr 1
        funext _
        exact ha f _ _ hn
      · rw [if_neg hn, if_neg hn]
        exact hungranted f

/-- What is written after the loop makes no difference: the loop is never left that way. -/
lemma attemptFrom_usedUp (usedUp usedUp' : Result → Proc Result) {n : Nat} {r : Result}
    {granted retried : Bool} {awaiting : Option String}
    (hopen : n < x.settings.baseAttempts ∨ granted = true) :
    x.attemptFrom c usedUp n r granted retried awaiting =
      x.attemptFrom c usedUp' n r granted retried awaiting := by
  induction hk : x.attemptLimit - n using Nat.strong_induction_on
    generalizing n r granted retried awaiting with
  | h k ih =>
    rw [attemptFrom_of_open hopen, attemptFrom_of_open hopen]
    congr 1
    funext outcome
    congr 1
    funext _
    refine afterAttempt_congr (fun f id m hm => ?_) fun hm f fix => ?_
    · have hlt := lt_attemptLimit_of_retry (x := x) hm
      exact ih _ (by omega) (.inr rfl) rfl
    · have hlt := lt_attemptLimit_of_heal hm
      exact ih _ (by omega) (.inl (lt_baseAttempts_of_mayHeal hm)) rfl

/-! ### Whole runs of a case -/

/-- The run of a case: it is skipped, or its module cannot be loaded, or it takes a course. -/
inductive Executed (x : Executor) (c : Case) : List Exchange → Result → Prop
  | skipped {tag : String} (h : x.settings.skipTags.find? c.hasTag = some tag)
      (start finish : Time.Instant) :
      Executed x c [⟨.now, start⟩, ⟨.now, finish⟩]
        (.skipped start finish c.id ("Skipped by tag '" ++ tag ++ "'"))
  | unloadable (h : x.settings.skipTags.find? c.hasTag = none) (start now : Time.Instant)
      (fault : LoadFault) :
      Executed x c [⟨.now, start⟩, ⟨.load c, .error fault⟩, ⟨.now, now⟩]
        ({ Result.pending start c.id with
          attempts := 1, status := .failed, errorMessage := some fault.message }.finish now)
  | ran (h : x.settings.skipTags.find? c.hasTag = none) (start : Time.Instant)
      {rest : List Exchange} {a : Result}
      (hr : Course x c 0 { Result.pending start c.id with status := .running } false none rest a) :
      Executed x c (⟨.now, start⟩ :: ⟨.load c, .ok ()⟩ :: rest) a

/-- The requests of a case that is not skipped. -/
lemma execute_of_unskipped (h : x.settings.skipTags.find? c.hasTag = none) : x.execute c =
    .ask .now fun start =>
      .ask (.load c) fun
        | .error fault => .ask .now fun now =>
          .done ({ Result.pending start c.id with
            attempts := 1, status := .failed, errorMessage := some fault.message }.finish now)
        | .ok () => x.attemptFrom c giveUp 0 { Result.pending start c.id with status := .running }
          false false none := by
  unfold execute
  rw [h]
  rfl

/-- The requests of a case that is skipped. -/
lemma execute_of_skipped {tag : String} (h : x.settings.skipTags.find? c.hasTag = some tag) :
    x.execute c = .ask .now fun start => .ask .now fun finish =>
      .done (.skipped start finish c.id ("Skipped by tag '" ++ tag ++ "'")) := by
  unfold execute
  rw [h]
  rfl

/-- The traces of a case are its runs. -/
theorem trace_execute_iff {log : List Exchange} {a : Result} :
    Trace (x.execute c) log a ↔ Executed x c log a := by
  have hopen : 0 < x.settings.baseAttempts := x.settings.one_le_baseAttempts
  constructor
  · intro h
    cases hs : x.settings.skipTags.find? c.hasTag with
    | some tag =>
      rw [execute_of_skipped hs] at h
      obtain ⟨start, _, rfl, hfinish⟩ := trace_ask_iff.mp h
      obtain ⟨finish, _, rfl, hdone⟩ := trace_ask_iff.mp hfinish
      obtain ⟨rfl, rfl⟩ := trace_done_iff.mp hdone
      exact .skipped hs start finish
    | none =>
      rw [execute_of_unskipped hs] at h
      obtain ⟨start, _, rfl, hload⟩ := trace_ask_iff.mp h
      obtain ⟨loaded, _, rfl, hrest⟩ := trace_ask_iff.mp hload
      cases loaded with
      | error fault =>
        obtain ⟨now, _, rfl, hdone⟩ := trace_ask_iff.mp hrest
        obtain ⟨rfl, rfl⟩ := trace_done_iff.mp hdone
        exact .unloadable hs start now fault
      | ok u => exact .ran hs start ((trace_attemptFrom_iff (.inl hopen)).mp hrest)
  · intro h
    cases h with
    | skipped hs start finish =>
      rw [execute_of_skipped hs]
      exact .step _ _ _ (.step _ _ _ (.here _))
    | unloadable hs start now fault =>
      rw [execute_of_unskipped hs]
      exact .step _ _ _ (.step _ _ _ (.step _ _ _ (.here _)))
    | ran hs start hr =>
      rw [execute_of_unskipped hs]
      exact .step _ _ _ (.step _ _ _ ((trace_attemptFrom_iff (.inl hopen)).mpr hr))

end Executor

end Retrial
