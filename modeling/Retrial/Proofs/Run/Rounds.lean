import Retrial.Proofs.Run.Budget

/-!
# Rounds of a case

A log tells of a case attempt by attempt.  It is cut into *rounds* before each request for a context
(`roundsIn`), and of a round it can be read how the attempt came out, what was looked up, who was
asked for a fix, how long the case was left alone, and which outcomes were reported.  None of this
looks at the loop that made the log.

In the log of a course every round has three phases: the attempt, the feedback that an earlier retry
still owes, and the decision what comes next (`Round`).  `Rounds` says how the rounds of a course
follow one another: only a retry or a fix leads to a further round, and only a retry leaves feedback
owing to it.
-/

namespace Retrial

/-! ### Reading a log -/

/-- The outcome of an attempt that an exchange decides: there is no context, or the run has
ended. -/
def Exchange.outcome? : Exchange → Option (Except Failure Unit)
  | ⟨.build _, .error k⟩ => some (.error (setupFailure k))
  | ⟨.invoke _ limitSecs, ended⟩ => some (RunEnd.outcome limitSecs ended)
  | _ => none

/-- The failure that an exchange looks up, with the pattern that was found. -/
def Exchange.lookUp? : Exchange → Option (Failure × Option Pattern)
  | ⟨.detect f, found⟩ => some (f, found)
  | _ => none

/-- The milliseconds for which an exchange leaves the case alone. -/
def Exchange.pause? : Exchange → Option Nat
  | ⟨.pause ms, _⟩ => some ms
  | _ => none

/-- The policy that an exchange names for a pattern id. -/
def Exchange.policy? : Exchange → Option (String × RetryPolicy)
  | ⟨.policy patternId, policy⟩ => some (patternId, policy)
  | _ => none

/-- The case and the failure for which an exchange asks for a fix, and the answer. -/
def Exchange.plea? : Exchange → Option (Case × Failure × Except Crash (Option String))
  | ⟨.heal c f, reply⟩ => some (c, f, reply)
  | _ => none

/-- The fix that an exchange brings: one that says something, from a healer that has not crashed. -/
def Exchange.fix? : Exchange → Option String
  | ⟨.heal _ _, .ok (some fix)⟩ => if Text.isBlankText fix then none else some fix
  | _ => none

/-- The outcome of a retry that an exchange reports, with the pattern that had granted it. -/
def Exchange.update? : Exchange → Option (String × Bool)
  | ⟨.feedback patternId success, _⟩ => some (patternId, success)
  | _ => none

/-- The rounds of a log: it is cut before each request for a context. -/
def roundsIn : List Exchange → List (List Exchange)
  | [] => []
  | e :: log =>
    if e.request.isBuild then (e :: log.takeWhile fun e => !e.request.isBuild) :: roundsIn log
    else roundsIn log

/-- The id of the pattern that grants a round a retry: the one found for the failure that was looked
up, if the case is left alone before it goes on. -/
def granterOf (round : List Exchange) : Option String :=
  if (round.filterMap Exchange.pause?).isEmpty then none
  else (round.filterMap Exchange.lookUp?).findSome? fun found => found.2.map Pattern.patternId

/-- The feedback that is owed when a round begins: what is owed at first, and then to the pattern
that granted the round before it a retry, if one did. -/
def owedAt (awaiting : Option String) (rounds : List (List Exchange)) : Nat → Option String
  | 0 => awaiting
  | i + 1 => rounds[i]?.bind granterOf

section Cutting

variable {log before round rest : List Exchange} {e : Exchange}

/-- What comes before the first request for a context is in no round. -/
lemma roundsIn_append_of_forall (h : ∀ e ∈ before, e.request.isBuild = false) :
    roundsIn (before ++ log) = roundsIn log := by
  induction before with
  | nil => rfl
  | cons e before ih =>
    rw [List.cons_append, roundsIn, if_neg (by simp [h e List.mem_cons_self])]
    exact ih fun e' he' => h e' (List.mem_cons_of_mem _ he')

/-- A round ends where the next one begins. -/
lemma roundsIn_cons_append (he : e.request.isBuild = true)
    (hround : ∀ e ∈ round, e.request.isBuild = false)
    (hrest : ∀ e ∈ rest.head?, e.request.isBuild = true) :
    roundsIn (e :: (round ++ rest)) = (e :: round) :: roundsIn rest := by
  have hcut : (rest.takeWhile fun e => !e.request.isBuild) = [] := by
    cases rest with
    | nil => rfl
    | cons e' rest => simp [hrest e' rfl]
  have htake : ((round ++ rest).takeWhile fun e => !e.request.isBuild) = round := by
    rw [List.takeWhile_append_of_pos fun e he => by simp [hround e he], hcut, List.append_nil]
  rw [roundsIn, if_pos he, htake, roundsIn_append_of_forall hround]

/-- The rounds make up the log from the first request for a context on. -/
lemma flatten_roundsIn (log : List Exchange) :
    (roundsIn log).flatten = log.dropWhile fun e => !e.request.isBuild := by
  induction log with
  | nil => rfl
  | cons e log ih =>
    by_cases he : e.request.isBuild = true
    · rw [roundsIn, if_pos he, List.flatten_cons, ih, List.cons_append,
        List.takeWhile_append_dropWhile, List.dropWhile_cons_of_neg (by simp [he])]
    · rw [roundsIn, if_neg he, ih, List.dropWhile_cons_of_pos (by simpa using he)]

/-- There is a round for each request for a context. -/
lemma length_roundsIn (log : List Exchange) : (roundsIn log).length = attemptsIn log := by
  induction log with
  | nil => rfl
  | cons e log ih =>
    rw [roundsIn, attemptsIn_cons, ← ih]
    split <;> rfl

/-- What is owed after the first round is owed to its granter. -/
lemma owedAt_cons (awaiting : Option String) (round : List Exchange)
    (rounds : List (List Exchange)) (i : Nat) :
    owedAt awaiting (round :: rounds) (i + 1) = owedAt (granterOf round) rounds i := by
  cases i <;> rfl

end Cutting

/-! ### Phases -/

/-- The phases of a round. -/
inductive Phase
  | attempt
  | feedback
  | decision
deriving DecidableEq

/-- The phase that a request belongs to. -/
def Request.phase : Request → Phase
  | .build _ => .attempt
  | .invoke _ _ => .attempt
  | .teardown _ => .attempt
  | .release _ => .attempt
  | .feedback _ _ => .feedback
  | _ => .decision

/-- All requests of a log belong to one phase. -/
def AllOf (s : Phase) (log : List Exchange) : Prop := ∀ e ∈ log, e.request.phase = s

/-- A reading sees nothing but the requests of one phase. -/
def Sees {α : Type} (s : Phase) (read : Exchange → Option α) : Prop :=
  ∀ e, e.request.phase ≠ s → read e = none

section Phases

variable {α : Type} {read : Exchange → Option α} {s s' : Phase}
  {attempted fed decided : List Exchange}

/-- A reading sees nothing at another phase. -/
lemma Sees.filterMap_eq_nil (h : Sees s read) {log : List Exchange} (hlog : AllOf s' log)
    (hs : s' ≠ s) : log.filterMap read = [] :=
  List.filterMap_eq_nil_iff.mpr fun e he => h e (hlog e he ▸ hs)

/-- Outcomes are seen at the attempt. -/
lemma sees_outcome? : Sees .attempt Exchange.outcome? := by
  intro e he
  unfold Exchange.outcome?
  split
  · exact absurd rfl he
  · exact absurd rfl he
  · rfl

/-- Updates are seen at the feedback. -/
lemma sees_update? : Sees .feedback Exchange.update? := by
  intro e he
  unfold Exchange.update?
  split
  · exact absurd rfl he
  · rfl

/-- Look-ups are seen at the decision. -/
lemma sees_lookUp? : Sees .decision Exchange.lookUp? := by
  intro e he
  unfold Exchange.lookUp?
  split
  · exact absurd rfl he
  · rfl

/-- Policies are seen at the decision. -/
lemma sees_policy? : Sees .decision Exchange.policy? := by
  intro e he
  unfold Exchange.policy?
  split
  · exact absurd rfl he
  · rfl

/-- Pauses are seen at the decision. -/
lemma sees_pause? : Sees .decision Exchange.pause? := by
  intro e he
  unfold Exchange.pause?
  split
  · exact absurd rfl he
  · rfl

/-- Pleas are seen at the decision. -/
lemma sees_plea? : Sees .decision Exchange.plea? := by
  intro e he
  unfold Exchange.plea?
  split
  · exact absurd rfl he
  · rfl

/-- Fixes are seen at the decision. -/
lemma sees_fix? : Sees .decision Exchange.fix? := by
  intro e he
  unfold Exchange.fix?
  split
  · exact absurd rfl he
  · rfl

/-- A reading of the feedback sees nothing of the rest of a round. -/
lemma Sees.filterMap_fed (h : Sees .feedback read) (ha : AllOf .attempt attempted)
    (hd : AllOf .decision decided) :
    (attempted ++ fed ++ decided).filterMap read = fed.filterMap read := by
  rw [List.filterMap_append, List.filterMap_append, h.filterMap_eq_nil ha (by decide),
    h.filterMap_eq_nil hd (by decide), List.nil_append, List.append_nil]

/-- A reading of the attempt sees nothing of the rest of a round. -/
lemma Sees.filterMap_attempted (h : Sees .attempt read) (hf : AllOf .feedback fed)
    (hd : AllOf .decision decided) :
    (attempted ++ fed ++ decided).filterMap read = attempted.filterMap read := by
  rw [List.filterMap_append, List.filterMap_append, h.filterMap_eq_nil hf (by decide),
    h.filterMap_eq_nil hd (by decide), List.append_nil, List.append_nil]

/-- A reading of the decision sees nothing of the rest of a round. -/
lemma Sees.filterMap_decided (h : Sees .decision read) (ha : AllOf .attempt attempted)
    (hf : AllOf .feedback fed) :
    (attempted ++ fed ++ decided).filterMap read = decided.filterMap read := by
  rw [List.filterMap_append, List.filterMap_append, h.filterMap_eq_nil ha (by decide),
    h.filterMap_eq_nil hf (by decide), List.nil_append, List.nil_append]

/-- Only an attempt asks for a context. -/
lemma Request.isBuild_of_phase {q : Request} (h : q.phase ≠ .attempt) : q.isBuild = false := by
  cases q with
  | build c => exact absurd rfl h
  | _ => rfl

end Phases

/-! ### The rounds of a course -/

/-- How a round ends. -/
inductive Turn
  /-- The attempt has passed. -/
  | passed
  /-- The pattern of the id has granted a retry. -/
  | retried (patternId : String)
  /-- A fix is applied. -/
  | healed (fix : String)
  /-- The failure ends the case. -/
  | failed

/-- Whether another round follows. -/
def Turn.goesOn : Turn → Bool
  | .retried _ => true
  | .healed _ => true
  | _ => false

/-- The pattern that has granted a retry, which is owed its outcome. -/
def Turn.granter? : Turn → Option String
  | .retried patternId => some patternId
  | _ => none

/-- The fix that is applied. -/
def Turn.fix? : Turn → Option String
  | .healed fix => some fix
  | _ => none

/-- A case goes on with a retry or with a fix. -/
lemma Turn.goesOn_iff {turn : Turn} :
    turn.goesOn = true ↔ turn.granter? ≠ none ∨ turn.fix?.toList ≠ [] := by
  cases turn <;> simp [goesOn, granter?, fix?]

namespace Executor

variable {x : Executor} {c : Case} {a n : Nat} {awaiting : Option String}
  {log round attempted decided found asked : List Exchange} {outcome : Except Failure Unit}
  {f : Failure} {turn : Turn}

/-- The exchanges with which the case decides what comes after the attempt numbered `a`. -/
inductive Decided (x : Executor) (c : Case) (a : Nat) :
    Except Failure Unit → List Exchange → Turn → Prop
  | passed (now : Time.Instant) : Decided x c a (.ok ()) [⟨.now, now⟩] .passed
  | retried (f : Failure) (p : Pattern) (policy : RetryPolicy) (hp : a ≤ policy.maxRetries.toNat) :
      Decided x c a (.error f)
        [⟨.detect f, some p⟩, ⟨.policy p.patternId, policy⟩, ⟨.pause (policy.delay a), ()⟩]
        (.retried p.patternId)
  | healed {f : Failure} {found : List Exchange} (hf : Ungranted a f found)
      (hm : x.mayHeal a = true) (reply : Except Crash (Option String)) (fix : String)
      (hx : acceptedFix reply = some fix) :
      Decided x c a (.error f) (found ++ [⟨.heal c f, reply⟩]) (.healed fix)
  | failed {f : Failure} {found asked : List Exchange} (hf : Ungranted a f found)
      (hh : Unhealed x c a f asked) (now : Time.Instant) (p : Pattern) :
      Decided x c a (.error f) (found ++ asked ++ [⟨.now, now⟩, ⟨.record c.id f, p⟩]) .failed

/-- A round of a case: the attempt numbered `a`, the feedback owed, and the decision. -/
inductive Round (x : Executor) (c : Case) (a : Nat) (awaiting : Option String) :
    List Exchange → Except Failure Unit → Turn → Prop
  | intro {attempted decided : List Exchange} {outcome : Except Failure Unit} {turn : Turn}
      (ha : Attempted x c attempted outcome) (hd : Decided x c a outcome decided turn) :
      Round x c a awaiting (attempted ++ feedbackLog awaiting outcome ++ decided) outcome turn

/-- The rounds of a case after `n` attempts, to its end. -/
inductive Rounds (x : Executor) (c : Case) : Nat → Option String → List (List Exchange) → Prop
  | last {n : Nat} {awaiting : Option String} {round : List Exchange}
      {outcome : Except Failure Unit} {turn : Turn}
      (h : Round x c (n + 1) awaiting round outcome turn) (ht : turn.goesOn = false) :
      Rounds x c n awaiting [round]
  | more {n : Nat} {awaiting : Option String} {round : List Exchange} {rest : List (List Exchange)}
      {outcome : Except Failure Unit} {turn : Turn}
      (h : Round x c (n + 1) awaiting round outcome turn) (ht : turn.goesOn = true)
      (hr : Rounds x c (n + 1) turn.granter? rest) : Rounds x c n awaiting (round :: rest)

/-! ### What can be read of a round -/

/-- An attempt asks for a context first, and for no other. -/
lemma Attempted.exists_cons (h : Attempted x c attempted outcome) :
    ∃ e rest, attempted = e :: rest ∧ e.request.isBuild = true ∧
      ∀ e ∈ rest, e.request.isBuild = false := by
  cases h with
  | unbuilt k => exact ⟨_, [], rfl, rfl, by simp⟩
  | ran ended closed => exact ⟨_, _, rfl, rfl, by simp [Request.isBuild]⟩

/-- An attempt is all attempt. -/
lemma Attempted.allOf (h : Attempted x c attempted outcome) : AllOf .attempt attempted := by
  cases h <;> simp [AllOf, Request.phase]

/-- An attempt has one outcome. -/
lemma Attempted.outcomes_eq (h : Attempted x c attempted outcome) :
    attempted.filterMap Exchange.outcome? = [outcome] := by
  cases h <;> rfl

/-- Feedback is all feedback. -/
lemma allOf_feedbackLog (awaiting : Option String) (outcome : Except Failure Unit) :
    AllOf .feedback (feedbackLog awaiting outcome) := by
  cases awaiting <;> simp [AllOf, feedbackLog, Request.phase]

/-- Feedback reports the outcome to whom it is owed. -/
lemma updates_feedbackLog (awaiting : Option String) (outcome : Except Failure Unit) :
    (feedbackLog awaiting outcome).filterMap Exchange.update? =
      awaiting.toList.map fun id => (id, succeeded outcome) := by
  cases awaiting <;> rfl

/-- A decision is all decision. -/
lemma Decided.allOf (h : Decided x c a outcome decided turn) : AllOf .decision decided := by
  cases h with
  | passed now => simp [AllOf, Request.phase]
  | retried f p policy hp => simp [AllOf, Request.phase]
  | healed hf hm reply fix hx => cases hf <;> simp [AllOf, Request.phase]
  | failed hf hh now p => cases hf <;> cases hh <;> simp [AllOf, Request.phase]

/-- What is read as a fix is what is accepted as one. -/
lemma fix?_heal (reply : Except Crash (Option String)) :
    Exchange.fix? ⟨.heal c f, reply⟩ = acceptedFix reply := by
  rcases reply with k | _ | fix <;> rfl

/-- Looking a failure up brings no fix. -/
lemma Ungranted.fixes_eq (h : Ungranted a f found) : found.filterMap Exchange.fix? = [] := by
  cases h <;> rfl

/-- Without an acceptable fix none is brought. -/
lemma Unhealed.fixes_eq (h : Unhealed x c a f asked) : asked.filterMap Exchange.fix? = [] := by
  cases h with
  | unasked hm => rfl
  | refused hm reply hr => rw [List.filterMap_cons_none ((fix?_heal reply).trans hr)]; rfl

/-- A decision brings the fix that its turn applies. -/
lemma Decided.fixes_eq (h : Decided x c a outcome decided turn) :
    decided.filterMap Exchange.fix? = turn.fix?.toList := by
  cases h with
  | passed now => rfl
  | retried f p policy hp => rfl
  | healed hf hm reply fix hx =>
    rw [List.filterMap_append, hf.fixes_eq,
      List.filterMap_cons_some ((fix?_heal reply).trans hx)]
    rfl
  | failed hf hh now p =>
    rw [List.filterMap_append, List.filterMap_append, hf.fixes_eq, hh.fixes_eq]
    rfl

/-- A decision names the pattern that grants a retry, if it comes to one. -/
lemma Decided.granterOf_eq (h : Decided x c a outcome decided turn) :
    granterOf decided = turn.granter? := by
  cases h with
  | passed now => rfl
  | retried f p policy hp => rfl
  | healed hf hm reply fix hx => cases hf <;> rfl
  | failed hf hh now p => cases hf <;> cases hh <;> rfl

/-- Only a decision that the case has failed enters a failure. -/
lemma Decided.recorded_eq (h : Decided x c a outcome decided turn) :
    (turn.goesOn = true → recorded decided = []) ∧
      ∀ f, outcome = .error f → turn = .failed → recorded decided = [(c.id, f)] := by
  cases h with
  | passed now => exact ⟨fun _ => rfl, fun f hf => by cases hf⟩
  | retried f p policy hp => exact ⟨fun _ => rfl, fun f _ ht => by cases ht⟩
  | healed hf hm reply fix hx =>
    exact ⟨fun _ => by simp [hf.recorded_eq, Request.entry?], fun f _ ht => by cases ht⟩
  | @failed f _ _ hf hh now p =>
    refine ⟨fun ht => (by cases ht), fun f' hf' _ => ?_⟩
    cases hf'
    simp [hf.recorded_eq, hh.recorded_eq, Request.entry?]

/-- A case goes on only after a failure. -/
lemma Decided.exists_error (h : Decided x c a outcome decided turn) (ht : turn.goesOn = true) :
    ∃ f, outcome = .error f := by
  cases h with
  | passed now => cases ht
  | retried f p policy hp => exact ⟨f, rfl⟩
  | healed hf hm reply fix hx => exact ⟨_, rfl⟩
  | failed hf hh now p => cases ht

namespace Round

/-- A round has one outcome. -/
lemma outcomes_eq (h : Round x c a awaiting round outcome turn) :
    round.filterMap Exchange.outcome? = [outcome] := by
  obtain ⟨ha, hd⟩ := h
  rw [sees_outcome?.filterMap_attempted (allOf_feedbackLog _ _) hd.allOf, ha.outcomes_eq]

/-- A round reports its outcome to whom it is owed, and nothing else. -/
lemma updates_eq (h : Round x c a awaiting round outcome turn) :
    round.filterMap Exchange.update? = awaiting.toList.map fun id => (id, succeeded outcome) := by
  obtain ⟨ha, hd⟩ := h
  rw [sees_update?.filterMap_fed ha.allOf hd.allOf, updates_feedbackLog]

/-- A round brings the fix that its turn applies. -/
lemma fixes_eq (h : Round x c a awaiting round outcome turn) :
    round.filterMap Exchange.fix? = turn.fix?.toList := by
  obtain ⟨ha, hd⟩ := h
  rw [sees_fix?.filterMap_decided ha.allOf (allOf_feedbackLog _ _), hd.fixes_eq]

/-- A round names the pattern that grants a retry, if it comes to one. -/
lemma granterOf_eq (h : Round x c a awaiting round outcome turn) :
    granterOf round = turn.granter? := by
  obtain ⟨ha, hd⟩ := h
  rw [← hd.granterOf_eq, granterOf, granterOf,
    sees_pause?.filterMap_decided ha.allOf (allOf_feedbackLog _ _),
    sees_lookUp?.filterMap_decided ha.allOf (allOf_feedbackLog _ _)]

/-- Only a round that ends the case with its failure enters this failure. -/
lemma recorded_eq (h : Round x c a awaiting round outcome turn) :
    (turn.goesOn = true → recorded round = []) ∧
      ∀ f, outcome = .error f → turn = .failed → recorded round = [(c.id, f)] := by
  obtain ⟨ha, hd⟩ := h
  rw [recorded_append, recorded_append, ha.recorded_eq, recorded_feedbackLog, List.nil_append,
    List.nil_append]
  exact hd.recorded_eq

/-- A case goes on only after a failure. -/
lemma exists_error (h : Round x c a awaiting round outcome turn) (ht : turn.goesOn = true) :
    ∃ f, outcome = .error f := by
  obtain ⟨-, hd⟩ := h
  exact hd.exists_error ht

/-- A round begins with its request for a context. -/
lemma exists_cons (h : Round x c a awaiting round outcome turn) :
    ∃ e rest, round = e :: rest ∧ e.request.isBuild = true ∧
      ∀ e ∈ rest, e.request.isBuild = false := by
  obtain ⟨ha, hd⟩ := h
  obtain ⟨e, rest, rfl, he, hrest⟩ := ha.exists_cons
  refine ⟨e, _, by rw [List.cons_append, List.cons_append], he, fun e' he' => ?_⟩
  rcases List.mem_append.mp he' with he' | he'
  · rcases List.mem_append.mp he' with he' | he'
    · exact hrest e' he'
    · exact Request.isBuild_of_phase (by rw [allOf_feedbackLog _ _ e' he']; decide)
  · exact Request.isBuild_of_phase (by rw [hd.allOf e' he']; decide)

/-- So does a log that begins with a round. -/
lemma head?_append (h : Round x c a awaiting round outcome turn) (rest : List Exchange) :
    ∀ e ∈ (round ++ rest).head?, e.request.isBuild = true := by
  obtain ⟨e, round, rfl, he, -⟩ := h.exists_cons
  rintro _ ⟨⟩
  exact he

/-- A round is cut off where the next one begins. -/
lemma roundsIn_append (h : Round x c a awaiting round outcome turn) {rest : List Exchange}
    (hrest : ∀ e ∈ rest.head?, e.request.isBuild = true) :
    roundsIn (round ++ rest) = round :: roundsIn rest := by
  obtain ⟨e, round, rfl, he, hround⟩ := h.exists_cons
  exact roundsIn_cons_append he hround hrest

/-- A round is a log of one round. -/
lemma roundsIn_eq (h : Round x c a awaiting round outcome turn) : roundsIn round = [round] := by
  have hnil : ∀ e ∈ ([] : List Exchange).head?, e.request.isBuild = true := by simp
  simpa [roundsIn] using h.roundsIn_append hnil

end Round

/-! ### Courses by rounds -/

/-- Courses by their rounds: a course is its first round and, if the case goes on, another
course. -/
@[elab_as_elim]
lemma Course.byRounds
    {motive : ∀ {n : Nat} {r : Result} {retried : Bool} {awaiting : Option String}
      {log : List Exchange} {res : Result}, Course x c n r retried awaiting log res → Prop}
    (passed : ∀ {n : Nat} {r : Result} {retried : Bool} {awaiting : Option String}
      {round : List Exchange} (_ : Round x c (n + 1) awaiting round (.ok ()) .passed)
      (now : Time.Instant)
      (h : Course x c n r retried awaiting round ((numbered (n + 1) r).success now retried)),
      motive h)
    (retried : ∀ {n : Nat} {r res : Result} {retried : Bool} {awaiting : Option String}
      {id : String} {f : Failure} {round rest : List Exchange}
      (_ : Round x c (n + 1) awaiting round (.error f) (.retried id))
      (hr : Course x c (n + 1) ((numbered (n + 1) r).withFailure f) true (some id) rest res)
      (h : Course x c n r retried awaiting (round ++ rest) res), motive hr → motive h)
    (healed : ∀ {n : Nat} {r res : Result} {retried : Bool} {awaiting : Option String}
      {fix : String} {f : Failure} {round rest : List Exchange}
      (_ : Round x c (n + 1) awaiting round (.error f) (.healed fix))
      (hr : Course x c (n + 1) (((numbered (n + 1) r).withFailure f).withFix fix) retried none rest
        res)
      (h : Course x c n r retried awaiting (round ++ rest) res), motive hr → motive h)
    (failed : ∀ {n : Nat} {r : Result} {retried : Bool} {awaiting : Option String} {f : Failure}
      {round : List Exchange} (_ : Round x c (n + 1) awaiting round (.error f) .failed)
      (now : Time.Instant)
      (h : Course x c n r retried awaiting round
        ({ (numbered (n + 1) r).withFailure f with status := .failed }.finish now)), motive h)
    {n : Nat} {r : Result} {wasRetried : Bool} {awaiting : Option String} {log : List Exchange}
    {res : Result} (h : Course x c n r wasRetried awaiting log res) : motive h := by
  induction h with
  | pass ha now => exact passed (.intro ha (.passed now)) now (.pass ha now)
  | retry ha p policy hp hr ih =>
    exact retried (.intro ha (.retried _ p policy hp)) hr (.retry ha p policy hp hr) ih
  | @heal n r res wasRetried awaiting log found rest f ha hf hm reply fix hx hr ih =>
    -- The phases of the round are put together in another order than the log has them.
    suffices hany : ∀ log' (_ : log' = log ++ feedbackLog awaiting (.error f) ++
        (found ++ [⟨.heal c f, reply⟩]) ++ rest) (h : Course x c n r wasRetried awaiting log' res),
        motive h from hany _ (by simp) _
    rintro _ rfl h
    exact healed (.intro ha (.healed hf hm reply fix hx)) hr h ih
  | @fail n r wasRetried awaiting log found asked f ha hf hh now p =>
    suffices hany : ∀ log' (_ : log' = log ++ feedbackLog awaiting (.error f) ++
        (found ++ asked ++ [⟨.now, now⟩, ⟨.record c.id f, p⟩])) (h : Course x c n r wasRetried
        awaiting log' ({ (numbered (n + 1) r).withFailure f with status := .failed }.finish now)),
        motive h from hany _ (by simp) _
    rintro _ rfl h
    exact failed (.intro ha (.failed hf hh now p)) now h

section Course

variable {r res : Result} {retried : Bool} {rs : List (List Exchange)}

/-- A course begins with a request for a context. -/
lemma Course.head?_isBuild (h : Course x c n r retried awaiting log res) :
    ∀ e ∈ log.head?, e.request.isBuild = true := by
  induction h using Course.byRounds with
  | passed hround now _ => simpa using hround.head?_append []
  | retried hround _ _ _ => exact hround.head?_append _
  | healed hround _ _ _ => exact hround.head?_append _
  | failed hround now _ => simpa using hround.head?_append []

/-- The rounds of a course follow one another as rounds do. -/
lemma Course.rounds (h : Course x c n r retried awaiting log res) :
    Rounds x c n awaiting (roundsIn log) := by
  induction h using Course.byRounds with
  | passed hround now _ =>
    rw [hround.roundsIn_eq]
    exact .last hround rfl
  | retried hround hr _ ih =>
    rw [hround.roundsIn_append hr.head?_isBuild]
    exact .more hround rfl ih
  | healed hround hr _ ih =>
    rw [hround.roundsIn_append hr.head?_isBuild]
    exact .more hround rfl ih
  | failed hround now _ =>
    rw [hround.roundsIn_eq]
    exact .last hround rfl

/-- The rounds of a course make up its log. -/
lemma Course.flatten_roundsIn (h : Course x c n r retried awaiting log res) :
    (roundsIn log).flatten = log := by
  rw [Retrial.flatten_roundsIn]
  cases log with
  | nil => rfl
  | cons e log => exact List.dropWhile_cons_of_neg (by simp [h.head?_isBuild e rfl])

namespace Rounds

/-- There is a round. -/
lemma length_pos (h : Rounds x c n awaiting rs) : 0 < rs.length := by
  cases h <;> simp

/-- Each round is the round of its attempt, begins with what is owed to the round before it, and is
followed by another one exactly if it goes on. -/
lemma exists_round (h : Rounds x c n awaiting rs) {i : Nat} (hi : rs[i]? = some round) :
    ∃ outcome turn, Round x c (n + i + 1) (owedAt awaiting rs i) round outcome turn ∧
      (turn.goesOn = true ↔ i + 1 < rs.length) := by
  induction h generalizing i with
  | @last n awaiting only outcome turn h ht =>
    cases i with
    | zero =>
      cases hi
      exact ⟨outcome, turn, h, by simp [ht]⟩
    | succ i => simp at hi
  | @more n awaiting first rest outcome turn h ht hr ih =>
    cases i with
    | zero =>
      cases hi
      exact ⟨outcome, turn, h, by simp [ht, hr.length_pos]⟩
    | succ i =>
      obtain ⟨outcome', turn', hround, hlast⟩ := ih hi
      rw [owedAt_cons, h.granterOf_eq, show n + (i + 1) + 1 = n + 1 + i + 1 by omega]
      exact ⟨outcome', turn', hround, by simpa using hlast⟩

end Rounds

/-- A run that is cut off is the beginning of one that comes to its end. -/
lemma exists_executed_append {p : Proc Result} (h : Proc.Path (x.execute c) log p) :
    ∃ rest res, Executed x c (log ++ rest) res := by
  obtain ⟨rest, res, hrest⟩ := p.exists_trace
  exact ⟨rest, res, trace_execute_iff.mp (h.append hrest)⟩

/-- A run takes a course from the first attempt on once the module was loaded, and has no rounds if
it was not. -/
lemma Executed.loaded_cases (h : Executed x c log res) :
    (∃ start rest, log = ⟨.now, start⟩ :: ⟨.load c, .ok ()⟩ :: rest ∧
      Course x c 0 { Result.pending start c.id with status := .running } false none rest res) ∨
    ¬Loaded c log ∧ roundsIn log = [] := by
  cases h with
  | skipped hs start finish =>
    refine .inr ⟨?_, rfl⟩
    simp only [Loaded, List.mem_cons, List.not_mem_nil, or_false]
    rintro (h | h) <;> cases h
  | unloadable hs start now fault =>
    refine .inr ⟨?_, rfl⟩
    simp only [Loaded, List.mem_cons, List.not_mem_nil, or_false]
    rintro (h | h | h) <;> cases h
  | @ran _ start rest _ hr => exact .inl ⟨start, rest, rfl, hr⟩

/-- A run has no rounds, or they are those of a case from its first attempt on. -/
lemma Executed.rounds (h : Executed x c log res) :
    roundsIn log = [] ∨ Rounds x c 0 none (roundsIn log) := by
  rcases h.loaded_cases with ⟨start, rest, rfl, hr⟩ | ⟨-, hnone⟩
  · exact .inr hr.rounds
  · exact .inl hnone

/-- What is neither a time nor a module is read in the rounds only. -/
lemma Executed.filterMap_eq {α : Type} {read : Exchange → Option α} (h : Executed x c log res)
    (hnow : ∀ now, read ⟨.now, now⟩ = none) (hload : ∀ loaded, read ⟨.load c, loaded⟩ = none) :
    log.filterMap read = (roundsIn log).flatten.filterMap read := by
  cases h with
  | skipped hs start finish =>
    exact (List.filterMap_cons_none (hnow start)).trans (List.filterMap_cons_none (hnow finish))
  | unloadable hs start now fault =>
    exact (List.filterMap_cons_none (hnow start)).trans
      ((List.filterMap_cons_none (hload _)).trans (List.filterMap_cons_none (hnow now)))
  | @ran _ start rest _ hr =>
    have hcut : roundsIn (⟨.now, start⟩ :: ⟨.load c, .ok ()⟩ :: rest) = roundsIn rest := rfl
    rw [hcut, hr.flatten_roundsIn]
    exact (List.filterMap_cons_none (hnow start)).trans (List.filterMap_cons_none (hload _))

/-- Each round of a run is the round of its attempt. -/
lemma Executed.exists_round (h : Executed x c log res) {i : Nat}
    (hi : (roundsIn log)[i]? = some round) :
    ∃ outcome turn, Round x c (i + 1) (owedAt none (roundsIn log) i) round outcome turn ∧
      (turn.goesOn = true ↔ i + 1 < (roundsIn log).length) := by
  rcases h.rounds with hnone | hrounds
  · simp [hnone] at hi
  · simpa using hrounds.exists_round hi

end Course

end Executor

end Retrial
