import Retrial.Proofs.Pattern.Tally

/-!
# A pattern book only grows

No call takes a pattern or a policy out of a book, and under its id each stays what it is: calls
count on (`frequency_onPattern`, `totalApplied_onPolicy`), add cases, and suggest other fixes, but
change neither what a pattern stands for nor how its failures are retried (`Grows`).  This holds of
every book, also of one read from a file whose two parts do not fit together: a pattern without a
policy stays without one, and a policy without a pattern is not replaced when its pattern is
entered.

What a call does to an entry is a function of the entry and the call (`Call.onPattern`,
`Call.onPolicy`), so what calls do to it is one such step after another.
-/

namespace Retrial

/-- What a pattern may become: it stands for the same failures, has ended no fewer cases, and still
has a fix if it had one. -/
structure Pattern.Grows (p p' : Pattern) : Prop where
  patternId : p'.patternId = p.patternId
  kind : p'.kind = p.kind
  signature : p'.signature = p.signature
  affectedTests : ∀ testId, p.affectedTests.contains testId = true →
    p'.affectedTests.contains testId = true
  suggestedFix : p.suggestedFix.isSome = true → p'.suggestedFix.isSome = true

namespace Pattern.Grows

variable {p p' p'' : Pattern}

/-- A pattern may stay as it is. -/
lemma refl (p : Pattern) : p.Grows p := ⟨rfl, rfl, rfl, fun _ h => h, fun h => h⟩

/-- Growth adds up. -/
lemma trans (h : p.Grows p') (h' : p'.Grows p'') : p.Grows p'' where
  patternId := h'.patternId.trans h.patternId
  kind := h'.kind.trans h.kind
  signature := h'.signature.trans h.signature
  affectedTests := fun testId hc => h'.affectedTests testId (h.affectedTests testId hc)
  suggestedFix := fun hf => h'.suggestedFix (h.suggestedFix hf)

/-- One more occurrence. -/
lemma touch (now : Time.Instant) (p : Pattern) : p.Grows (p.touch now) :=
  ⟨rfl, rfl, rfl, fun _ h => h, fun h => h⟩

/-- One more case, and perhaps another fix. -/
lemma implicate (p : Pattern) (testId : String) (fix : Option String) :
    p.Grows (p.implicate testId fix) where
  patternId := rfl
  kind := rfl
  signature := rfl
  affectedTests := fun other hc => (NameSet.contains_add _ _ _).mpr (.inr hc)
  suggestedFix := fun hf => by
    change (fix.or p.suggestedFix).isSome = true
    rw [Option.isSome_or, hf, Bool.or_true]

end Pattern.Grows

/-- What a policy may become: it grants the same retries after the same delays. -/
structure RetryPolicy.Grows (q q' : RetryPolicy) : Prop where
  patternId : q'.patternId = q.patternId
  maxRetries : q'.maxRetries = q.maxRetries
  backoff : q'.backoff = q.backoff
  baseDelayMs : q'.baseDelayMs = q.baseDelayMs
  maxDelayMs : q'.maxDelayMs = q.maxDelayMs

namespace RetryPolicy.Grows

variable {q q' q'' : RetryPolicy}

/-- A policy may stay as it is. -/
lemma refl (q : RetryPolicy) : q.Grows q := ⟨rfl, rfl, rfl, rfl, rfl⟩

/-- Growth adds up. -/
lemma trans (h : q.Grows q') (h' : q'.Grows q'') : q.Grows q'' where
  patternId := h'.patternId.trans h.patternId
  maxRetries := h'.maxRetries.trans h.maxRetries
  backoff := h'.backoff.trans h.backoff
  baseDelayMs := h'.baseDelayMs.trans h.baseDelayMs
  maxDelayMs := h'.maxDelayMs.trans h.maxDelayMs

/-- One more retry counted. -/
lemma recordOutcome (q : RetryPolicy) (success : Bool) : q.Grows (q.recordOutcome success) :=
  ⟨rfl, rfl, rfl, rfl, rfl⟩

end RetryPolicy.Grows

namespace PatternStore

namespace Call

variable {b : PatternBook} {id : String} {p : Pattern} {q : RetryPolicy}

/-- Whether the call meets a failure of the pattern id: it looks one up or enters one. -/
def meets (id : String) (c : Call) : Bool := c.enters id || c.looksUp id

/-- What a call makes of the pattern under an id. -/
def onPattern (id : String) : Call → Pattern → Pattern
  | detect now message trace, p =>
    if Signature.patternIdOf message trace = id then p.touch now else p
  | record now testId message trace fix, p =>
    if Signature.patternIdOf message trace = id then (p.touch now).implicate testId fix else p
  | _, p => p

/-- What a call makes of the policy under an id. -/
def onPolicy (id : String) : Call → RetryPolicy → RetryPolicy
  | feedback id' success, q => if id' = id then q.recordOutcome success else q
  | _, q => q

/-- A pattern stays under its id, as what the call makes of it. -/
lemma get?_patterns_enter (h : b.patterns.get? id = some p) (c : Call) :
    (c.enter b).patterns.get? id = some (c.onPattern id p) := by
  cases c with
  | detect now message trace =>
    by_cases hid : Signature.patternIdOf message trace = id
    · subst hid
      rw [enter, PatternBook.get?_patterns_detect, PatternBook.detect_fst, h]
      simp [onPattern]
    · rw [enter, PatternBook.changesOnly_detect.patterns id (Ne.symm hid), h]
      simp [onPattern, hid]
  | record now testId message trace fix =>
    by_cases hid : Signature.patternIdOf message trace = id
    · subst hid
      rw [enter, PatternBook.get?_patterns_record, PatternBook.recordedPattern_eq, h]
      simp [onPattern]
    · rw [enter, PatternBook.changesOnly_record.patterns id (Ne.symm hid), h]
      simp [onPattern, hid]
  | _ => exact h

/-- A policy stays under its id, as what the call makes of it. -/
lemma get?_policies_enter (h : b.policies.get? id = some q) (c : Call) :
    (c.enter b).policies.get? id = some (c.onPolicy id q) := by
  cases c with
  | detect now message trace =>
    rw [enter, PatternBook.policies_detect]
    exact h
  | record now testId message trace fix =>
    -- Where the pattern is new and the policy is not, the policy is kept.
    rw [enter, PatternBook.get?_policies_record, h, Option.getD_some, ite_self, ite_self]
    rfl
  | feedback id' success =>
    rw [enter, PatternBook.feedback, Dict.get?_modify]
    by_cases hid : id' = id
    · subst hid
      simp [onPolicy, h]
    · simp [onPolicy, hid, Ne.symm hid, h]
  | _ => exact h

/-- A call lets a pattern grow. -/
lemma grows_onPattern (id : String) (c : Call) (p : Pattern) : p.Grows (c.onPattern id p) := by
  cases c with
  | detect now message trace =>
    rw [onPattern]
    split_ifs
    · exact .touch now p
    · exact .refl p
  | record now testId message trace fix =>
    rw [onPattern]
    split_ifs
    · exact (Pattern.Grows.touch now p).trans (.implicate _ testId fix)
    · exact .refl p
  | _ => exact .refl p

/-- A call counts for the pattern if it meets a failure of its id. -/
lemma frequency_onPattern (id : String) (c : Call) (p : Pattern) :
    (c.onPattern id p).frequency = p.frequency.plus (if c.meets id then 1 else 0) := by
  cases c with
  | detect now message trace =>
    by_cases hid : Signature.patternIdOf message trace = id <;>
      simp [onPattern, meets, enters, looksUp, hid, Pattern.touch]
  | record now testId message trace fix =>
    by_cases hid : Signature.patternIdOf message trace = id <;>
      simp [onPattern, meets, enters, looksUp, hid, Pattern.touch, Pattern.implicate]
  | _ => exact (Counter.plus_zero _).symm

/-- A call lets a policy grow. -/
lemma grows_onPolicy (id : String) (c : Call) (q : RetryPolicy) : q.Grows (c.onPolicy id q) := by
  cases c with
  | feedback id' success =>
    rw [onPolicy]
    split_ifs
    · exact .recordOutcome q success
    · exact .refl q
  | _ => exact .refl q

/-- A call counts for the policy if it reports an outcome under its id. -/
lemma totalApplied_onPolicy (id : String) (c : Call) (q : RetryPolicy) :
    (c.onPolicy id q).totalApplied = q.totalApplied.plus (if c.reports id then 1 else 0) := by
  cases c with
  | feedback id' success =>
    by_cases hid : id' = id <;> simp [onPolicy, reports, hid, RetryPolicy.recordOutcome]
  | _ => exact (Counter.plus_zero _).symm

end Call

variable {b : PatternBook} {id : String}

/-- Calls keep a pattern and let it grow; it has occurred once more for each call that meets a
failure of its id. -/
lemma exists_patterns_enterAll {p : Pattern} (h : b.patterns.get? id = some p)
    (calls : List Call) :
    ∃ p', (enterAll b calls).patterns.get? id = some p' ∧ p.Grows p' ∧
      p'.frequency = p.frequency.plus (calls.countP (Call.meets id)) := by
  induction calls generalizing b p with
  | nil => exact ⟨p, h, .refl p, (Counter.plus_zero _).symm⟩
  | cons c cs ih =>
    obtain ⟨p', hp', hgrows, hfreq⟩ := ih (c.get?_patterns_enter h)
    refine ⟨p', hp', (c.grows_onPattern id p).trans hgrows, ?_⟩
    rw [hfreq, c.frequency_onPattern, Counter.plus_plus, List.countP_cons, Nat.add_comm]

/-- A failure that calls have entered is known after them. -/
lemma exists_patterns_of_mem {now : Time.Instant} {testId message trace : String}
    {fix : Option String} {calls : List Call} (h : .record now testId message trace fix ∈ calls)
    (b : PatternBook) :
    ∃ p, (enterAll b calls).patterns.get? (Signature.patternIdOf message trace) = some p := by
  obtain ⟨before, after, rfl⟩ := List.append_of_mem h
  rw [enterAll_append, enterAll_cons]
  obtain ⟨p, hp, -⟩ := exists_patterns_enterAll PatternBook.get?_patterns_record after
  exact ⟨p, hp⟩

/-- Calls keep a policy and let it grow; it has counted one more retry for each call that reports an
outcome under its id. -/
lemma exists_policies_enterAll {q : RetryPolicy} (h : b.policies.get? id = some q)
    (calls : List Call) :
    ∃ q', (enterAll b calls).policies.get? id = some q' ∧ q.Grows q' ∧
      q'.totalApplied = q.totalApplied.plus (calls.countP (Call.reports id)) := by
  induction calls generalizing b q with
  | nil => exact ⟨q, h, .refl q, (Counter.plus_zero _).symm⟩
  | cons c cs ih =>
    obtain ⟨q', hq', hgrows, hcount⟩ := ih (c.get?_policies_enter h)
    refine ⟨q', hq', (c.grows_onPolicy id q).trans hgrows, ?_⟩
    rw [hcount, c.totalApplied_onPolicy, Counter.plus_plus, List.countP_cons, Nat.add_comm]

/-- Whatever a store holds, and so after any calls before and whatever document it was opened on,
further calls take away no pattern and no policy.  A pattern keeps its id, kind and signature, its
cases and a fix, and its frequency counts on by one for each call that looks up or enters a failure
of its id; a policy keeps its id, its retries, its backoff and its delays, and its count goes on by
one for each outcome reported under its id.  As long as they do not overflow these numbers go up. -/
theorem runCalls_grows (s : PatternStore) (d : Disk) (calls : List Call) :
    let b := (runCalls s d calls).2.1.book
    (∀ id p, s.book.patterns.get? id = some p →
      ∃ p', b.patterns.get? id = some p' ∧ p.Grows p' ∧
        p'.frequency = p.frequency.plus (calls.countP (Call.meets id)) ∧
        (p.frequency.toNat + calls.countP (Call.meets id) < 2 ^ 64 →
          p'.frequency.toNat = p.frequency.toNat + calls.countP (Call.meets id))) ∧
    ∀ id q, s.book.policies.get? id = some q →
      ∃ q', b.policies.get? id = some q' ∧ q.Grows q' ∧
        q'.totalApplied = q.totalApplied.plus (calls.countP (Call.reports id)) ∧
        (q.totalApplied.toNat + calls.countP (Call.reports id) < 2 ^ 64 →
          q'.totalApplied.toNat = q.totalApplied.toNat + calls.countP (Call.reports id)) := by
  intro b
  have hb : b = enterAll s.book calls :=
    congrArg PatternStore.book (runCalls_store s d calls)
  rw [hb]
  refine ⟨fun id p hp => ?_, fun id q hq => ?_⟩
  · obtain ⟨p', hp', hgrows, hfrequency⟩ := exists_patterns_enterAll hp calls
    exact ⟨p', hp', hgrows, hfrequency, fun hroom => hfrequency ▸ Counter.toNat_plus_of_lt hroom⟩
  · obtain ⟨q', hq', hgrows, happlied⟩ := exists_policies_enterAll hq calls
    exact ⟨q', hq', hgrows, happlied, fun hroom => happlied ▸ Counter.toNat_plus_of_lt hroom⟩

end PatternStore

end Retrial
