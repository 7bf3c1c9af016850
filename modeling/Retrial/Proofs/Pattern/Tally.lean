import Retrial.Proofs.Collection.Dict
import Retrial.Proofs.Pattern.Calls

/-!
# What a pattern store counts

A store that started empty is a tally of the calls made on it.  A pattern is known exactly if some
call has entered a failure of its id; its frequency counts these calls and, from the first of them
on, the look-ups of its failures; its cases are those that the failures entered have ended; and its
policy counts the retry outcomes reported since that first call (`Tally`).

Every call is about one id, so it is enough to follow one id through the calls.  What happens under
the id depends on whether it has been entered before, which is why the calls are split at the first
one that enters it (`since`).
-/

namespace Retrial

open Time (Instant)

/-- A pattern's first policy has counted no retry yet. -/
@[simp] lemma RetryPolicy.totalApplied_ofKind (id : String) (kind : FailureKind) :
    (RetryPolicy.ofKind id kind).totalApplied = .ofNat 0 := by cases kind <;> rfl

namespace PatternStore

namespace Call

/-- Whether the call enters a failure of the pattern id. -/
def enters (id : String) : Call → Bool
  | record _ _ message trace _ => Signature.patternIdOf message trace == id
  | _ => false

/-- Whether the call looks up a failure of the pattern id. -/
def looksUp (id : String) : Call → Bool
  | detect _ message trace => Signature.patternIdOf message trace == id
  | _ => false

/-- Whether the call reports the outcome of a retry under the pattern id. -/
def reports (id : String) : Call → Bool
  | feedback id' _ => id' == id
  | _ => false

/-- The case that the call says a failure has ended. -/
def ended? : Call → Option String
  | record _ testId _ _ _ => some testId
  | _ => none

end Call

/-- The calls after the first one that enters a failure of the pattern id. -/
def since (id : String) (calls : List Call) : List Call :=
  (calls.dropWhile fun c => !c.enters id).tail

/-- One more call comes after the first entering one if there is such a one already. -/
lemma since_append_singleton (id : String) (calls : List Call) (c : Call) :
    since id (calls ++ [c]) =
      if calls.any (Call.enters id) then since id calls ++ [c] else [] := by
  induction calls with
  | nil =>
    by_cases hc : c.enters id = true <;> simp [since, hc]
  | cons first rest ih =>
    by_cases hf : first.enters id = true
    · simp [since, hf]
    · have hskip : ∀ cs, since id (first :: cs) = since id cs := fun cs => by simp [since, hf]
      rw [List.cons_append, hskip, hskip, ih, List.any_cons]
      simp [hf]

/-- The calls after the first one that enters a failure are some of them. -/
lemma since_sublist (id : String) (calls : List Call) : (since id calls).Sublist calls :=
  (List.tail_sublist _).trans (List.dropWhile_sublist _)

/-- No call both enters a failure and looks one up, so there are as many calls as do either. -/
lemma countP_met_le (id : String) (calls : List Call) :
    calls.countP (Call.enters id) + (since id calls).countP (Call.looksUp id) ≤ calls.length := by
  have hdisjoint : ∀ c ∈ calls, c.looksUp id = true → decide (¬c.enters id = true) = true := by
    intro c _ hc
    cases c with
    | detect now message trace => rfl
    | _ => cases hc
  have hlater :
      (since id calls).countP (Call.looksUp id) ≤ calls.countP (¬Call.enters id · = true) :=
    (since_sublist id calls).countP_le.trans (List.countP_mono_left hdisjoint)
  have hlength := List.length_eq_countP_add_countP (Call.enters id) (l := calls)
  omega

/-- Some call has entered a failure of the pattern id that ended the case. -/
def Implicated (calls : List Call) (id testId : String) : Prop :=
  ∃ c ∈ calls, c.enters id = true ∧ c.ended? = some testId

/-- One more call implicates at most the case that it says a failure has ended. -/
lemma implicated_append_singleton {calls : List Call} {c : Call} {id testId : String} :
    Implicated (calls ++ [c]) id testId ↔
      Implicated calls id testId ∨ c.enters id = true ∧ c.ended? = some testId := by
  simp [Implicated, or_and_right, exists_or]

/-- What a book says about a pattern id after some calls: nothing as long as none of them has
entered a failure of the id, and from then on a pattern and a policy that count the calls. -/
structure Tally (calls : List Call) (b : PatternBook) (id : String) : Prop where
  unknown : calls.any (Call.enters id) = false →
    b.patterns.get? id = none ∧ b.policies.get? id = none
  known : calls.any (Call.enters id) = true → ∃ p q,
    b.patterns.get? id = some p ∧ b.policies.get? id = some q ∧ p.patternId = id ∧
      p.frequency = .ofNat
        (calls.countP (Call.enters id) + (since id calls).countP (Call.looksUp id)) ∧
      (∀ testId, p.affectedTests.contains testId = true ↔ Implicated calls id testId) ∧
      q.totalApplied = .ofNat ((since id calls).countP (Call.reports id))

namespace Tally

variable {calls : List Call} {b : PatternBook} {id : String}

/-- Before any call nothing is known. -/
lemma nil : Tally [] PatternBook.empty id :=
  ⟨fun _ => ⟨rfl, rfl⟩, fun h => by simp at h⟩

/-- The pattern is known exactly if a failure of its id has been entered. -/
lemma isSome_iff (h : Tally calls b id) :
    (b.patterns.get? id).isSome = true ↔ ∃ c ∈ calls, c.enters id = true := by
  rw [← List.any_eq_true]
  cases hany : calls.any (Call.enters id) with
  | false => simp [(h.unknown hany).1]
  | true =>
    obtain ⟨p, q, hp, -⟩ := h.known hany
    simp [hp]

/-- A call that neither enters, looks up nor reports anything under the id, and leaves what the book
says about it, leaves its tally. -/
lemma of_idle {c : Call} {b' : PatternBook} (h : Tally calls b id) (he : c.enters id = false)
    (hl : c.looksUp id = false) (hr : c.reports id = false)
    (hp : b'.patterns.get? id = b.patterns.get? id)
    (hq : b'.policies.get? id = b.policies.get? id) : Tally (calls ++ [c]) b' id := by
  have hany : (calls ++ [c]).any (Call.enters id) = calls.any (Call.enters id) := by simp [he]
  refine ⟨fun hno => ?_, fun hyes => ?_⟩
  · rw [hany] at hno
    rw [hp, hq]
    exact h.unknown hno
  · rw [hany] at hyes
    obtain ⟨p, q, hgp, hgq, hname, hfreq, htests, happlied⟩ := h.known hyes
    refine ⟨p, q, hp.trans hgp, hq.trans hgq, hname, ?_, fun testId => ?_, ?_⟩
    · simp [since_append_singleton, hyes, he, hl, hfreq]
    · rw [htests, implicated_append_singleton]
      simp [he]
    · simp [since_append_singleton, hyes, hr, happlied]

/-- Looking up a failure of the id counts if the id is known. -/
lemma detect {now : Instant} {message trace : String} (h : Tally calls b id)
    (hid : Signature.patternIdOf message trace = id) :
    Tally (calls ++ [.detect now message trace]) (b.detect now message trace).2 id := by
  subst hid
  have hpol : (b.detect now message trace).2.policies = b.policies := PatternBook.policies_detect
  have hpat : (b.detect now message trace).2.patterns.get? (Signature.patternIdOf message trace) =
      (b.detect now message trace).1 := PatternBook.get?_patterns_detect
  rw [PatternBook.detect_fst] at hpat
  refine ⟨fun hno => ?_, fun hyes => ?_⟩
  · have hno' := h.unknown (by simpa [Call.enters] using hno)
    rw [hpat, hpol, hno'.1]
    exact ⟨rfl, hno'.2⟩
  · have hyes' : calls.any (Call.enters (Signature.patternIdOf message trace)) = true := by
      simpa [Call.enters] using hyes
    obtain ⟨p, q, hgp, hgq, hname, hfreq, htests, happlied⟩ := h.known hyes'
    refine ⟨p.touch now, q, by rw [hpat, hgp]; rfl, by rw [hpol, hgq], hname, ?_,
      fun testId => ?_, ?_⟩
    · simp [since_append_singleton, hyes', Call.enters, Call.looksUp, Pattern.touch, hfreq,
        Nat.add_assoc]
    · rw [Pattern.touch, htests, implicated_append_singleton]
      simp [Call.enters]
    · simp [since_append_singleton, hyes', Call.reports, happlied]

/-- Entering a failure of the id counts, and adds the case it has ended. -/
lemma record {now : Instant} {testId message trace : String} {fix : Option String}
    (h : Tally calls b id) (hid : Signature.patternIdOf message trace = id) :
    Tally (calls ++ [.record now testId message trace fix])
      (b.record now testId message trace fix).2 id := by
  subst hid
  have hpat : (b.record now testId message trace fix).2.patterns.get?
      (Signature.patternIdOf message trace) =
        some (b.recordedPattern now testId message trace fix) :=
    PatternBook.get?_patterns_record
  have hpol : (b.record now testId message trace fix).2.policies.get?
      (Signature.patternIdOf message trace) = _ := PatternBook.get?_policies_record _
  rw [PatternBook.recordedPattern_eq] at hpat
  refine ⟨fun hno => by simp [Call.enters] at hno, fun _ => ?_⟩
  cases hany : calls.any (Call.enters (Signature.patternIdOf message trace)) with
  | false =>
    obtain ⟨hnone, hnopol⟩ := h.unknown hany
    rw [hnone] at hpat
    rw [hnone, hnopol, if_neg (by simp), if_pos rfl, Option.getD_none] at hpol
    have hcount : calls.countP (Call.enters (Signature.patternIdOf message trace)) = 0 :=
      List.countP_eq_zero.mpr fun c hc => by
        simpa using List.any_eq_false.mp hany c hc
    have hold (other : String) :
        ¬Implicated calls (Signature.patternIdOf message trace) other := by
      rintro ⟨c, hc, hce, -⟩
      exact List.any_eq_false.mp hany c hc hce
    refine ⟨_, _, hpat, hpol, rfl, ?_, fun other => ?_, ?_⟩
    · simp [since_append_singleton, hany, Call.enters, Pattern.first, hcount]
    · rw [Pattern.first, NameSet.contains_single, implicated_append_singleton]
      simp [hold, Call.enters, Call.ended?, eq_comm]
    · simp [since_append_singleton, hany]
  | true =>
    obtain ⟨p, q, hgp, hgq, hname, hfreq, htests, happlied⟩ := h.known hany
    rw [hgp] at hpat
    rw [hgp, if_pos (by simp), hgq] at hpol
    refine ⟨_, q, hpat, hpol, hname, ?_, fun other => ?_, ?_⟩
    · simp [since_append_singleton, hany, Call.enters, Call.looksUp, Pattern.touch,
        Pattern.implicate, hfreq, Nat.add_right_comm]
    · change (p.affectedTests.add testId).contains other = true ↔ _
      rw [NameSet.contains_add, htests, implicated_append_singleton, or_comm]
      simp [Call.enters, Call.ended?, eq_comm]
    · simp [since_append_singleton, hany, Call.reports, happlied]

/-- The outcome of a retry counts if the id is known. -/
lemma feedback {success : Bool} (h : Tally calls b id) :
    Tally (calls ++ [.feedback id success]) (b.feedback id success) id := by
  have hpol : (b.feedback id success).policies.get? id =
      (b.policies.get? id).map fun q => q.recordOutcome success := by
    rw [PatternBook.feedback, Dict.get?_modify, if_pos rfl]
  refine ⟨fun hno => ?_, fun hyes => ?_⟩
  · have hno' := h.unknown (by simpa [Call.enters] using hno)
    rw [hpol, hno'.2]
    exact ⟨hno'.1, rfl⟩
  · have hyes' : calls.any (Call.enters id) = true := by simpa [Call.enters] using hyes
    obtain ⟨p, q, hgp, hgq, hname, hfreq, htests, happlied⟩ := h.known hyes'
    refine ⟨p, q.recordOutcome success, hgp, by rw [hpol, hgq]; rfl, hname, ?_,
      fun testId => ?_, ?_⟩
    · simp [since_append_singleton, hyes', Call.enters, Call.looksUp, hfreq]
    · rw [htests, implicated_append_singleton]
      simp [Call.enters]
    · simp [since_append_singleton, hyes', Call.reports, RetryPolicy.recordOutcome, happlied]

/-- One more call keeps the tally of every id. -/
lemma step (h : Tally calls b id) (c : Call) : Tally (calls ++ [c]) (c.enter b) id := by
  cases c with
  | detect now message trace =>
    by_cases hid : Signature.patternIdOf message trace = id
    · exact h.detect hid
    · have hother : PatternBook.ChangesOnly (Signature.patternIdOf message trace) b
          (b.detect now message trace).2 := PatternBook.changesOnly_detect
      exact h.of_idle rfl (by simpa [Call.looksUp] using hid) rfl
        (hother.patterns id (Ne.symm hid)) (hother.policies id (Ne.symm hid))
  | record now testId message trace fix =>
    by_cases hid : Signature.patternIdOf message trace = id
    · exact h.record hid
    · have hother : PatternBook.ChangesOnly (Signature.patternIdOf message trace) b
          (b.record now testId message trace fix).2 := PatternBook.changesOnly_record
      exact h.of_idle (by simpa [Call.enters] using hid) rfl rfl
        (hother.patterns id (Ne.symm hid)) (hother.policies id (Ne.symm hid))
  | feedback id' success =>
    by_cases hid : id' = id
    · exact hid ▸ h.feedback
    · have hother : PatternBook.ChangesOnly id' b (b.feedback id' success) :=
        PatternBook.changesOnly_feedback
      exact h.of_idle rfl rfl (by simpa [Call.reports] using hid)
        (hother.patterns id (Ne.symm hid)) (hother.policies id (Ne.symm hid))
  | _ => exact h.of_idle rfl rfl rfl rfl rfl

end Tally

/-- Calls on an empty book leave the tally of every id. -/
lemma tally_enterAll (calls : List Call) (id : String) :
    Tally calls (enterAll PatternBook.empty calls) id := by
  induction calls using List.reverseRecOn with
  | nil => exact Tally.nil
  | append_singleton calls c ih =>
    rw [enterAll_append]
    exact ih.step c

/-- What calls on a store that started empty amount to, whatever its file and its disk.  A look-up
that comes next finds a pattern exactly if one of the calls has entered a failure of the same id.
There is one pattern for each id entered, with a policy; it has occurred as often as failures of the
id were entered, and looked up after the first of them was; the cases it has ended are those named
by the entering calls; and its policy has counted the outcomes reported after the first of them.
The counters show these numbers for less than `2 ^ 64` calls, and in general what is left of them in
64 bits. -/
theorem runCalls_tally (path : Option Path) (d : Disk) (calls : List Call) :
    let s : PatternStore := ⟨path, .empty⟩
    let b := (runCalls s d calls).2.1.book
    (∀ now message trace, ∃ found,
      (runCalls s d (calls ++ [.detect now message trace])).1 =
          (runCalls s d calls).1 ++ [.found found] ∧
        (found.isSome = true ↔
          ∃ c ∈ calls, c.enters (Signature.patternIdOf message trace) = true)) ∧
    b.patterns.keys.Nodup ∧
    (∀ id, id ∈ b.patterns.keys ↔ ∃ c ∈ calls, c.enters id = true) ∧
    ∀ id, (∃ c ∈ calls, c.enters id = true) ↔
      ∃ p q, b.patterns.get? id = some p ∧ b.policies.get? id = some q ∧ p.patternId = id ∧
        p.frequency = .ofNat
          (calls.countP (Call.enters id) + (since id calls).countP (Call.looksUp id)) ∧
        (∀ testId, p.affectedTests.contains testId = true ↔
          ∃ c ∈ calls, c.enters id = true ∧ c.ended? = some testId) ∧
        q.totalApplied = .ofNat ((since id calls).countP (Call.reports id)) ∧
        (calls.length < 2 ^ 64 →
          p.frequency.toNat =
            calls.countP (Call.enters id) + (since id calls).countP (Call.looksUp id) ∧
          q.totalApplied.toNat = (since id calls).countP (Call.reports id)) := by
  intro s b
  have hb : b = enterAll PatternBook.empty calls :=
    congrArg PatternStore.book (runCalls_store s d calls)
  have htally (id : String) : Tally calls b id := hb ▸ tally_enterAll calls id
  refine ⟨fun now message trace => ?_, b.patterns.nodup_keys, fun id => ?_, fun id => ?_⟩
  · refine ⟨(b.detect now message trace).1, ?_, ?_⟩
    · rw [runCalls_answers, runCalls_answers, answers_append_singleton, ← hb]
      rfl
    · rw [PatternBook.detect_fst, Option.isSome_map]
      exact (htally _).isSome_iff
  · rw [Dict.mem_keys]
    exact (htally id).isSome_iff
  · refine ⟨fun hentered => ?_, ?_⟩
    · obtain ⟨p, q, hp, hq, hname, hfrequency, htests, happlied⟩ :=
        (htally id).known (List.any_eq_true.mpr hentered)
      refine ⟨p, q, hp, hq, hname, hfrequency, htests, happlied, fun hlength => ⟨?_, ?_⟩⟩
      · rw [hfrequency, Counter.toNat_ofNat_of_lt ((countP_met_le id calls).trans_lt hlength)]
      · have hreports : (since id calls).countP (Call.reports id) ≤ calls.length :=
          List.countP_le_length.trans (since_sublist id calls).length_le
        rw [happlied, Counter.toNat_ofNat_of_lt (hreports.trans_lt hlength)]
    · rintro ⟨p, q, hp, -⟩
      exact (htally id).isSome_iff.mp (by simp [hp])

end PatternStore

end Retrial
