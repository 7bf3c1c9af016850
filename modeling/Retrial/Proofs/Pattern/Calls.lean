import Mathlib
import Retrial.Pattern.Store
import Retrial.Proofs.Pattern.Agreement

/-!
# Calls of a pattern store

Executors share one pattern store, and each of their calls is one step of it, so whatever executors
do together is a list of calls.  A call acts on the book alone: what it answers and which book it
leaves are functions of the book before it (`Call.answer`, `Call.enter`), and neither the file of
the store nor the disk has a say in them (`Call.run_fst`, `Call.run_store`).
-/

namespace Retrial

open Time (Instant)

namespace PatternStore

/-! ### Stores and their books -/

section Book

variable {st : PatternStore} {now : Time.Instant} {message trace testId id : String}
  {fix : Option String} {success : Bool} {d : Disk}

/-- A store finds what its book finds. -/
lemma detect_fst :
    (st.detect now message trace d).1 = (st.book.detect now message trace).1 := by
  unfold detect
  split <;> simp [*]

/-- Looking up changes the book of a store as it changes a book. -/
lemma book_detect :
    (st.detect now message trace d).2.1.book = (st.book.detect now message trace).2 := by
  unfold detect PatternBook.detect
  cases h : st.book.patterns.get? (Signature.patternIdOf message trace) <;> simp [h]

/-- Feedback changes the book of a store as it changes a book. -/
lemma book_feedback : (st.feedback id success d).1.book = st.book.feedback id success := by
  unfold feedback
  split
  next => rfl
  next h =>
    have hnone : st.book.policies.get? id = none := by
      simpa [Dict.contains] using h
    simp [PatternBook.feedback, Dict.modify, hnone]

end Book

/-! ### One call -/

/-- A call of a pattern store. -/
inductive Call
  | detect (now : Instant) (message trace : String)
  | record (now : Instant) (testId message trace : String) (fix : Option String)
  | feedback (id : String) (success : Bool)
  | policy (id : String)
  | pattern (id : String)
  | ranked
  | policies
  | size

/-- What a call gives back. -/
inductive Answer
  | found (p : Option Pattern)
  | entered (p : Pattern)
  | done
  | policy (p : RetryPolicy)
  | patterns (ps : List Pattern)
  | policies (ps : List RetryPolicy)
  | size (n : Nat)

namespace Call

/-- A call made on a store and its disk. -/
def run (s : PatternStore) (d : Disk) : Call → Answer × PatternStore × Disk
  | detect now message trace =>
    let (p, s, d) := s.detect now message trace d
    (.found p, s, d)
  | record now testId message trace fix =>
    let (p, s, d) := s.record now testId message trace fix d
    (.entered p, s, d)
  | feedback id success =>
    let (s, d) := s.feedback id success d
    (.done, s, d)
  | policy id => (.policy (s.book.policy id), s, d)
  | pattern id => (.found (s.book.patterns.get? id), s, d)
  | ranked => (.patterns s.book.ranked, s, d)
  | policies => (.policies s.book.policies.values, s, d)
  | size => (.size s.book.patterns.size, s, d)

/-- What a call answers about a book. -/
def answer (b : PatternBook) : Call → Answer
  | detect now message trace => .found (b.detect now message trace).1
  | record now testId message trace fix => .entered (b.record now testId message trace fix).1
  | feedback _ _ => .done
  | policy id => .policy (b.policy id)
  | pattern id => .found (b.patterns.get? id)
  | ranked => .patterns b.ranked
  | policies => .policies b.policies.values
  | size => .size b.patterns.size

/-- The book that a call leaves. -/
def enter (b : PatternBook) : Call → PatternBook
  | detect now message trace => (b.detect now message trace).2
  | record now testId message trace fix => (b.record now testId message trace fix).2
  | feedback id success => b.feedback id success
  | _ => b

/-- Whether a call changes the book: it finds a known failure, enters one, or is about the outcome
of a retry under a known policy. -/
def changes (b : PatternBook) : Call → Bool
  | detect now message trace => (b.detect now message trace).1.isSome
  | record .. => true
  | feedback id _ => b.policies.contains id
  | _ => false

variable {b : PatternBook} {s : PatternStore} {d : Disk} {c : Call}

/-- A call that changes nothing leaves the book. -/
lemma enter_of_not_changes (h : c.changes b = false) : c.enter b = b := by
  cases c with
  | detect now message trace =>
    simp only [changes, enter, PatternBook.detect] at h ⊢
    cases hp : b.patterns.get? (Signature.patternIdOf message trace) with
    | none => rfl
    | some p => simp [hp] at h
  | record => simp [changes] at h
  | feedback id success =>
    have hid : b.policies.get? id = none := by
      simpa [changes, Dict.contains] using h
    simp [enter, PatternBook.feedback, Dict.modify, hid]
  | _ => rfl

/-- What a call does: it answers about the book and leaves the next one, which is kept on the disk
if it has changed. -/
lemma run_eq (s : PatternStore) (d : Disk) (c : Call) :
    c.run s d = (c.answer s.book, { s with book := c.enter s.book },
      if c.changes s.book then PatternStore.persist { s with book := c.enter s.book } d
      else d) := by
  cases c with
  | detect now message trace =>
    cases hp : s.book.patterns.get? (Signature.patternIdOf message trace) <;>
      simp [run, answer, enter, changes, PatternStore.detect, PatternBook.detect, hp]
  | record => rfl
  | feedback id success =>
    by_cases hid : s.book.policies.contains id = true
    · simp [run, answer, enter, changes, PatternStore.feedback, hid]
    · have hstay : enter s.book (feedback id success) = s.book :=
        enter_of_not_changes (by simpa [changes] using hid)
      simp [run, answer, changes, PatternStore.feedback, hid, hstay]
  | _ => rfl

/-- What a call answers depends on the book alone. -/
lemma run_fst : (c.run s d).1 = c.answer s.book := by rw [run_eq]

/-- What a call leaves in memory depends on the book alone. -/
lemma run_store : (c.run s d).2.1 = { s with book := c.enter s.book } := by rw [run_eq]

/-- The patterns after a call: those from before, a known one that was found or entered once more,
or a new one that was entered. -/
lemma patterns_enter {id : String} {p : Pattern} (h : (c.enter b).patterns.get? id = some p) :
    b.patterns.get? id = some p ∨
      (∃ now message trace q, c = detect now message trace ∧
        id = Signature.patternIdOf message trace ∧ b.patterns.get? id = some q ∧
        p = q.touch now) ∨
      (∃ now testId message trace fix q, c = record now testId message trace fix ∧
        id = Signature.patternIdOf message trace ∧ b.patterns.get? id = some q ∧
        p = (q.touch now).implicate testId fix) ∨
      ∃ now testId message trace fix, c = record now testId message trace fix ∧
        id = Signature.patternIdOf message trace ∧
        p = { Pattern.first now id (FailureKind.classify message)
                (Signature.ofFailure message trace) testId with suggestedFix := fix } := by
  cases c with
  | detect now message trace =>
    by_cases hid : id = Signature.patternIdOf message trace
    · subst hid
      rw [enter, PatternBook.get?_patterns_detect, PatternBook.detect_fst] at h
      obtain ⟨q, hq, rfl⟩ := Option.map_eq_some_iff.mp h
      exact .inr (.inl ⟨now, message, trace, q, rfl, rfl, hq, rfl⟩)
    · rw [enter, PatternBook.changesOnly_detect.patterns id hid] at h
      exact .inl h
  | record now testId message trace fix =>
    by_cases hid : id = Signature.patternIdOf message trace
    · subst hid
      rw [enter, PatternBook.get?_patterns_record, Option.some.injEq,
        PatternBook.recordedPattern_eq] at h
      cases hold : b.patterns.get? (Signature.patternIdOf message trace) with
      | none =>
        rw [hold] at h
        exact .inr (.inr (.inr ⟨now, testId, message, trace, fix, rfl, rfl, h.symm⟩))
      | some q =>
        rw [hold] at h
        exact .inr (.inr (.inl ⟨now, testId, message, trace, fix, q, rfl, rfl, rfl, h.symm⟩))
    · rw [enter, PatternBook.changesOnly_record.patterns id hid] at h
      exact .inl h
  | _ => exact .inl h

/-- The policies after a call: those from before, one with one more outcome, or the one that a new
pattern starts with. -/
lemma policies_enter {id : String} {q : RetryPolicy} (h : (c.enter b).policies.get? id = some q) :
    b.policies.get? id = some q ∨
      (∃ success q', c = feedback id success ∧ b.policies.get? id = some q' ∧
        q = q'.recordOutcome success) ∨
      ∃ kind, q = RetryPolicy.ofKind id kind := by
  cases c with
  | detect now message trace =>
    rw [enter, PatternBook.policies_detect] at h
    exact .inl h
  | record now testId message trace fix =>
    rw [enter, PatternBook.get?_policies_record] at h
    split_ifs at h
    · exact .inl h
    · cases hold : b.policies.get? id with
      | none =>
        rw [hold] at h
        exact .inr (.inr ⟨_, (Option.some.inj h).symm⟩)
      | some q' =>
        rw [hold] at h
        exact .inl h
    · exact .inl h
  | feedback id' success =>
    rw [enter, PatternBook.feedback, Dict.get?_modify] at h
    split_ifs at h with hid
    · subst hid
      obtain ⟨q', hq', rfl⟩ := Option.map_eq_some_iff.mp h
      exact .inr (.inl ⟨success, q', rfl, hq', rfl⟩)
    · exact .inl h
  | _ => exact .inl h

end Call

/-! ### How a store starts -/

section Open

variable {d : Disk} {p : Path} {content : List Text.Glyph} {b : PatternBook} {e : DiskFault}
  {fault : Json.Fault}

/-- On a file that is a book a store starts with this book. -/
lemma open_of_decode (h : d.read p = .ok content)
    (hb : Json.decode PatternBook.codec.read content = .ok b) :
    PatternStore.open d p = ⟨some p, b⟩ := by
  simp [PatternStore.open, h, hb, Except.toOption]

end Open

/-! ### Many calls -/

/-- Calls made one after another. -/
def runCalls (s : PatternStore) (d : Disk) : List Call → List Answer × PatternStore × Disk
  | [] => ([], s, d)
  | c :: cs =>
    let (a, s, d) := c.run s d
    let (as, s, d) := runCalls s d cs
    (a :: as, s, d)

/-- The book that calls leave. -/
def enterAll (b : PatternBook) (calls : List Call) : PatternBook := calls.foldl Call.enter b

@[simp] lemma enterAll_nil (b : PatternBook) : enterAll b [] = b := rfl

@[simp] lemma enterAll_cons (b : PatternBook) (c : Call) (cs : List Call) :
    enterAll b (c :: cs) = enterAll (c.enter b) cs := rfl

@[simp] lemma enterAll_append (b : PatternBook) (cs cs' : List Call) :
    enterAll b (cs ++ cs') = enterAll (enterAll b cs) cs' := List.foldl_append

/-- What calls answer about a book that changes with them. -/
def answers (b : PatternBook) : List Call → List Answer
  | [] => []
  | c :: cs => c.answer b :: answers (c.enter b) cs

/-- The last of some calls is answered about the book that the others leave. -/
lemma answers_append_singleton (b : PatternBook) (calls : List Call) (c : Call) :
    answers b (calls ++ [c]) = answers b calls ++ [c.answer (enterAll b calls)] := by
  induction calls generalizing b with
  | nil => rfl
  | cons first rest ih => simp only [List.cons_append, answers, ih, enterAll_cons]

/-- What calls answer depends on the book alone. -/
lemma runCalls_answers (s : PatternStore) (d : Disk) (calls : List Call) :
    (runCalls s d calls).1 = answers s.book calls := by
  induction calls generalizing s d with
  | nil => rfl
  | cons c cs ih => simp only [runCalls, ih, Call.run_fst, Call.run_store, answers]

/-- What calls leave in memory depends on the book alone. -/
lemma runCalls_store (s : PatternStore) (d : Disk) (calls : List Call) :
    (runCalls s d calls).2.1 = { s with book := enterAll s.book calls } := by
  induction calls generalizing s d with
  | nil => rfl
  | cons c cs ih =>
    simp only [runCalls, ih, Call.run_store, enterAll_cons]

/-- The book that calls leave in a store is the one that they leave of its book. -/
lemma runCalls_book (s : PatternStore) (d : Disk) (calls : List Call) :
    (runCalls s d calls).2.1.book = enterAll s.book calls := by
  rw [runCalls_store]

end PatternStore

end Retrial
