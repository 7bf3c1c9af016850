import Retrial.Proofs.Failure.Classify
import Retrial.Proofs.Pattern.Calls

/-!
# The order in which failures are entered

A store gives a pattern the kind of the failure that is entered first, and the policy of that kind.
Which failure comes first does not matter if all failures of one pattern are of one kind
(`kind_enterAll`, `firstKind_perm`), and so it does not matter if they have one normal form and
comparable messages (`kinds_orderFree`).  But status numbers do not count for the normal form: of
two failures of one pattern, one may be of a kind by its status number and the other not
(`not_orderFree_of_statusNumber`).
-/

namespace Retrial

open Time (Instant)

/-- A failure that has ended a case, as it is entered into a store. -/
structure Entry where
  testId : String
  failure : Failure
  fix : Option String
deriving DecidableEq, Repr

namespace Entry

/-- A failure without a trace that has ended the case `login`. -/
def ofMessage (message : String) : Entry := ⟨"login", Failure.ofMessage message, none⟩

/-- The name of the failure's pattern. -/
def id (e : Entry) : String := Signature.patternIdOf e.failure.message e.failure.trace

/-- The normal form of the failure. -/
def normalized (e : Entry) : String := Signature.normalize e.failure.message e.failure.trace

/-- The kind of the failure. -/
def kind (e : Entry) : FailureKind := FailureKind.classify e.failure.message

/-- The call that enters the failure at an instant. -/
def call (e : Entry) (now : Instant) : PatternStore.Call :=
  .record now e.testId e.failure.message e.failure.trace e.fix

/-- Failures of one pattern are comparable: the digest tells their normal forms apart, and their
messages have as many `::` and the same erasable keywords. -/
def Comparable (e e' : Entry) : Prop :=
  e.id = e'.id → e.normalized = e'.normalized ∧
    FailureKind.Comparable e.failure.message e'.failure.message

/-- Comparable failures of one pattern are of one kind. -/
lemma Comparable.kind_eq {e e' : Entry} (h : Comparable e e') (hid : e.id = e'.id) :
    e.kind = e'.kind :=
  FailureKind.classify_eq_of_normalize_eq (h hid).1 (h hid).2

end Entry

namespace PatternStore

/-- The calls that enter failures, each at its instant. -/
def entering (es : List (Instant × Entry)) : List Call := es.map fun e => e.2.call e.1

/-- The kind of the first of the failures that belongs to a pattern. -/
def firstKind (id : String) (es : List Entry) : Option FailureKind :=
  (es.find? fun e => e.id == id).map Entry.kind

/-- One more failure counts if none before belongs to the pattern. -/
lemma firstKind_append_singleton (id : String) (es : List Entry) (e : Entry) :
    firstKind id (es ++ [e]) =
      (firstKind id es).or (if e.id = id then some e.kind else none) := by
  unfold firstKind
  rw [List.find?_append]
  cases es.find? fun e => e.id == id with
  | some e' => rfl
  | none =>
    by_cases hid : e.id = id
    · simp [hid]
    · simp [hid]

/-- A store that started empty knows a pattern by the kind of the first failure entered of it, and
has the first policy of that kind for it. -/
lemma kind_enterAll (id : String) (es : List (Instant × Entry)) :
    ((enterAll .empty (entering es)).patterns.get? id).map Pattern.kind =
        firstKind id (es.map Prod.snd) ∧
      (enterAll .empty (entering es)).policies.get? id =
        (firstKind id (es.map Prod.snd)).map (RetryPolicy.ofKind id) := by
  induction es using List.reverseRecOn with
  | nil => exact ⟨rfl, rfl⟩
  | append_singleton es e ih =>
    obtain ⟨now, e⟩ := e
    obtain ⟨hkind, hpolicy⟩ := ih
    have hcalls : entering (es ++ [(now, e)]) = entering es ++ [e.call now] := List.map_append
    rw [hcalls, enterAll_append, enterAll_cons, enterAll_nil, List.map_append, List.map_singleton,
      firstKind_append_singleton]
    generalize enterAll .empty (entering es) = b at hkind hpolicy ⊢
    unfold Entry.call Call.enter
    by_cases hid : e.id = id
    · subst hid
      rw [if_pos rfl]
      unfold Entry.id at hkind hpolicy ⊢
      rw [PatternBook.get?_patterns_record, PatternBook.get?_policies_record,
        PatternBook.recordedPattern_eq]
      cases hold : b.patterns.get?
          (Signature.patternIdOf e.failure.message e.failure.trace) with
      | none =>
        rw [hold, Option.map_none] at hkind
        rw [← hkind] at hpolicy ⊢
        refine ⟨rfl, ?_⟩
        rw [hpolicy]
        simp [Entry.kind]
      | some p =>
        rw [hold, Option.map_some] at hkind
        rw [← hkind] at hpolicy ⊢
        exact ⟨rfl, hpolicy⟩
    · have hne : id ≠ Signature.patternIdOf e.failure.message e.failure.trace := fun h =>
        hid h.symm
      rw [if_neg hid, Option.or_none, PatternBook.changesOnly_record.patterns id hne,
        PatternBook.changesOnly_record.policies id hne]
      exact ⟨hkind, hpolicy⟩

/-- If failures of one pattern are of one kind, it does not matter which comes first. -/
lemma firstKind_perm {es es' : List Entry} (hperm : es.Perm es')
    (hkind : ∀ e ∈ es, ∀ e' ∈ es, e.id = e'.id → e.kind = e'.kind) (id : String) :
    firstKind id es = firstKind id es' := by
  unfold firstKind
  cases hfirst : es.find? fun e => e.id == id with
  | none =>
    have hfirst' : (es'.find? fun e => e.id == id) = none :=
      List.find?_eq_none.mpr fun e he => List.find?_eq_none.mp hfirst e (hperm.mem_iff.mpr he)
    rw [hfirst']
  | some e =>
    have he := List.mem_of_find?_eq_some hfirst
    have hid : e.id = id := by simpa only [beq_iff_eq] using List.find?_some hfirst
    cases hfirst' : es'.find? fun e => e.id == id with
    | none =>
      have hother : e.id ≠ id := by
        simpa only [beq_iff_eq] using List.find?_eq_none.mp hfirst' e (hperm.mem_iff.mp he)
      exact absurd hid hother
    | some e' =>
      have he' := hperm.mem_iff.mpr (List.mem_of_find?_eq_some hfirst')
      have hid' : e'.id = id := by simpa only [beq_iff_eq] using List.find?_some hfirst'
      rw [Option.map_some, Option.map_some, hkind e he e' he' (hid.trans hid'.symm)]

/-- Failures of one pattern are of one kind if they are comparable; and if all failures entered are,
then in whatever order and at whatever instants they are entered into an empty store, with a file or
without, the kinds of the patterns and the policies are the same. -/
theorem kinds_orderFree {es es' : List (Instant × Entry)}
    (hperm : (es.map Prod.snd).Perm (es'.map Prod.snd))
    (hcomparable : ∀ e ∈ es.map Prod.snd, ∀ e' ∈ es.map Prod.snd, e.Comparable e') :
    (∀ e ∈ es.map Prod.snd, ∀ e' ∈ es.map Prod.snd, e.id = e'.id → e.kind = e'.kind) ∧
    ∀ (path path' : Option Path) (d d' : Disk) (id : String),
      ((runCalls ⟨path, .empty⟩ d (entering es)).2.1.book.patterns.get? id).map Pattern.kind =
        ((runCalls ⟨path', .empty⟩ d' (entering es')).2.1.book.patterns.get? id).map
          Pattern.kind ∧
      (runCalls ⟨path, .empty⟩ d (entering es)).2.1.book.policies.get? id =
        (runCalls ⟨path', .empty⟩ d' (entering es')).2.1.book.policies.get? id := by
  have hkind : ∀ e ∈ es.map Prod.snd, ∀ e' ∈ es.map Prod.snd, e.id = e'.id → e.kind = e'.kind :=
    fun e he e' he' => (hcomparable e he e' he').kind_eq
  refine ⟨hkind, fun path path' d d' id => ?_⟩
  rw [runCalls_store, runCalls_store]
  obtain ⟨hfirst, hpolicy⟩ := kind_enterAll id es
  obtain ⟨hfirst', hpolicy'⟩ := kind_enterAll id es'
  have hsame := firstKind_perm hperm hkind id
  refine ⟨?_, ?_⟩
  · rw [hfirst, hfirst', hsame]
  · rw [hpolicy, hpolicy', hsame]

/-- Two failures that differ in a number of seconds. -/
theorem kinds_orderFree_timeouts :
    let slow := Entry.ofMessage "timeout after 30 s"
    let slower := Entry.ofMessage "timeout after 45 s"
    let s := (runCalls .inMemory .empty (entering [(⟨0, 0⟩, slow), (⟨1, 0⟩, slower)])).2.1
    let s' := (runCalls .inMemory .empty (entering [(⟨0, 0⟩, slower), (⟨1, 0⟩, slow)])).2.1
    (s.book.patterns.get? slow.id).map Pattern.kind =
        (s'.book.patterns.get? slow.id).map Pattern.kind ∧
      s.book.policies.get? slow.id = s'.book.policies.get? slow.id := by
  intro slow slower
  have hcomparable : ∀ e ∈ [slow, slower], ∀ e' ∈ [slow, slower], e.Comparable e' := by
    have hnormal : ∀ e ∈ [slow, slower], ∀ e' ∈ [slow, slower], e.normalized = e'.normalized := by
      decide +kernel
    have hmessages : ∀ e ∈ [slow, slower], ∀ e' ∈ [slow, slower],
        FailureKind.Comparable e.failure.message e'.failure.message := by
      decide +kernel
    exact fun e he e' he' _ => ⟨hnormal e he e' he', hmessages e he e' he'⟩
  let es : List (Instant × Entry) := [(⟨0, 0⟩, slow), (⟨1, 0⟩, slower)]
  let es' : List (Instant × Entry) := [(⟨0, 0⟩, slower), (⟨1, 0⟩, slow)]
  have hperm : (es.map Prod.snd).Perm (es'.map Prod.snd) := List.Perm.swap slower slow []
  exact (kinds_orderFree hperm hcomparable).2 none none .empty .empty slow.id

/-- Two failures that differ in a status number belong to one pattern and are of two kinds; the one
that is entered first decides about the pattern. -/
theorem not_orderFree_of_statusNumber :
    let limited := Entry.ofMessage "HTTP 429"
    let teapot := Entry.ofMessage "HTTP 418"
    let s := (runCalls .inMemory .empty (entering [(⟨0, 0⟩, limited), (⟨1, 0⟩, teapot)])).2.1
    let s' := (runCalls .inMemory .empty (entering [(⟨0, 0⟩, teapot), (⟨1, 0⟩, limited)])).2.1
    limited.id = teapot.id ∧ limited.kind ≠ teapot.kind ∧
      (s.book.patterns.get? limited.id).map Pattern.kind ≠
        (s'.book.patterns.get? limited.id).map Pattern.kind ∧
      s.book.policies.get? limited.id ≠ s'.book.policies.get? limited.id := by
  intro limited teapot
  have hid : limited.id = teapot.id := by
    have hnormal : limited.normalized = teapot.normalized := by decide +kernel
    unfold Entry.normalized at hnormal
    unfold Entry.id Signature.patternIdOf Signature.ofFailure
    rw [hnormal]
  have hlimited : limited.kind = .rateLimit := by decide +kernel
  have hteapot : teapot.kind = .unknown := by decide +kernel
  have hfirst : ∀ first second : Entry, first.id = limited.id →
      firstKind limited.id [first, second] = some first.kind := by
    intro first second h
    unfold firstKind
    have hfound : ([first, second].find? fun e => e.id == limited.id) = some first :=
      List.find?_cons_of_pos (by rw [h]; exact beq_self_eq_true _)
    rw [hfound, Option.map_some]
  refine ⟨hid, by rw [hlimited, hteapot]; decide, ?_⟩
  rw [runCalls_store, runCalls_store]
  obtain ⟨hkind, hpolicy⟩ := kind_enterAll limited.id [(⟨0, 0⟩, limited), (⟨1, 0⟩, teapot)]
  obtain ⟨hkind', hpolicy'⟩ := kind_enterAll limited.id [(⟨0, 0⟩, teapot), (⟨1, 0⟩, limited)]
  rw [List.map_cons, List.map_cons, List.map_nil, hfirst _ _ rfl, hlimited] at hkind hpolicy
  rw [List.map_cons, List.map_cons, List.map_nil, hfirst _ _ hid.symm, hteapot] at hkind' hpolicy'
  refine ⟨?_, ?_⟩
  · rw [PatternStore.inMemory, hkind, hkind']
    decide
  · rw [PatternStore.inMemory, hpolicy, hpolicy']
    intro hsame
    have hdelay : (5000 : Nat) = 1000 := congrArg RetryPolicy.baseDelayMs (Option.some.inj hsame)
    omega

end PatternStore

end Retrial
