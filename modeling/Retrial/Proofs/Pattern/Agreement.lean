import Mathlib
import Retrial.Pattern.Book

/-!
# Books that agree on some patterns

Every operation on a pattern book is about one pattern id: it reads and changes nothing under any
other.  So an operation leaves two books in agreement on a set of ids if they were, and an operation
about an id outside of the set does not matter.  Agreement is up to the times at which patterns were
last seen, which no operation looks at.

A book is *consistent* if every pattern is kept under the id that it names.  In a consistent book
the pattern of a failure names the id of the failure, so that the policy asked for next is the
policy of this id.
-/

namespace Retrial

/-- The pattern whenever it was last seen. -/
def Pattern.unseen (p : Pattern) : Pattern := { p with lastSeen := default }

namespace PatternBook

/-- Every pattern is kept under the id that it names. -/
def Consistent (b : PatternBook) : Prop :=
  ∀ id p, b.patterns.get? id = some p → p.patternId = id

/-- The two books say the same about the ids of a set, up to when patterns were last seen. -/
structure AgreesOn (ids : Set String) (b b' : PatternBook) : Prop where
  patterns : ∀ id ∈ ids,
    (b.patterns.get? id).map Pattern.unseen = (b'.patterns.get? id).map Pattern.unseen
  policies : ∀ id ∈ ids, b.policies.get? id = b'.policies.get? id

namespace AgreesOn

variable {ids : Set String} {b b' b'' : PatternBook}

/-- A book agrees with itself. -/
lemma refl (ids : Set String) (b : PatternBook) : AgreesOn ids b b :=
  ⟨fun _ _ => rfl, fun _ _ => rfl⟩

/-- Agreement is symmetric. -/
lemma symm (h : AgreesOn ids b b') : AgreesOn ids b' b :=
  ⟨fun id hid => (h.patterns id hid).symm, fun id hid => (h.policies id hid).symm⟩

/-- Agreement is transitive. -/
lemma trans (h : AgreesOn ids b b') (h' : AgreesOn ids b' b'') : AgreesOn ids b b'' :=
  ⟨fun id hid => (h.patterns id hid).trans (h'.patterns id hid),
    fun id hid => (h.policies id hid).trans (h'.policies id hid)⟩

end AgreesOn

/-- A book that has changed under one id at most. -/
structure ChangesOnly (id : String) (b b' : PatternBook) : Prop where
  patterns : ∀ k, k ≠ id → b'.patterns.get? k = b.patterns.get? k
  policies : ∀ k, k ≠ id → b'.policies.get? k = b.policies.get? k

variable {ids : Set String} {b b' c c' : PatternBook} {now now' : Time.Instant}
  {message trace testId id : String} {fix : Option String} {success : Bool}

/-- A change under an id outside of a set does not matter to the set. -/
lemma ChangesOnly.agreesOn (h : ChangesOnly id b b') (hid : id ∉ ids) : AgreesOn ids b' b := by
  refine ⟨fun k hk => ?_, fun k hk => ?_⟩
  · rw [h.patterns k fun heq => hid (heq ▸ hk)]
  · rw [h.policies k fun heq => hid (heq ▸ hk)]

/-- Books that agree and change under one id agree afterwards if they do on this id. -/
lemma AgreesOn.of_changesOnly (h : AgreesOn ids b b') (hc : ChangesOnly id b c)
    (hc' : ChangesOnly id b' c')
    (hp : id ∈ ids →
      (c.patterns.get? id).map Pattern.unseen = (c'.patterns.get? id).map Pattern.unseen)
    (hq : id ∈ ids → c.policies.get? id = c'.policies.get? id) : AgreesOn ids c c' := by
  refine ⟨fun k hk => ?_, fun k hk => ?_⟩
  · by_cases heq : k = id
    · subst heq
      exact hp hk
    · rw [hc.patterns k heq, hc'.patterns k heq]
      exact h.patterns k hk
  · by_cases heq : k = id
    · subst heq
      exact hq hk
    · rw [hc.policies k heq, hc'.policies k heq]
      exact h.policies k hk

/-- A consistent book that changes under one id is consistent if it is under this id. -/
lemma Consistent.of_changesOnly (h : b.Consistent) (hc : ChangesOnly id b c)
    (hid : ∀ p, c.patterns.get? id = some p → p.patternId = id) : c.Consistent := by
  intro k p hp
  by_cases heq : k = id
  · subst heq
    exact hid p hp
  · rw [hc.patterns k heq] at hp
    exact h k p hp

/-! ### Looking a failure up -/

/-- The pattern found is the one under the failure's id, seen once more. -/
lemma detect_fst :
    (b.detect now message trace).1 =
      (b.patterns.get? (Signature.patternIdOf message trace)).map (Pattern.touch now) := by
  unfold detect
  cases h : b.patterns.get? (Signature.patternIdOf message trace) <;> simp [h]

/-- The pattern found is the one that is kept. -/
lemma get?_patterns_detect :
    (b.detect now message trace).2.patterns.get? (Signature.patternIdOf message trace) =
      (b.detect now message trace).1 := by
  unfold detect
  cases h : b.patterns.get? (Signature.patternIdOf message trace) <;> simp [h]

/-- Looking up leaves the policies. -/
lemma policies_detect : (b.detect now message trace).2.policies = b.policies := by
  unfold detect
  cases h : b.patterns.get? (Signature.patternIdOf message trace) <;> simp [h]

/-- Looking a failure up changes its own pattern. -/
lemma changesOnly_detect :
    ChangesOnly (Signature.patternIdOf message trace) b (b.detect now message trace).2 := by
  refine ⟨fun k hk => ?_, fun k _ => by rw [policies_detect]⟩
  unfold detect
  cases h : b.patterns.get? (Signature.patternIdOf message trace) with
  | none => simp [h]
  | some p => simp [h, Dict.get?_insert_of_ne _ _ hk]

/-- In a consistent book the pattern of a failure names the failure's id. -/
lemma Consistent.patternId_of_detect (h : b.Consistent) {p : Pattern}
    (hp : (b.detect now message trace).1 = some p) :
    p.patternId = Signature.patternIdOf message trace := by
  rw [detect_fst] at hp
  obtain ⟨q, hq, rfl⟩ := Option.map_eq_some_iff.mp hp
  exact h _ q hq

/-- Looking up keeps a book consistent. -/
lemma Consistent.detect (h : b.Consistent) : (b.detect now message trace).2.Consistent := by
  refine h.of_changesOnly changesOnly_detect fun p hp => ?_
  rw [get?_patterns_detect] at hp
  exact h.patternId_of_detect hp

/-- Books that agree on the id of a failure find the same pattern, up to when it was last seen. -/
lemma AgreesOn.detect_fst (h : AgreesOn ids b b')
    (hid : Signature.patternIdOf message trace ∈ ids) :
    (b.detect now message trace).1.map Pattern.unseen =
      (b'.detect now' message trace).1.map Pattern.unseen := by
  have hp := h.patterns _ hid
  have hunseen : ∀ now, Pattern.unseen ∘ Pattern.touch now =
      (fun p => { p with frequency := p.frequency.plus 1 }) ∘ Pattern.unseen := fun _ => rfl
  rw [PatternBook.detect_fst, PatternBook.detect_fst, Option.map_map, Option.map_map, hunseen,
    hunseen, ← Option.map_map, ← Option.map_map, hp]

/-- Looking a failure up keeps agreement. -/
lemma AgreesOn.detect (h : AgreesOn ids b b') :
    AgreesOn ids (b.detect now message trace).2 (b'.detect now' message trace).2 := by
  refine h.of_changesOnly changesOnly_detect changesOnly_detect (fun hid => ?_) fun hid => ?_
  · rw [get?_patterns_detect, get?_patterns_detect]
    exact h.detect_fst hid
  · rw [policies_detect, policies_detect]
    exact h.policies _ hid

/-! ### Entering a failure -/

/-- The pattern entered is kept under the id of the failure. -/
lemma get?_patterns_record :
    (b.record now testId message trace fix).2.patterns.get?
        (Signature.patternIdOf message trace) =
      some (b.recordedPattern now testId message trace fix) :=
  Dict.get?_insert_self _ _ _

/-- A new pattern gets a policy, unless there is one. -/
lemma get?_policies_record (k : String) :
    (b.record now testId message trace fix).2.policies.get? k =
      if (b.patterns.get? (Signature.patternIdOf message trace)).isSome then b.policies.get? k
      else if k = Signature.patternIdOf message trace then
        some ((b.policies.get? k).getD (RetryPolicy.ofKind k (FailureKind.classify message)))
      else b.policies.get? k := by
  have hcontains : b.patterns.contains (Signature.patternIdOf message trace) =
      (b.patterns.get? (Signature.patternIdOf message trace)).isSome := rfl
  simp only [record]
  rw [hcontains]
  by_cases hp : (b.patterns.get? (Signature.patternIdOf message trace)).isSome = true
  · rw [if_pos hp, if_pos hp]
  · rw [if_neg hp, if_neg hp, Dict.get?_insertNew]
    split
    next hk => rw [hk]
    next => rfl

/-- Entering a failure changes its own pattern and policy. -/
lemma changesOnly_record :
    ChangesOnly (Signature.patternIdOf message trace) b
      (b.record now testId message trace fix).2 := by
  refine ⟨fun k hk => Dict.get?_insert_of_ne _ _ hk, fun k hk => ?_⟩
  rw [get?_policies_record, if_neg hk, ite_self]

/-- A known failure implicates one more case, and a new one is a new pattern. -/
lemma recordedPattern_eq :
    b.recordedPattern now testId message trace fix =
      match b.patterns.get? (Signature.patternIdOf message trace) with
      | some p => (p.touch now).implicate testId fix
      | none =>
        { Pattern.first now (Signature.patternIdOf message trace) (FailureKind.classify message)
            (Signature.ofFailure message trace) testId with suggestedFix := fix } := rfl

/-- The pattern of a failure that ended a case names the failure's id, if it did before. -/
lemma Consistent.patternId_recordedPattern (h : b.Consistent) :
    (b.recordedPattern now testId message trace fix).patternId =
      Signature.patternIdOf message trace := by
  rw [recordedPattern_eq]
  cases hp : b.patterns.get? (Signature.patternIdOf message trace) with
  | none => rfl
  | some p => exact h _ p hp

/-- Entering a failure keeps a book consistent. -/
lemma Consistent.record (h : b.Consistent) :
    (b.record now testId message trace fix).2.Consistent := by
  refine h.of_changesOnly changesOnly_record fun p hp => ?_
  rw [get?_patterns_record, Option.some.injEq] at hp
  exact hp ▸ h.patternId_recordedPattern

/-- Books that agree on the id of a failure enter the same pattern, up to when it was last seen. -/
lemma AgreesOn.recordedPattern (h : AgreesOn ids b b')
    (hid : Signature.patternIdOf message trace ∈ ids) :
    (b.recordedPattern now testId message trace fix).unseen =
      (b'.recordedPattern now' testId message trace fix).unseen := by
  have hp := h.patterns _ hid
  rw [recordedPattern_eq, recordedPattern_eq]
  cases hb : b.patterns.get? (Signature.patternIdOf message trace) <;>
    cases hb' : b'.patterns.get? (Signature.patternIdOf message trace) <;>
    rw [hb, hb'] at hp <;> simp only [Option.map_none, Option.map_some] at hp
  · rfl
  · cases hp
  · cases hp
  · have hq := Option.some.inj hp
    simp only [Pattern.unseen, Pattern.mk.injEq] at hq
    simp [Pattern.unseen, Pattern.implicate, Pattern.touch, hq]

/-- Entering a failure keeps agreement. -/
lemma AgreesOn.record (h : AgreesOn ids b b') :
    AgreesOn ids (b.record now testId message trace fix).2
      (b'.record now' testId message trace fix).2 := by
  refine h.of_changesOnly changesOnly_record changesOnly_record (fun hid => ?_) fun hid => ?_
  · rw [get?_patterns_record, get?_patterns_record, Option.map_some, Option.map_some,
      h.recordedPattern hid]
  · have hp := congrArg Option.isSome (h.patterns _ hid)
    rw [Option.isSome_map, Option.isSome_map] at hp
    rw [get?_policies_record, get?_policies_record, hp, h.policies _ hid]

/-! ### Policies -/

/-- Books that agree on an id have the same policy for it. -/
lemma AgreesOn.policy (h : AgreesOn ids b b') (hid : id ∈ ids) : b.policy id = b'.policy id := by
  unfold PatternBook.policy
  rw [h.policies id hid]

/-- The outcome of a retry changes the policy of its own pattern. -/
lemma changesOnly_feedback : ChangesOnly id b (b.feedback id success) := by
  refine ⟨fun k _ => rfl, fun k hk => ?_⟩
  rw [feedback, Dict.get?_modify, if_neg hk]

/-- Entering the outcome of a retry keeps a book consistent. -/
lemma Consistent.feedback (h : b.Consistent) : (b.feedback id success).Consistent := h

/-- Entering the outcome of a retry keeps agreement. -/
lemma AgreesOn.feedback (h : AgreesOn ids b b') :
    AgreesOn ids (b.feedback id success) (b'.feedback id success) := by
  refine h.of_changesOnly changesOnly_feedback changesOnly_feedback (fun hid => ?_) fun hid => ?_
  · exact h.patterns id hid
  · simp only [PatternBook.feedback, Dict.get?_modify, h.policies id hid]

end PatternBook

end Retrial
