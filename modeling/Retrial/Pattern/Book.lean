import Retrial.Failure.Signature
import Retrial.Pattern.Basic
import Retrial.Retry.Policy

/-!
# The pattern book

All patterns known so far, with the retry policy of each. Looking a failure up counts as an
occurrence of its pattern; a failure that ends a case enters the book if it is new; the outcome of a
retry enters the policy.
-/

namespace Retrial

open Time (Instant)

/-- Patterns and retry policies by pattern id. -/
structure PatternBook where
  patterns : Dict Pattern
  policies : Dict RetryPolicy
deriving Inhabited

namespace PatternBook

/-- Nothing known. -/
def empty : PatternBook := ⟨Dict.empty, Dict.empty⟩

/-- Looks a failure up. A known one is counted; an unknown one leaves the book as it is. -/
def detect (now : Instant) (message trace : String) (b : PatternBook) :
    Option Pattern × PatternBook :=
  let id := Signature.patternIdOf message trace
  match b.patterns.get? id with
  | none => (none, b)
  | some p =>
    let p := p.touch now
    (some p, { b with patterns := b.patterns.insert id p })

/-- The pattern that a failure has after it ended a case. -/
def recordedPattern (now : Instant) (testId message trace : String) (fix : Option String)
    (b : PatternBook) : Pattern :=
  let signature := Signature.ofFailure message trace
  let id := Signature.patternId signature
  match b.patterns.get? id with
  | some p => (p.touch now).implicate testId fix
  | none =>
    { Pattern.first now id (FailureKind.classify message) signature testId with
      suggestedFix := fix }

/-- Enters a failure that ended a case. A new pattern gets the policy of its kind, unless there is
one under its id already. -/
def record (now : Instant) (testId message trace : String) (fix : Option String)
    (b : PatternBook) : Pattern × PatternBook :=
  let id := Signature.patternIdOf message trace
  let p := recordedPattern now testId message trace fix b
  let policies :=
    if b.patterns.contains id then b.policies
    else b.policies.insertNew id (RetryPolicy.ofKind id (FailureKind.classify message))
  (p, ⟨b.patterns.insert id p, policies⟩)

/-- The policy of a pattern id, or the fallback. -/
def policy (b : PatternBook) (id : String) : RetryPolicy :=
  (b.policies.get? id).getD (RetryPolicy.fallback id)

/-- Enters the outcome of a retry; without a policy for the id the book stays as it is. -/
def feedback (id : String) (success : Bool) (b : PatternBook) : PatternBook :=
  { b with policies := b.policies.modify id fun p => p.recordOutcome success }

/-- All patterns, the most frequent first, equally frequent ones by id. -/
def ranked (b : PatternBook) : List Pattern :=
  b.patterns.values.mergeSort fun p q =>
    q.frequency.toNat < p.frequency.toNat ||
      (p.frequency == q.frequency && p.patternId ≤ q.patternId)

/-- The book in records. -/
def codec : Json.Codec PatternBook :=
  .record [Dict Pattern, Dict RetryPolicy]
    (Json.defaulted "patterns" (Dict.codec Pattern.codec) Dict.empty,
      Json.defaulted "strategies" (Dict.codec RetryPolicy.codec) Dict.empty, ())
    (fun b => (b.patterns, b.policies, ()))
    (fun (patterns, policies, ()) => ⟨patterns, policies⟩)

end PatternBook

end Retrial
