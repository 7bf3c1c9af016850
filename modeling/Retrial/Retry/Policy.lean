import Retrial.Collection.Counter
import Retrial.Failure.Kind
import Retrial.Retry.Average

/-!
# Retry policies

How often and after which delays a recurring failure is retried, and how well that has worked. The
delay before a retry grows with the attempt as the backoff says, up to a cap; it saturates at the
largest 64-bit number, which changes nothing under the cap.
-/

namespace Retrial

/-- How the delay grows with the attempt. -/
inductive Backoff
  | fixed
  | linear
  | exponential
deriving DecidableEq, Repr, Inhabited

namespace Backoff

/-- All backoffs. -/
def all : List Backoff := [fixed, linear, exponential]

/-- The name of a backoff. -/
def name : Backoff → String
  | fixed => "fixed"
  | linear => "linear"
  | exponential => "exponential"

/-- The backoff of a name. -/
def ofName? (s : String) : Option Backoff := all.find? fun b => b.name == s

theorem ofName?_name (b : Backoff) : ofName? b.name = some b := by cases b <;> decide

/-- Backoffs in records. -/
def codec : Json.Codec Backoff := .choice name ofName?

end Backoff

/-- The largest delay, and the number at which its computation saturates. -/
def maxWord64 : Nat := UInt64.size - 1

/-- A product that saturates. -/
def saturatingMul (a b : Nat) : Nat := min (a * b) maxWord64

/-- A power of two that saturates. -/
def saturatingPow2 (n : Nat) : Nat := if n < 64 then Nat.pow 2 n else maxWord64

/-- The policy for one pattern of failures. -/
structure RetryPolicy where
  patternId : String
  maxRetries : UInt32
  backoff : Backoff
  baseDelayMs : Nat
  maxDelayMs : Nat
  /-- How many retries have been counted. -/
  totalApplied : Counter
  /-- The share of counted retries that succeeded. -/
  successRate : Float
deriving DecidableEq, Repr, Inhabited

namespace RetryPolicy

/-- The policy of a pattern that none is stored for. -/
def fallback (patternId : String) : RetryPolicy :=
  ⟨patternId, 3, .exponential, 1000, 30000, .ofNat 0, 0⟩

/-- The policy a new pattern starts with. -/
def ofKind (patternId : String) (kind : FailureKind) : RetryPolicy :=
  match kind with
  | .timeout => { fallback patternId with backoff := .linear, baseDelayMs := 2000 }
  | .rateLimit =>
    { fallback patternId with backoff := .exponential, baseDelayMs := 5000, maxDelayMs := 60000 }
  | .server => { fallback patternId with maxRetries := 5 }
  | .assertion | .network | .unknown => fallback patternId

/-- The delay in milliseconds before the retry after an attempt, counted from one. -/
def delay (p : RetryPolicy) (attempt : Nat) : Nat :=
  let n := max attempt 1
  let ms :=
    match p.backoff with
    | .fixed => p.baseDelayMs
    | .linear => saturatingMul p.baseDelayMs n
    | .exponential => saturatingMul p.baseDelayMs (saturatingPow2 (n - 1))
  min ms p.maxDelayMs

/-- The policy with one more retry counted. -/
def recordOutcome (p : RetryPolicy) (success : Bool) : RetryPolicy :=
  { p with
    totalApplied := p.totalApplied.plus 1
    successRate := Average.fold p.successRate (p.totalApplied.plus 1).toNat success }

/-- Policies in records. -/
def codec : Json.Codec RetryPolicy :=
  .record [String, Nat, Backoff, Nat, Nat, Nat, Float]
    (Json.required "pattern_id" .string, Json.required "max_retries" (.nat 32),
      Json.required "backoff_type" Backoff.codec, Json.required "base_delay_ms" (.nat 64),
      Json.required "max_delay_ms" (.nat 64), Json.required "total_applied" (.nat 64),
      Json.required "success_rate" .real, ())
    (fun p => (p.patternId, p.maxRetries.toNat, p.backoff, p.baseDelayMs, p.maxDelayMs,
      p.totalApplied.toNat, p.successRate, ()))
    (fun (patternId, maxRetries, backoff, baseDelayMs, maxDelayMs, totalApplied, successRate, ()) =>
      ⟨patternId, UInt32.ofNat maxRetries, backoff, baseDelayMs, maxDelayMs, .ofNat totalApplied,
        successRate⟩)

end RetryPolicy

end Retrial
