import Retrial.Collection.Counter
import Retrial.Collection.Dict
import Retrial.Failure.Kind
import Retrial.Time.Text

/-!
# Patterns

A pattern is a failure that recurs: all failures with one signature. It counts its occurrences and
knows the cases it ended, when it was last seen, and a fix if one was suggested.
-/

namespace Retrial

open Time (Instant)

/-- Reads a list of names as a set. -/
def NameSet.read : Json.Reader NameSet := Json.readFold Json.readString NameSet.add Dict.empty

/-- Sets of names in records: the list of the names in increasing order. -/
def NameSet.codec : Json.Codec NameSet := ⟨fun s => .list (s.toList.map .text), NameSet.read⟩

/-- Dictionaries in records: a later entry under the same key replaces an earlier one. -/
def Dict.codec {α : Type} (c : Json.Codec α) : Json.Codec (Dict α) :=
  ⟨fun d => .record (d.entries.map fun e => (e.1, c.write e.2)),
    Json.readEntries c.read Dict.insert Dict.empty⟩

/-- A failure that recurs. -/
structure Pattern where
  patternId : String
  kind : FailureKind
  signature : String
  /-- How often it has occurred. -/
  frequency : Counter
  affectedTests : NameSet
  lastSeen : Instant
  suggestedFix : Option String
deriving Inhabited

namespace Pattern

/-- A pattern at its first occurrence. -/
def first (now : Instant) (patternId : String) (kind : FailureKind) (signature testId : String) :
    Pattern :=
  ⟨patternId, kind, signature, .ofNat 1, NameSet.single testId, now, none⟩

/-- The pattern with one more occurrence. -/
def touch (now : Instant) (p : Pattern) : Pattern :=
  { p with frequency := p.frequency.plus 1, lastSeen := now }

/-- The pattern with a case it ended, and a fix if one is suggested. -/
def implicate (p : Pattern) (testId : String) (fix : Option String) : Pattern :=
  { p with
    affectedTests := p.affectedTests.add testId
    suggestedFix := fix.or p.suggestedFix }

/-- Patterns in records. -/
def codec : Json.Codec Pattern :=
  .record [String, FailureKind, String, Nat, NameSet, Instant, Option String]
    (Json.required "pattern_id" .string, Json.required "pattern_type" FailureKind.codec,
      Json.required "signature" .string, Json.required "frequency" (.nat 64),
      Json.required "affected_tests" NameSet.codec, Json.required "last_seen" Instant.codec,
      Json.optionalField "suggested_fix" .string, ())
    (fun p => (p.patternId, p.kind, p.signature, p.frequency.toNat, p.affectedTests, p.lastSeen,
      p.suggestedFix, ()))
    (fun (patternId, kind, signature, frequency, affectedTests, lastSeen, suggestedFix, ()) =>
      ⟨patternId, kind, signature, .ofNat frequency, affectedTests, lastSeen, suggestedFix⟩)

end Pattern

end Retrial
