import Retrial.Json.Record
import Retrial.Text.Lowercase

/-!
# Kinds of failure

A failure's message is sorted by keywords into one of six kinds. The rules are tried in order; the
first one with a keyword in the lower-cased message decides.
-/

namespace Retrial

open Text

/-- What sort of failure recurs. -/
inductive FailureKind
  | timeout
  | assertion
  | network
  | rateLimit
  | server
  | unknown
deriving DecidableEq, Repr, Inhabited

namespace FailureKind

/-- All kinds. -/
def all : List FailureKind := [timeout, assertion, network, rateLimit, server, unknown]

/-- The name of a kind. -/
def name : FailureKind → String
  | timeout => "timeout"
  | assertion => "assertion_error"
  | network => "network_error"
  | rateLimit => "rate_limit"
  | server => "server_error"
  | unknown => "unknown"

/-- The kind of a name. -/
def ofName? (s : String) : Option FailureKind := all.find? fun k => k.name == s

theorem ofName?_name (k : FailureKind) : ofName? k.name = some k := by cases k <;> decide

/-- Kinds in records. -/
def codec : Json.Codec FailureKind := .choice name ofName?

/-- The kinds and their keywords, in the order they are tried. -/
def rules : List (FailureKind × List String) := [
  (timeout, ["timeout", "timed out", "deadline exceeded"]),
  (assertion, ["assert", "expected", "mismatch"]),
  (network, ["connection refused", "econnrefused", "econnreset", "connection reset", "network",
    "socket", "dns", "unreachable"]),
  (rateLimit, ["rate limit", "ratelimit", "too many requests", "429"]),
  (server, ["internal server error", "server error", "bad gateway", "service unavailable", "500",
    "502", "503", "504"])]

/-- Whether a text occurs in another. -/
def occurs (word : List Char) : List Char → Bool
  | [] => word.isEmpty
  | c :: cs => word.isPrefixOf (c :: cs) || occurs word cs

/-- The kind of a failure with a message. -/
def classify (message : String) : FailureKind :=
  let text := lowercase message.toList
  match rules.find? fun r => r.2.any fun k => occurs k.toList text with
  | some r => r.1
  | none => unknown

end FailureKind

end Retrial
