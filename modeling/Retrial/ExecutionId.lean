import Retrial.Time.Instant

/-!
# The ids of executions

An execution's id tells when it began, in milliseconds, and ends with nine characters drawn at
random, so that two executions that began in the same millisecond have different files.
-/

namespace Retrial.ExecutionId

open Time (Instant)

/-- The characters that ids end with. -/
def alphabet : List Char := "0123456789abcdefghijklmnopqrstuvwxyz".toList

/-- The number of characters drawn. -/
def drawn : Nat := 9

/-- The milliseconds from the start of 1970. -/
def millis (t : Instant) : Int := t.seconds * 1000 + (t.nanos / 1000000 : Nat)

/-- The character of a draw. -/
def letter (draw : Nat) : Char := alphabet.getD (draw % 36) '0'

/-- The id of an execution that begins now, of nine draws. -/
def make (now : Instant) (draws : Nat → Nat) : String :=
  "exec_" ++ toString (millis now) ++ "_"
    ++ String.ofList ((List.range drawn).map fun i => letter (draws i))

/-- Whether a text has the form of an id. -/
def hasForm (s : String) : Bool :=
  match s.toList with
  | 'e' :: 'x' :: 'e' :: 'c' :: '_' :: rest =>
    let digits := rest.takeWhile Char.isDigit
    match rest.drop digits.length with
    | '_' :: tail => !digits.isEmpty && tail.length == drawn && tail.all alphabet.contains
    | _ => false
  | _ => false

end Retrial.ExecutionId
