/-!
# Failures

What a module reports when it fails: a message and a trace. A failure may come from a chain of
causes; then the outermost message stands for it and the trace lists the causes.
-/

namespace Retrial

/-- What a module reports when it fails. -/
structure Failure where
  message : String
  trace : String
deriving DecidableEq, Repr, Inhabited

namespace Failure

/-- A failure without a trace. -/
def ofMessage (message : String) : Failure := ⟨message, ""⟩

/-- A text whose further lines are indented. -/
def indented (width : Nat) (s : String) : String :=
  String.ofList (s.toList.flatMap fun c =>
    if c == '\n' then '\n' :: List.replicate width ' ' else [c])

/-- A number in a column of five. -/
def column (n : Nat) : String :=
  let digits := toString n
  String.ofList (List.replicate (5 - digits.length) ' ') ++ digits

/-- One cause on a line of its own, numbered if there are several. -/
def causeLine (number : Option Nat) (text : String) : String :=
  match number with
  | none => "\n    " ++ indented 4 text
  | some n => "\n" ++ column n ++ ": " ++ indented 7 text

/-- The lines of the causes, outermost first. -/
def causeLines : List String → String
  | [] => ""
  | [cause] => causeLine none cause
  | causes =>
    String.join ((List.range causes.length).zipWith (fun n c => causeLine (some n) c) causes)

/-- The trace of a message with its causes, outermost first. -/
def chainTrace (message : String) (causes : List String) : String :=
  if causes.isEmpty then message else message ++ "\n\nCaused by:" ++ causeLines causes

/-- The failure of a root cause and the contexts put around it one after another. -/
def ofChain (root : String) (contexts : List String) : Failure :=
  match (root :: contexts).reverse with
  | outermost :: causes => ⟨outermost, chainTrace outermost causes⟩
  | [] => ofMessage root

end Failure

end Retrial
