import Retrial.Text.Lowercase

/-!
# Log levels
-/

namespace Retrial

/-- How much is logged, the most first. -/
inductive LogLevel
  | trace
  | debug
  | info
  | warn
  | error
deriving DecidableEq, Repr

namespace LogLevel

instance : Inhabited LogLevel := ⟨info⟩

/-- The name of a level. -/
def name : LogLevel → String
  | trace => "trace"
  | debug => "debug"
  | info => "info"
  | warn => "warn"
  | error => "error"

/-- The level of a name, in either case of letters. -/
def ofName? (s : String) : Option LogLevel :=
  let s := Text.lowercaseString s
  if s == "warning" then some warn else [trace, debug, info, warn, error].find? fun l => l.name == s

/-- The level with a little more in it. -/
def raised : LogLevel → LogLevel
  | error => warn
  | warn => info
  | info => debug
  | debug => trace
  | trace => trace

/-- The level raised a number of times. -/
def raisedBy (l : LogLevel) : Nat → LogLevel
  | 0 => l
  | n + 1 => l.raised.raisedBy n

/-- The directive that sets a level for the whole program. -/
def directive (l : LogLevel) : String := "test_orchestrator=" ++ l.name

end LogLevel

end Retrial
