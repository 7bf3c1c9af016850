import Retrial.Settings.App
import Retrial.Text.Field
import Retrial.Text.Lowercase

/-!
# Settings from the environment

Variables of the environment override the settings of a file. A number that cannot be read counts
as not given.
-/

namespace Retrial

open Text

/-- What the environment says about settings. -/
structure Overrides where
  selfHealing : Option Bool
  maxFixAttempts : Option Nat
  workers : Option Nat
  /-- The limit in seconds; none of them lifts it. -/
  timeoutSecs : Option Nat
  dataDir : Option String
  /-- The file to take settings from. -/
  settingsFile : Option String
  logLevel : Option String
deriving DecidableEq, Repr, Inhabited

/-- Whether a text says yes. -/
def saysYes (s : String) : Bool :=
  ["1", "true", "yes", "on", "enabled"].contains (lowercaseString s)

/-- A natural number of at most `bits` bits: ASCII digits, perhaps after a plus sign. -/
def plainNat? (bits : Nat) (s : String) : Option Nat :=
  let digits :=
    match s.toList with
    | '+' :: rest => rest
    | cs => cs
  if !digits.isEmpty && digits.all Char.isDigit then
    some (digits.foldl (fun n c => n * 10 + (c.toNat - 48)) 0) |>.filter fun n => n < Nat.pow 2 bits
  else none

namespace Overrides

/-- The name of one of the program's variables. -/
def variableName (name : String) : String := "TEST_ORCH_" ++ name

/-- The names of all variables that count. -/
def variableNames : List String :=
  ["SELF_HEALING", "MAX_FIX_ATTEMPTS", "WORKERS", "TIMEOUT", "DATA_DIR", "CONFIG", "LOG_LEVEL"].map
    variableName

/-- What an environment says. -/
def ofEnvironment (e : Environment) : Overrides where
  selfHealing := (e.get? (variableName "SELF_HEALING")).map saysYes
  maxFixAttempts := (e.get? (variableName "MAX_FIX_ATTEMPTS")).bind (plainNat? 32)
  workers := (e.get? (variableName "WORKERS")).bind (plainNat? 64)
  timeoutSecs := (e.get? (variableName "TIMEOUT")).bind (plainNat? 64)
  dataDir := e.get? (variableName "DATA_DIR")
  settingsFile := e.get? (variableName "CONFIG")
  logLevel := e.get? (variableName "LOG_LEVEL")

/-- Whether anything is said. -/
def any (o : Overrides) : Bool :=
  o.selfHealing.isSome || o.maxFixAttempts.isSome || o.workers.isSome || o.timeoutSecs.isSome
    || o.dataDir.isSome || o.settingsFile.isSome || o.logLevel.isSome

/-- The engine's settings with what is said. -/
def applyEngine (o : Overrides) (s : EngineSettings) : EngineSettings where
  selfHealing := o.selfHealing.getD s.selfHealing
  maxFixAttempts := o.maxFixAttempts.getD s.maxFixAttempts
  workers := o.workers.getD s.workers
  timeoutSecs :=
    match o.timeoutSecs with
    | none => s.timeoutSecs
    | some secs => if 0 < secs then some secs else none
  skipTags := s.skipTags

/-- The settings with what is said. -/
def apply (o : Overrides) (s : AppSettings) : AppSettings where
  engine := o.applyEngine s.engine
  dataDir := (o.dataDir.map Path.mk).getD s.dataDir
  logLevel := o.logLevel.getD s.logLevel

/-- A line of the help on the environment, with the break in front of it. -/
def helpLine (name text : String) : String := "\n  " ++ padEnd 28 (variableName name) ++ text

/-- The help on the environment. -/
def helpText : String :=
  "Environment Variables:\n"
    ++ helpLine "SELF_HEALING" "Enable self-healing (true/false)"
    ++ helpLine "MAX_FIX_ATTEMPTS" "Attempt budget with self-healing"
    ++ helpLine "WORKERS" "Concurrent service groups"
    ++ helpLine "TIMEOUT" "Per-attempt timeout in seconds (0 disables)"
    ++ helpLine "DATA_DIR" "Pattern store and history directory"
    ++ helpLine "CONFIG" "Path to configuration file"
    ++ helpLine "LOG_LEVEL" "Log level (trace, debug, info, warn, error)"

end Overrides

end Retrial
