import Retrial.Settings.File
import Retrial.Settings.LogLevel
import Retrial.Settings.Overrides

/-!
# Settings from all sources

The settings in force come from a file, from the environment and from flags of the command line; of
two sources that say something about a field, the later one counts. What comes out has to be
settings that can be run with, wherever it was said.
-/

namespace Retrial

/-- What the command line says about settings. -/
structure Flags where
  settingsFile : Option String
  dataDir : Option String
  logLevel : Option String
  /-- How often more of the log was asked for. -/
  verbosity : Nat
deriving DecidableEq, Repr, Inhabited

namespace Flags

/-- The settings with what is said. -/
def apply (f : Flags) (s : AppSettings) : AppSettings where
  engine := s.engine
  dataDir := (f.dataDir.map Path.mk).getD s.dataDir
  logLevel := f.logLevel.getD s.logLevel

/-- The settings of the file that is named, first by a flag and then by the environment, or else of
the one that is found. -/
def fileSettings (f : Flags) (e : Environment) (d : Disk) : Outcome AppSettings :=
  match f.settingsFile.or (Overrides.ofEnvironment e).settingsFile with
  | some file => AppSettings.load e d ⟨file⟩
  | none => AppSettings.loadDefault e d

/-- What all sources together say. -/
def merged (f : Flags) (e : Environment) (s : AppSettings) : AppSettings :=
  f.apply ((Overrides.ofEnvironment e).apply s)

/-- The settings in force. -/
def resolve (f : Flags) (e : Environment) (d : Disk) : Outcome AppSettings := do
  let s ← f.fileSettings e d
  (f.merged e s).validate
  return f.merged e s

/-- How much is logged under some settings. A level that is not known counts as the usual one. -/
def level (f : Flags) (s : AppSettings) : LogLevel :=
  ((LogLevel.ofName? s.logLevel).getD default).raisedBy f.verbosity

end Flags

end Retrial
