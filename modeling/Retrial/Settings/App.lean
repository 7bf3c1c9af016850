import Retrial.Collection.Dict
import Retrial.Disk.Path
import Retrial.Settings.Engine

/-!
# Settings of the application

The engine's settings, the folder for everything that is kept, and the log level. The folder's
stand-in lies in the place for data that the environment knows. How a platform finds that place and
the home folder is its own business: by variables, by its list of users, or not at all.
-/

namespace Retrial

/-- What surrounds the program: variables by name, and the folders that the platform finds. -/
structure Environment where
  values : Dict String
  /-- The home folder. -/
  home? : Option Path
  /-- The folder that programs keep data in. -/
  dataHome? : Option Path
deriving Inhabited

namespace Environment

/-- The value of a variable. -/
def get? (e : Environment) (name : String) : Option String := e.values.get? name

/-- An environment of some variables, on a platform without a list of users; a later variable
replaces an earlier one of its name. The home folder is the one named; the folder for data is the
one named, if its path is absolute, or the usual one in the home folder. -/
def ofList (vars : List (String × String)) : Environment :=
  let values := vars.foldl (fun d v => d.insert v.1 v.2) Dict.empty
  let home := ((values.get? "HOME").filter fun s => s != "").map Path.mk
  let data := ((values.get? "XDG_DATA_HOME").map Path.mk).filter Path.isAbsolute
  ⟨values, home, data.or (home.map fun folder => folder.join ".local/share")⟩

end Environment

/-- The application's settings. -/
structure AppSettings where
  engine : EngineSettings
  /-- The folder of the pattern store and the history. -/
  dataDir : Path
  logLevel : String
deriving DecidableEq, Repr, Inhabited

namespace AppSettings

/-- The settings when nothing is said. -/
def default (e : Environment) : AppSettings :=
  ⟨.default, (e.dataHome?.getD ⟨"."⟩).join "test-orchestrator", "info"⟩

/-- The path of the pattern store. -/
def patternsPath (s : AppSettings) : Path := s.dataDir.join "failure_patterns.json"

/-- The folder of the history. -/
def historyDir (s : AppSettings) : Path := s.dataDir.join "executions"

/-- Paths in records. -/
def pathCodec : Json.Codec Path :=
  ⟨fun p => .text p.text, fun s => (Json.readString s).map fun r => (⟨r.1⟩, r.2)⟩

/-- Settings in records; whatever is left out stands as in the settings given. -/
def codec (standIn : AppSettings) : Json.Codec AppSettings :=
  .record [EngineSettings, Path, String]
    (Json.defaulted "orchestrator" EngineSettings.codec standIn.engine,
      Json.defaulted "data_dir" pathCodec standIn.dataDir,
      Json.defaulted "log_level" .string standIn.logLevel, ())
    (fun s => (s.engine, s.dataDir, s.logLevel, ()))
    (fun (engine, dataDir, logLevel, ()) => ⟨engine, dataDir, logLevel⟩)

/-- Why settings cannot be run with, if they cannot. -/
def fault? (s : AppSettings) : Option EngineSettings.Fault := s.engine.fault?

end AppSettings

end Retrial
