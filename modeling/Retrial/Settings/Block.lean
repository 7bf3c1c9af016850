import Retrial.Settings.App
import Retrial.Yaml.Read
import Retrial.Yaml.Write

/-!
# Settings as block documents

The fields are those of the settings in records, and whatever is left out has the same stand-in.
Fields of other names are passed over.
-/

namespace Retrial

open Yaml.Reading (field)

/-- Reads the engine's settings. -/
def EngineSettings.reading : Yaml.Reading EngineSettings := fun root n => do
  let fs ← Yaml.Reading.fields root n
  let s := EngineSettings.default
  let selfHealing ← field .bool s.selfHealing "enable_self_healing" root fs
  let maxFixAttempts ← field (.nat 32) s.maxFixAttempts "max_auto_fix_attempts" root fs
  let workers ← field (.nat 64) s.workers "parallel_workers" root fs
  let timeoutSecs ← field (.optional (.nat 64)) s.timeoutSecs "test_timeout_secs" root fs
  let skipTags ← field (.list .string) s.skipTags "skip_tags" root fs
  return ⟨selfHealing, maxFixAttempts, workers, timeoutSecs, skipTags⟩

namespace AppSettings

/-- Reads the application's settings; whatever is left out stands as in the settings given. -/
def reading (standIn : AppSettings) : Yaml.Reading AppSettings := fun root n => do
  let fs ← Yaml.Reading.fields root n
  let engine ← field EngineSettings.reading standIn.engine "orchestrator" root fs
  let dataDir ← field .string standIn.dataDir.text "data_dir" root fs
  let logLevel ← field .string standIn.logLevel "log_level" root fs
  return ⟨engine, ⟨dataDir⟩, logLevel⟩

/-- The settings in a block document. -/
def ofBlock? (standIn : AppSettings) (s : String) : Option AppSettings :=
  (Yaml.root? s).bind fun root => reading standIn root root

/-- The settings as a block document. -/
def blockText (s : AppSettings) : String :=
  match (codec s).write s with
  | .record fields => Yaml.recordText fields
  | _ => ""

end AppSettings

end Retrial
