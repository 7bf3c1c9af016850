import Retrial.Problem
import Retrial.Settings.Block

/-!
# Settings in files

A settings file is a block document or a record, as its extension says. It is looked for in a few
places, and settings that cannot be run with are rejected.
-/

namespace Retrial

/-- The kind of a settings file. -/
inductive SettingsFormat
  | block
  | record
deriving DecidableEq, Repr

namespace SettingsFormat

/-- The kind that a path's extension stands for. -/
def ofPath (p : Path) : SettingsFormat :=
  match p.extension? with
  | some ext => if ext == "yaml" || ext == "yml" then block else record
  | none => record

/-- The name of a kind. -/
def name : SettingsFormat → String
  | block => "Yaml"
  | record => "Json"

/-- Reads settings of a kind. -/
def parse (format : SettingsFormat) (standIn : AppSettings) (s : String) : Outcome AppSettings :=
  match format with
  | block =>
    match AppSettings.ofBlock? standIn s with
    | some settings => .ok settings
    | none => .error [.yaml]
  | record => Problem.ofJson (Json.decode (AppSettings.codec standIn).read (Text.glyphs s))

/-- Writes settings in a kind. -/
def render (format : SettingsFormat) (s : AppSettings) : String :=
  match format with
  | block => s.blockText
  | record => (AppSettings.codec s).prettyText s

end SettingsFormat

namespace AppSettings

/-- The settings if they can be run with. -/
def validate (s : AppSettings) : Outcome Unit :=
  match s.fault? with
  | some fault => .error [.text (EngineFault.configuration fault.message).message]
  | none => .ok ()

/-- The places where a settings file is looked for, the first one first. -/
def searchPaths (e : Environment) : List Path :=
  ["./test-orchestrator.yaml", "./test-orchestrator.yml", "./test-orchestrator.json",
    "./.test-orchestrator.yaml"].map Path.mk
    ++ [match e.home? with
      | some home => home.join ".config/test-orchestrator/config.yaml"
      | none => ⟨"~/.config/test-orchestrator/config.yaml"⟩]

/-- The settings file to use when none is named. -/
def find? (e : Environment) (d : Disk) : Option Path := (searchPaths e).find? d.isFile

/-- The settings in a file. -/
def load (e : Environment) (d : Disk) (p : Path) : Outcome AppSettings := do
  let format := SettingsFormat.ofPath p
  let s ← Problem.during ("Cannot read config " ++ p.text) (Problem.ofDisk (d.readText p))
  let settings ← Problem.during ("Invalid " ++ format.name ++ " in config " ++ p.text)
    (format.parse (default e) s)
  Problem.during ("Rejected config " ++ p.text) settings.validate
  return settings

/-- The settings in the file to use when none is named, or those that stand in when there is no
file. -/
def loadDefault (e : Environment) (d : Disk) : Outcome AppSettings :=
  match find? e d with
  | some p => load e d p
  | none => .ok (default e)

/-- Keeps settings in a file; makes the folder it lies in. -/
def save (s : AppSettings) (p : Path) (d : Disk) : Outcome Unit × Disk :=
  let content := Text.glyphs ((SettingsFormat.ofPath p).render s)
  let (made, d) : Outcome Unit × Disk :=
    match p.parent?.filter fun folder => folder.text != "" with
    | none => (.ok (), d)
    | some folder =>
      let (r, d) := d.makeFolders folder
      (Problem.during ("Cannot create " ++ folder.text) (Problem.ofDisk r), d)
  match made with
  | .error problem => (.error problem, d)
  | .ok () =>
    let (r, d) := d.write p content
    (Problem.during ("Cannot write config " ++ p.text) (Problem.ofDisk r), d)

end AppSettings

end Retrial
