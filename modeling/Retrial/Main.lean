import Retrial.Command.Reply
import Std.Time.DateTime.Timestamp

/-!
# The program

The program copies the part of the file system that its command line concerns onto a disk, works out
the reply, and writes back what the reply changed on the disk.
-/

open Retrial

namespace Retrial.Main

/-- The variables that count. -/
def readEnvironment : IO Environment := do
  let names := ["HOME", "XDG_DATA_HOME"] ++ Overrides.variableNames
  let given ← names.filterMapM fun name => do
    return (← IO.getEnv name).map fun value => (name, value)
  return .ofList given

/-- A disk with nothing on it but the way to the working folder. -/
def readPlace : IO Disk := do
  let here : Path := ⟨(← IO.currentDir).toString⟩
  return .startingAt (here.pieces.filter fun s => s != "")

/-- The present moment. -/
def readClock : IO Time.Instant := do
  let t ← Std.Time.Timestamp.now
  return ⟨t.val.second.val, t.val.nano.val.toNat⟩

/-- What lies at a place of the file system, if it can be read. -/
def nodeAt? (place : String) : IO (Option Node) := do
  try
    let real ← IO.FS.realPath place
    if ← real.isDir then return some .folder
    return some (.file (Text.ofBytes (← IO.FS.readBinFile real).toList))
  catch _ => return none

/-- Copies what lies along the parts of a path, as far as they lead. -/
def copyAlong (d : Disk) (here : Location) (place : String) : List String → IO Disk
  | [] => return d
  | part :: rest => do
    if part == "" || part == "." then copyAlong d here (place ++ part ++ "/") rest
    else
      match ← nodeAt? (place ++ part) with
      | none => return d
      | some node =>
        let next := if part == ".." then here.dropLast else here ++ [part]
        let d := if next.isEmpty then d else d.put next node
        copyAlong d next (place ++ part ++ "/") rest

/-- Copies what a path leads to. -/
def copyPath (d : Disk) (p : Path) : IO Disk := copyAlong d (d.startOf p) "" p.pieces

/-- Copies a folder with what it holds. -/
def copyFolder (d : Disk) (p : Path) : IO Disk := do
  let d ← copyPath d p
  if d.isFolder p then
    (← (← IO.FS.realPath p.text).readDir).foldlM
      (fun d entry => copyPath d (p.join entry.fileName)) d
  else return d

/-- The paths that a command names. -/
def pathsOf : Command → List Path
  | .execution _ _ exportPath => exportPath.toList.map Path.mk
  | .initSettings output _ => [⟨output⟩]
  | .checkSettings file => file.toList.map Path.mk
  | _ => []

/-- Copies what a command line concerns. -/
def copyFor (c : CommandLine) (e : Environment) (d : Disk) : IO Disk := do
  let named := (c.flags.settingsFile.toList ++ (Overrides.ofEnvironment e).settingsFile.toList).map
    Path.mk
  let d ← (AppSettings.searchPaths e ++ named ++ pathsOf c.command).foldlM copyPath d
  match c.flags.resolve e d with
  | .error _ => return d
  | .ok s => copyFolder (← copyPath d s.patternsPath) s.historyDir

/-- Writes what is new or changed, the oldest change first. -/
def writeBack (before after : Disk) : IO Unit :=
  after.nodes.reverse.forM fun e => do
    if before.node? e.1 != some e.2 then
      let place := "/" ++ Path.joinPieces e.1
      match e.2 with
      | .folder => IO.FS.createDirAll place
      | .file content => IO.FS.writeFile place (Text.shownText content)

end Retrial.Main

open Retrial.Main in
/-- Runs the command line. -/
def main (words : List String) : IO UInt32 := do
  let e ← readEnvironment
  let empty ← readPlace
  let before ←
    match CommandLine.ofWords words with
    | .ok c => copyFor c e empty
    | .error _ => pure empty
  let r := Reply.ofWords words e (← readClock) before
  writeBack before r.disk
  IO.print r.output
  match r.ending with
  | .done => pure ()
  | .failed problem => IO.eprintln ("Error: " ++ problem.report)
  | .misused => IO.eprintln Command.usageText
  return r.code.toUInt32
