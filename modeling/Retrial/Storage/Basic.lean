import Retrial.Execution
import Retrial.Problem

/-!
# Stored executions

Each execution is kept in a file of its own, named by its id, in one folder. Listings give the
newest first and pass over everything in the folder that is no execution.
-/

namespace Retrial

open Text Time

/-- The folder with the files. -/
structure Storage where
  base : Path
deriving DecidableEq, Repr, Inhabited

namespace Storage

/-- The path of an execution's file. -/
def pathOf (s : Storage) (id : String) : Path := s.base.join (id ++ ".json")

/-- The text an execution is kept as. -/
def fileText (e : Execution) : String := Execution.codec.prettyText e

/-- Keeps an execution; gives the path of its file. -/
def save (s : Storage) (e : Execution) (d : Disk) : Outcome Path × Disk :=
  match d.makeFolders s.base with
  | (.error fault, d) =>
    (.error [.text ("Failed to create history dir " ++ s.base.text), .disk fault], d)
  | (.ok (), d) =>
    match d.create (s.pathOf e.id) with
    | (.error fault, d) => (.error [.text "Failed to create execution file", .disk fault], d)
    | (.ok l, d) =>
      match d.fill l (glyphs (fileText e)) with
      | (.error fault, d) => (.error [.text "Failed to flush execution file", .disk fault], d)
      | (.ok (), d) => (.ok (s.pathOf e.id), d)

/-- Reads the execution in the file at a path. -/
def loadPath (d : Disk) (p : Path) : Outcome Execution :=
  match d.lookup p with
  | .error fault => .error [.text ("Failed to open execution file " ++ p.text), .disk fault]
  | .ok node =>
    Problem.during ("Failed to parse execution file " ++ p.text)
      (match node.content with
      | .error fault => .error [.disk fault]
      | .ok content => Problem.ofJson (Json.decode Execution.codec.read content))

/-- Reads the execution of an id. -/
def load (s : Storage) (d : Disk) (id : String) : Outcome Execution := loadPath d (s.pathOf id)

/-- Whether `a` stands before or beside `b` when the newest comes first. -/
def newerFirst (a b : Execution) : Bool := b.startedAt.le a.startedAt

/-- All executions in the folder, the newest first. -/
def loadAll (s : Storage) (d : Disk) : Outcome (List Execution) :=
  if d.exists? s.base then
    match d.list s.base with
    | .error fault => .error [.disk fault]
    | .ok names =>
      let files := (names.map s.base.join).filter fun p => p.extension? == some "json"
      .ok ((files.filterMap fun p => (loadPath d p).toOption).mergeSort newerFirst)
  else .ok []

/-- The newest execution in the folder. -/
def latest (s : Storage) (d : Disk) : Outcome (Option Execution) := (s.loadAll d).map List.head?

/-- Removes the file of an execution, if there is one. -/
def delete (s : Storage) (id : String) (d : Disk) : Outcome Unit × Disk :=
  if d.exists? (s.pathOf id) then
    let (r, d) := d.remove (s.pathOf id)
    (Problem.ofDisk r, d)
  else (.ok (), d)

/-- What a listing says about an execution. -/
structure Entry where
  id : String
  strategyId : String
  status : Status
  startedAt : Instant
  total : Nat
  passRate : Float

/-- The listing entry of an execution. -/
def entryOf (e : Execution) : Entry :=
  ⟨e.id, e.strategyId, e.status, e.startedAt, e.summary.total, e.summary.passRate⟩

/-- A listing of all executions, the newest first. -/
def list (s : Storage) (d : Disk) : Outcome (List Entry) :=
  (s.loadAll d).map fun es => es.map entryOf

end Storage

end Retrial
