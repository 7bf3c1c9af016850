import Retrial.Disk.Path
import Retrial.Text.Glyph

/-!
# The disk

A disk is a tree of folders and files, kept as a list of what lies at each location. The root is a
folder; absolute paths start there, and all others at a location of the disk's own. Every access
follows the path part by part and fails the way a file system does: at a part that is missing, or
below one that is a file.

Changes may also be refused for reasons outside the tree. A disk carries the refusals still to come:
every change takes one off the front, and fails with it if it is one. A refused write may leave a
first part of the content behind.
-/

namespace Retrial

open Text

/-- Why an access failed. -/
inductive DiskFault
  | notFound
  | notADirectory
  | isADirectory
  | alreadyExists
  | invalidData
  /-- The access is not allowed, or the device failed. -/
  | refused
deriving DecidableEq, Repr

/-- The words for a fault. -/
def DiskFault.message : DiskFault → String
  | notFound => "No such file or directory (os error 2)"
  | notADirectory => "Not a directory (os error 20)"
  | isADirectory => "Is a directory (os error 21)"
  | alreadyExists => "File exists (os error 17)"
  | invalidData => "stream did not contain valid UTF-8"
  | refused => "Permission denied (os error 13)"

/-- What lies at a location. -/
inductive Node
  | file (content : List Glyph)
  | folder
deriving DecidableEq, Repr

/-- The content of what has been found. -/
def Node.content : Node → Except DiskFault (List Glyph)
  | .file c => .ok c
  | .folder => .error .isADirectory

/-- The names on the way from the root. -/
abbrev Location : Type := List String

/-- A change that will not succeed: why, and how much of a write still happens. -/
structure Refusal where
  fault : DiskFault
  written : Nat
deriving DecidableEq, Repr

/-- A tree of folders and files, with the refusals to come. -/
structure Disk where
  nodes : List (Location × Node)
  /-- Where paths that are not absolute start. -/
  here : Location
  refusals : List (Option Refusal)
deriving Inhabited

namespace Disk

/-- A disk with nothing on it that refuses nothing. -/
def empty : Disk := ⟨[], [], []⟩

/-- A disk with nothing on it but the folders on the way to where paths start. -/
def startingAt (here : Location) : Disk :=
  ⟨(List.range here.length).map fun n => (here.take (n + 1), .folder), here, []⟩

/-- What lies at a location. -/
def node? (d : Disk) (l : Location) : Option Node :=
  if l.isEmpty then some .folder else d.nodes.lookup l

/-- The disk with something put at a location. -/
def put (d : Disk) (l : Location) (n : Node) : Disk :=
  { d with nodes := (l, n) :: d.nodes.filter fun e => e.1 != l }

/-- The disk with nothing at a location, nor below it. -/
def erase (d : Disk) (l : Location) : Disk :=
  { d with nodes := d.nodes.filter fun e => !l.isPrefixOf e.1 }

/-- Follows one part of a path. -/
def descend (d : Disk) (here : Location) (part : String) : Except DiskFault Location :=
  if part == "" || part == "." then .ok here
  else if part == ".." then .ok here.dropLast
  else
    match d.node? (here ++ [part]) with
    | none => .error .notFound
    | some (.file _) => .error .notADirectory
    | some .folder => .ok (here ++ [part])

/-- Follows parts of a path that must all be folders. -/
def follow (d : Disk) : Location → List String → Except DiskFault Location
  | here, [] => .ok here
  | here, part :: rest =>
    match d.descend here part with
    | .error e => .error e
    | .ok next => d.follow next rest

/-- Where a path leads: a location, and whether the path says that it is a folder. -/
structure Target where
  location : Location
  asFolder : Bool

/-- Where a path starts. -/
def startOf (d : Disk) (p : Path) : Location := if p.isAbsolute then [] else d.here

/-- Follows a path up to its last part. -/
def resolve (d : Disk) (p : Path) : Except DiskFault Target :=
  if p.text == "" then .error .notFound
  else
    let trailing := p.text.toList.getLast? == some '/'
    let pieces := p.pieces.filter fun s => s != ""
    match pieces.getLast? with
    | none => .ok ⟨[], true⟩
    | some last =>
      match d.follow (d.startOf p) pieces.dropLast with
      | .error e => .error e
      | .ok here =>
        if last == "." then .ok ⟨here, true⟩
        else if last == ".." then .ok ⟨here.dropLast, true⟩
        else .ok ⟨here ++ [last], trailing⟩

/-- What lies at a path. -/
def lookup (d : Disk) (p : Path) : Except DiskFault Node :=
  match d.resolve p with
  | .error e => .error e
  | .ok t =>
    match d.node? t.location with
    | none => .error .notFound
    | some (.file c) => if t.asFolder then .error .notADirectory else .ok (.file c)
    | some .folder => .ok .folder

/-- Whether anything lies at a path. -/
def exists? (d : Disk) (p : Path) : Bool :=
  match d.lookup p with
  | .ok _ => true
  | .error _ => false

/-- Whether a file lies at a path. -/
def isFile (d : Disk) (p : Path) : Bool :=
  match d.lookup p with
  | .ok (.file _) => true
  | _ => false

/-- Whether a folder lies at a path. -/
def isFolder (d : Disk) (p : Path) : Bool :=
  match d.lookup p with
  | .ok .folder => true
  | _ => false

/-- The content of the file at a path. -/
def read (d : Disk) (p : Path) : Except DiskFault (List Glyph) :=
  match d.lookup p with
  | .error e => .error e
  | .ok n => n.content

/-- The text of the file at a path. -/
def readText (d : Disk) (p : Path) : Except DiskFault String :=
  match d.read p with
  | .error e => .error e
  | .ok c =>
    match text? c with
    | some s => .ok s
    | none => .error .invalidData

/-- The names in the folder at a path, in increasing order. -/
def list (d : Disk) (p : Path) : Except DiskFault (List String) :=
  match d.resolve p with
  | .error e => .error e
  | .ok t =>
    match d.node? t.location with
    | none => .error .notFound
    | some (.file _) => .error .notADirectory
    | some .folder =>
      .ok ((d.nodes.filterMap fun e =>
        if e.1.dropLast == t.location && !e.1.isEmpty then e.1.getLast? else none).mergeSort
          fun a b => a ≤ b)

/-! ### Changes -/

/-- Takes the next refusal off. -/
def nextRefusal (d : Disk) : Option Refusal × Disk :=
  match d.refusals with
  | [] => (none, d)
  | r :: rest => (r, { d with refusals := rest })

/-- Makes the folders along the parts of a path. -/
def makeAlong (d : Disk) : Location → List String → Except DiskFault Disk
  | _, [] => .ok d
  | here, part :: rest =>
    if part == "" || part == "." then d.makeAlong here rest
    else if part == ".." then d.makeAlong here.dropLast rest
    else
      match d.node? (here ++ [part]) with
      | some .folder => d.makeAlong (here ++ [part]) rest
      | some (.file _) =>
        .error (if (rest.filter fun s => s != "").isEmpty then .alreadyExists else .notADirectory)
      | none => (d.put (here ++ [part]) .folder).makeAlong (here ++ [part]) rest

/-- Makes the folder at a path and all folders above it. -/
def makeFolders (d : Disk) (p : Path) : Except DiskFault Unit × Disk :=
  match d.nextRefusal with
  | (some r, d) => (.error r.fault, d)
  | (none, d) =>
    match d.makeAlong (d.startOf p) p.pieces with
    | .error e => (.error e, d)
    | .ok d => (.ok (), d)

/-- Makes an empty file at a path, in the place of the one that is there. -/
def create (d : Disk) (p : Path) : Except DiskFault Location × Disk :=
  match d.nextRefusal with
  | (some r, d) => (.error r.fault, d)
  | (none, d) =>
    match d.resolve p with
    | .error e => (.error e, d)
    | .ok t =>
      match d.node? t.location with
      | some .folder => (.error .isADirectory, d)
      | some (.file _) =>
        if t.asFolder then (.error .notADirectory, d)
        else (.ok t.location, d.put t.location (.file []))
      | none =>
        if t.asFolder then (.error .isADirectory, d)
        else (.ok t.location, d.put t.location (.file []))

/-- Fills the file at a location. -/
def fill (d : Disk) (l : Location) (content : List Glyph) : Except DiskFault Unit × Disk :=
  match d.nextRefusal with
  | (some r, d) => (.error r.fault, d.put l (.file (content.take r.written)))
  | (none, d) => (.ok (), d.put l (.file content))

/-- Makes a file at a path and fills it. -/
def write (d : Disk) (p : Path) (content : List Glyph) : Except DiskFault Unit × Disk :=
  match d.create p with
  | (.error e, d) => (.error e, d)
  | (.ok l, d) => d.fill l content

/-- Moves a file to another path, in the place of the one that is there. -/
def rename (d : Disk) (a b : Path) : Except DiskFault Unit × Disk :=
  match d.nextRefusal with
  | (some r, d) => (.error r.fault, d)
  | (none, d) =>
    match d.lookup a, d.resolve a, d.resolve b with
    | .error e, _, _ => (.error e, d)
    | _, .error e, _ => (.error e, d)
    | _, _, .error e => (.error e, d)
    | .ok n, .ok s, .ok t =>
      match d.node? t.location with
      | some .folder => (.error .isADirectory, d)
      | _ =>
        if t.asFolder then (.error .notADirectory, d)
        else (.ok (), (d.erase s.location).put t.location n)

/-- Removes the file at a path. -/
def remove (d : Disk) (p : Path) : Except DiskFault Unit × Disk :=
  match d.nextRefusal with
  | (some r, d) => (.error r.fault, d)
  | (none, d) =>
    match d.lookup p, d.resolve p with
    | .error e, _ => (.error e, d)
    | _, .error e => (.error e, d)
    | .ok .folder, _ => (.error .isADirectory, d)
    | .ok (.file _), .ok t => (.ok (), d.erase t.location)

/-- Everything below the location where paths start, with the way to it from there. -/
def below (d : Disk) : List (Location × Node) :=
  d.nodes.filterMap fun e =>
    if d.here.isPrefixOf e.1 && e.1 != d.here then some (e.1.drop d.here.length, e.2) else none

/-- The path of everything below the location where paths start, folders with a slash at the end,
in increasing order. -/
def paths (d : Disk) : List String :=
  (d.below.map fun e =>
    Path.joinPieces e.1 ++ match e.2 with | .folder => "/" | .file _ => "").mergeSort
      fun a b => a ≤ b

/-- Removes the folder at a path with everything in it. -/
def removeFolder (d : Disk) (p : Path) : Except DiskFault Unit × Disk :=
  match d.nextRefusal with
  | (some r, d) => (.error r.fault, d)
  | (none, d) =>
    match d.lookup p, d.resolve p with
    | .error e, _ => (.error e, d)
    | _, .error e => (.error e, d)
    | .ok (.file _), _ => (.error .notADirectory, d)
    | .ok .folder, .ok t => (.ok (), d.erase t.location)

/-- What is read just after something was put is what was put. -/
theorem node?_put_self (d : Disk) {l : Location} (n : Node) (h : l ≠ []) :
    (d.put l n).node? l = some n := by
  have : l.isEmpty = false := by cases l <;> simp_all
  simp [node?, put, this]

end Disk

end Retrial
