import Retrial.Disk.Basic
import Retrial.Pattern.Book

/-!
# The pattern store

A pattern book with a file behind it, or none. After every change the whole book is written to a
file beside the store's file, which then takes its place; so the store's file always holds a whole
book. A change that cannot be kept on the disk still holds in memory.
-/

namespace Retrial

open Text Time

/-- A pattern book and the path of its file, if it has one. -/
structure PatternStore where
  path : Option Path
  book : PatternBook
deriving Inhabited

namespace PatternStore

/-- A store without a file. -/
def inMemory : PatternStore := ⟨none, .empty⟩

/-- A store on a file. A file that cannot be read as a book counts as an empty one. -/
def «open» (d : Disk) (p : Path) : PatternStore :=
  let book : Option PatternBook :=
    match d.read p with
    | .error _ => none
    | .ok content => (Json.decode PatternBook.codec.read content).toOption
  ⟨some p, book.getD .empty⟩

/-- The text that a book is kept as. -/
def fileText (b : PatternBook) : String := PatternBook.codec.prettyText b

/-- Keeps a book at a path: makes the folder, writes the file beside it, and moves that into place.
The first step that fails ends it. -/
def keep (p : Path) (b : PatternBook) (d : Disk) : Except DiskFault Unit × Disk :=
  let (made, d) : Except DiskFault Unit × Disk :=
    match p.parent? with
    | none => (.ok (), d)
    | some folder => d.makeFolders folder
  match made with
  | .error e => (.error e, d)
  | .ok () =>
    let beside := p.withExtension "json.tmp"
    match d.write beside (glyphs (fileText b)) with
    | (.error e, d) => (.error e, d)
    | (.ok (), d) => d.rename beside p

/-- Keeps the store's book, if it has a file. Failure to do so changes nothing but the disk. -/
def persist (s : PatternStore) (d : Disk) : Disk :=
  match s.path with
  | none => d
  | some p => (keep p s.book d).2

/-- Looks a failure up. -/
def detect (now : Instant) (message trace : String) (s : PatternStore) (d : Disk) :
    Option Pattern × PatternStore × Disk :=
  match s.book.detect now message trace with
  | (none, _) => (none, s, d)
  | (some p, book) =>
    let s := { s with book }
    (some p, s, s.persist d)

/-- Enters a failure that ended a case. -/
def record (now : Instant) (testId message trace : String) (fix : Option String)
    (s : PatternStore) (d : Disk) : Pattern × PatternStore × Disk :=
  let (p, book) := s.book.record now testId message trace fix
  let s := { s with book }
  (p, s, s.persist d)

/-- Enters the outcome of a retry. -/
def feedback (id : String) (success : Bool) (s : PatternStore) (d : Disk) : PatternStore × Disk :=
  if s.book.policies.contains id then
    let s := { s with book := s.book.feedback id success }
    (s, s.persist d)
  else (s, d)

end PatternStore

end Retrial
