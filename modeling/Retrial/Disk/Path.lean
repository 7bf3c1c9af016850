/-!
# Paths

A path is a text whose parts are separated by slashes. Its name is its last part; empty parts and
parts that are a lone point do not count. The extension is what follows the last point of the name,
unless that point comes first.
-/

namespace Retrial

/-- A path, as written. -/
structure Path where
  text : String
deriving DecidableEq, Repr, Inhabited

namespace Path

/-- The parts between the slashes, of a text as characters. -/
def splitSlashes : List Char → List (List Char)
  | [] => [[]]
  | c :: cs =>
    match splitSlashes cs with
    | [] => [[c]]
    | part :: parts => if c == '/' then [] :: part :: parts else (c :: part) :: parts

/-- All parts between slashes, empty ones included. -/
def pieces (p : Path) : List String := (splitSlashes p.text.toList).map String.ofList

/-- Whether the path starts at the root. -/
def isAbsolute (p : Path) : Bool := p.text.toList.head? == some '/'

/-- The parts that count. -/
def parts (p : Path) : List String := p.pieces.filter fun s => s != "" && s != "."

/-- Whether the path's first part is a lone point. -/
def startsHere (p : Path) : Bool := p.pieces.head? == some "."

/-- The last part, unless it leads upwards. -/
def fileName? (p : Path) : Option String := p.parts.getLast?.filter fun s => s != ".."

/-- A name split at its last point, if that is not its first character. -/
def splitName (name : String) : String × Option String :=
  let back := name.toList.reverse
  let ext := back.takeWhile fun c => c != '.'
  match back.drop ext.length with
  | [] => (name, none)
  | [_] => (name, none)
  | _ :: stem => (String.ofList stem.reverse, some (String.ofList ext.reverse))

/-- The name without its extension. -/
def stem? (p : Path) : Option String := p.fileName?.map fun n => (splitName n).1

/-- The extension of the name. -/
def extension? (p : Path) : Option String := p.fileName?.bind fun n => (splitName n).2

/-- A path below another; an absolute path stands for itself. -/
def join (base : Path) (p : String) : Path :=
  if p.toList.head? == some '/' then ⟨p⟩
  else if base.text == "" || base.text.toList.getLast? == some '/' then ⟨base.text ++ p⟩
  else ⟨base.text ++ "/" ++ p⟩

/-- Drops what follows the last part that counts: slashes and lone points. -/
def dropTail : List String → List String
  | [] => []
  | s :: rest =>
    let rest := dropTail rest
    if rest.isEmpty && (s == "" || s == ".") then [] else s :: rest

/-- Joins parts with slashes. -/
def joinPieces (pieces : List String) : String := String.intercalate "/" pieces

/-- The path without its last part, if it has one. -/
def parent? (p : Path) : Option Path :=
  if p.parts.isEmpty && !p.startsHere then none
  else
    let kept := dropTail p.pieces
    if kept.isEmpty then some ⟨""⟩
    else
      let rest := kept.dropLast
      let trimmed := dropTail rest
      if trimmed.isEmpty then
        some ⟨if p.isAbsolute then "/" else if rest.head? == some "." then "." else ""⟩
      else some ⟨joinPieces trimmed⟩

/-- The path with another extension; one without a name stays as it is. -/
def withExtension (p : Path) (ext : String) : Path :=
  match p.stem? with
  | none => p
  | some stem => ⟨joinPieces ((dropTail p.pieces).dropLast ++ [stem ++ "." ++ ext])⟩

end Path

end Retrial
