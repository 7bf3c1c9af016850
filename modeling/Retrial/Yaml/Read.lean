import Retrial.Yaml.Node
import Retrial.Yaml.Number

/-!
# Values in block documents

How truth values, numbers, texts, lists and fields are read from a node. Every scalar is a text if a
text is wanted. A truth value or a number is written plainly, or as a block of lines with the tag of
its kind. Where nothing is written, an optional value is nothing and a list or a record is empty.
-/

namespace Retrial.Yaml

namespace Node

mutual

/-- The nodes with anchors, with their numbers, in the order in which they begin. -/
def anchored : Node → List (Nat × Node)
  | .scalar anchor s => (anchor.map fun n => (n, Node.scalar anchor s)).toList
  | .list anchor items =>
    (anchor.map fun n => (n, Node.list anchor items)).toList ++ anchoredItems items
  | .record anchor fields =>
    (anchor.map fun n => (n, Node.record anchor fields)).toList ++ anchoredFields fields
  | .alias _ => []

/-- The nodes with anchors among items. -/
def anchoredItems : List Node → List (Nat × Node)
  | [] => []
  | n :: ns => n.anchored ++ anchoredItems ns

/-- The nodes with anchors among fields. -/
def anchoredFields : List (Node × Node) → List (Nat × Node)
  | [] => []
  | (k, v) :: fs => k.anchored ++ v.anchored ++ anchoredFields fs

end

/-- The node that a node stands for in the document of a root. -/
def resolve (n root : Node) : Node :=
  match n with
  | .alias number => (root.anchored.reverse.lookup number).getD .absent
  | n => n

end Node

namespace Scalar

/-- Whether a scalar may be a value of the kind that a tag names. -/
def mayBe (s : Scalar) (tag : String) : Bool :=
  s.style == .plain || (s.style == .literal && s.tag == some ("tag:yaml.org,2002:" ++ tag).toList)

/-- Whether nothing is written. -/
def isAbsent (s : Scalar) : Bool := s.style == .plain && s.text.isEmpty

/-- The text of a scalar. -/
def string (s : Scalar) : String := String.ofList s.text

end Scalar

/-- Reads a value from a node of the document with a root. -/
abbrev Reading (α : Type) : Type := (root : Node) → Node → Option α

namespace Reading

/-- A value of a scalar. -/
def ofScalar {α : Type} (f : Scalar → Option α) : Reading α := fun root n =>
  match n.resolve root with
  | .scalar _ s => f s
  | _ => none

/-- A text. -/
def string : Reading String := ofScalar fun s => some s.string

/-- A truth value. -/
def bool : Reading Bool := ofScalar fun s => if s.mayBe "bool" then truth? s.string else none

/-- A natural number of at most `bits` bits. -/
def nat (bits : Nat) : Reading Nat :=
  ofScalar fun s => if s.mayBe "int" then (nat? s.text).filter fun n => n < Nat.pow 2 bits else none

/-- Whether a scalar is something rather than nothing; none if it is tagged as nothing but is
not. -/
def isSomething? (s : Scalar) : Option Bool :=
  if s.style != .plain then some true
  else
    match s.tag with
    | none => some (!s.isAbsent && !isNothing s.string)
    | some tag =>
      if tag == "tag:yaml.org,2002:null".toList then if isNothing s.string then some false else none
      else some true

/-- Something, or nothing. -/
def optional {α : Type} (r : Reading α) : Reading (Option α) := fun root n =>
  match n.resolve root with
  | .scalar anchor s =>
    match isSomething? s with
    | none => none
    | some false => some none
    | some true => (r root (.scalar anchor s)).map some
  | m => (r root m).map some

/-- A list. -/
def list {α : Type} (r : Reading α) : Reading (List α) := fun root n =>
  match n.resolve root with
  | .list _ items => items.mapM (r root)
  | .scalar _ s => if s.isAbsent then some [] else none
  | _ => none

/-- Named values, all names being texts. -/
def fields : Reading (List (String × Node)) := fun root n =>
  match n.resolve root with
  | .record _ fs => fs.mapM fun f => (string root f.1).map fun k => (k, f.2)
  | .scalar _ s => if s.isAbsent then some [] else none
  | _ => none

/-- The value under a name, or a stand-in; none if the name occurs twice. -/
def field {α : Type} (r : Reading α) (standIn : α) (name : String) (root : Node)
    (fs : List (String × Node)) : Option α :=
  match fs.filter fun f => f.1 == name with
  | [] => some standIn
  | [f] => r root f.2
  | _ => none

end Reading

end Retrial.Yaml
