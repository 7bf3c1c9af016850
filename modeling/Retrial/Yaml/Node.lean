import Retrial.Yaml.Scanner

/-!
# Documents as trees

The tokens of a document make a tree of scalars, lists and records. A node may carry an anchor, and
an alias stands for the node of an anchor that came before it. Anchors are numbered: an anchor gets
the number of names known so far, and of two nodes with one number the later one counts.
-/

namespace Retrial.Yaml

/-- A scalar: its tag, if it has one, how it is written, and its text. -/
structure Scalar where
  tag : Option (List Char)
  style : Style
  text : List Char
deriving DecidableEq, Repr, Inhabited

/-- A node of a document, with the number of its anchor if it has one. -/
inductive Node
  | scalar (anchor : Option Nat) (s : Scalar)
  | list (anchor : Option Nat) (items : List Node)
  | record (anchor : Option Nat) (fields : List (Node × Node))
  /-- The node of an anchor. -/
  | alias (number : Nat)
deriving Inhabited

/-- A scalar that is not there at all. -/
def Scalar.absent : Scalar := ⟨none, .plain, []⟩

/-- A node that is not there at all. -/
def Node.absent : Node := .scalar none .absent

/-! ### Building the tree -/

/-- What has been said about names so far. -/
structure Names where
  /-- The numbers of anchors. -/
  anchors : List (List Char × Nat)
  /-- What handles of tags stand for. -/
  handles : List (List Char × List Char)

namespace Names

/-- The handles that every document knows. -/
def usualHandles : List (List Char × List Char) :=
  [(['!'], ['!']), (['!', '!'], "tag:yaml.org,2002:".toList)]

/-- Gives a name its number. -/
def addAnchor (n : Names) (name : List Char) : Nat × Names :=
  let number := n.anchors.length
  (number, { n with anchors := (name, number) :: n.anchors.filter fun e => e.1 != name })

/-- The whole tag of a handle and a suffix. -/
def resolve (n : Names) (handle suffix : List Char) : Option (List Char) :=
  if handle.isEmpty then some suffix
  else ((n.handles ++ usualHandles).lookup handle).map fun start => start ++ suffix

end Names

/-- Takes something off the front of the tokens. -/
abbrev Builder (α : Type) : Type := Names → List Token → Option (α × Names × List Token)

/-- What stands in front of a node. -/
structure Properties where
  anchor : Option Nat
  tag : Option (List Char)

/-- Takes an anchor, if one comes next. -/
def takeAnchor : Builder (Option Nat)
  | names, .anchor name :: ts =>
    let (number, names) := names.addAnchor name
    some (some number, names, ts)
  | names, ts => some (none, names, ts)

/-- Takes a tag, if one comes next. -/
def takeTag : Builder (Option (List Char))
  | names, .tag handle suffix :: ts =>
    (names.resolve handle suffix).map fun tag => (some tag, names, ts)
  | names, ts => some (none, names, ts)

/-- Takes an anchor and a tag in either order. -/
def takeProperties : Builder Properties := fun names ts =>
  match takeAnchor names ts with
  | none => none
  | some (some anchor, names, ts) =>
    (takeTag names ts).map fun p => (⟨some anchor, p.1⟩, p.2)
  | some (none, names, ts) =>
    match takeTag names ts with
    | none => none
    | some (none, names, ts) => some (⟨none, none⟩, names, ts)
    | some (some tag, names, ts) =>
      (takeAnchor names ts).map fun p => (⟨p.1, some tag⟩, p.2)

/-- The tag that a scalar keeps: a lone exclamation mark says nothing. -/
def keptTag (tag : Option (List Char)) : Option (List Char) := tag.filter fun t => t != ['!']

/-! Where one of the following tokens comes next, an item, a key or a value is absent. -/

/-- The ends of an item of a list that is not indented further than its key. -/
def endsItem : List Token → Bool
  | .blockEntry :: _ => true
  | .key :: _ => true
  | .value :: _ => true
  | .blockEnd :: _ => true
  | _ => false

/-- The ends of a key or a value that indentation shows. -/
def endsField : List Token → Bool
  | .key :: _ => true
  | .value :: _ => true
  | .blockEnd :: _ => true
  | _ => false

/-- The ends of an item of a list that is indented further. -/
def endsBlockItem : List Token → Bool
  | .blockEntry :: _ => true
  | .blockEnd :: _ => true
  | _ => false

/-- The ends of a value that is an item of a list in brackets. -/
def endsFlowItem : List Token → Bool
  | .flowEntry :: _ => true
  | .flowListEnd :: _ => true
  | _ => false

/-- The ends of a key of a record in brackets. -/
def endsFlowKey : List Token → Bool
  | .value :: _ => true
  | .flowEntry :: _ => true
  | .flowRecordEnd :: _ => true
  | _ => false

/-- The ends of a value of a record in brackets. -/
def endsFlowField : List Token → Bool
  | .flowEntry :: _ => true
  | .flowRecordEnd :: _ => true
  | _ => false

/-- A node of which only an anchor or a tag is there. -/
def bare (p : Properties) : Builder Node := fun names ts =>
  if p.anchor.isSome || p.tag.isSome then some (.scalar p.anchor ⟨p.tag, .plain, []⟩, names, ts)
  else none

mutual

/-- Takes a node. Indentation counts only where no brackets are open, and in a record a list need
not be indented further than its key. The number bounds the depth. -/
def takeNode : Nat → (inFlow inRecord : Bool) → Builder Node
  | 0, _, _ => fun _ _ => none
  | fuel + 1, inFlow, inRecord => fun names ts =>
    match ts with
    | .alias name :: ts => (names.anchors.lookup name).map fun n => (.alias n, names, ts)
    | _ =>
      match takeProperties names ts with
      | none => none
      | some (p, names, ts) =>
        match ts with
        | .scalar style text :: ts =>
          some (.scalar p.anchor ⟨keptTag p.tag, style, text⟩, names, ts)
        | .flowListStart :: ts =>
          (takeFlowItems fuel true [] names ts).map fun r => (.list p.anchor r.1, r.2)
        | .flowRecordStart :: ts =>
          (takeFlowFields fuel true [] names ts).map fun r => (.record p.anchor r.1, r.2)
        | .blockListStart :: ts =>
          if inFlow then none
          else (takeItems fuel false [] names ts).map fun r => (.list p.anchor r.1, r.2)
        | .blockRecordStart :: ts =>
          if inFlow then none
          else (takeFields fuel [] names ts).map fun r => (.record p.anchor r.1, r.2)
        | .blockEntry :: ts' =>
          if inRecord then
            (takeItems fuel true [] names (.blockEntry :: ts')).map
              fun r => (.list p.anchor r.1, r.2)
          else bare p names ts
        | ts => bare p names ts

/-- Takes a node, or none at all if something ends it at once. -/
def takeNodeUnless : Nat → (List Token → Bool) → (inFlow inRecord : Bool) → Builder Node
  | 0, _, _, _ => fun _ _ => none
  | fuel + 1, ends, inFlow, inRecord => fun names ts =>
    if ends ts then some (.absent, names, ts) else takeNode fuel inFlow inRecord names ts

/-- Takes the items of a list that indentation shows, up to its end. A list that is not indented
further than its key has no end of its own. -/
def takeItems : Nat → (unindented : Bool) → List Node → Builder (List Node)
  | 0, _, _ => fun _ _ => none
  | fuel + 1, unindented, items => fun names ts =>
    match ts with
    | .blockEntry :: ts =>
      match takeNodeUnless fuel (if unindented then endsItem else endsBlockItem) false false names
        ts with
      | none => none
      | some (n, names, ts) => takeItems fuel unindented (items ++ [n]) names ts
    | ts =>
      if unindented then some (items, names, ts)
      else
        match ts with
        | .blockEnd :: ts => some (items, names, ts)
        | _ => none

/-- Takes the value of a field, or none at all. -/
def takeValue : Nat → (List Token → Bool) → (inFlow : Bool) → Builder Node
  | 0, _, _ => fun _ _ => none
  | fuel + 1, ends, inFlow => fun names ts =>
    match ts with
    | .value :: ts => takeNodeUnless fuel ends inFlow (!inFlow) names ts
    | ts => some (.absent, names, ts)

/-- Takes the fields of a record that indentation shows, up to its end. -/
def takeFields : Nat → List (Node × Node) → Builder (List (Node × Node))
  | 0, _ => fun _ _ => none
  | fuel + 1, fields => fun names ts =>
    match ts with
    | .key :: ts =>
      match takeNodeUnless fuel endsField false true names ts with
      | none => none
      | some (k, names, ts) =>
        match takeValue fuel endsField false names ts with
        | none => none
        | some (v, names, ts) => takeFields fuel (fields ++ [(k, v)]) names ts
    | .blockEnd :: ts => some (fields, names, ts)
    | _ => none

/-- Takes the items of a list in brackets, up to the closing one. An item may be a field. -/
def takeFlowItems : Nat → (first : Bool) → List Node → Builder (List Node)
  | 0, _, _ => fun _ _ => none
  | fuel + 1, first, items => fun names ts =>
    match ts with
    | .flowListEnd :: ts => some (items, names, ts)
    | _ =>
      let next? : Option (List Token) :=
        if first then some ts
        else
          match ts with
          | .flowEntry :: ts => some ts
          | _ => none
      match next? with
      | none => none
      | some (.flowListEnd :: ts) => some (items, names, ts)
      | some (.key :: ts) =>
        match takeFlowPair fuel names ts with
        | none => none
        | some (n, names, ts) => takeFlowItems fuel false (items ++ [n]) names ts
      | some ts =>
        match takeNode fuel true false names ts with
        | none => none
        | some (n, names, ts) => takeFlowItems fuel false (items ++ [n]) names ts

/-- Takes a field that is an item of a list. Where the key is absent, the token after it is passed
over. -/
def takeFlowPair : Nat → Builder Node
  | 0 => fun _ _ => none
  | fuel + 1 => fun names ts =>
    let key? :=
      match ts with
      | .value :: ts => some (Node.absent, names, ts)
      | .flowEntry :: ts => some (Node.absent, names, ts)
      | .flowListEnd :: ts => some (Node.absent, names, ts)
      | ts => takeNode fuel true false names ts
    match key? with
    | none => none
    | some (k, names, ts) =>
      match takeValue fuel endsFlowItem true names ts with
      | none => none
      | some (v, names, ts) => some (.record none [(k, v)], names, ts)

/-- Takes the fields of a record in brackets, up to the closing one. A field may be a key alone. -/
def takeFlowFields : Nat → (first : Bool) → List (Node × Node) → Builder (List (Node × Node))
  | 0, _, _ => fun _ _ => none
  | fuel + 1, first, fields => fun names ts =>
    match ts with
    | .flowRecordEnd :: ts => some (fields, names, ts)
    | _ =>
      let next? : Option (List Token) :=
        if first then some ts
        else
          match ts with
          | .flowEntry :: ts => some ts
          | _ => none
      match next? with
      | none => none
      | some (.flowRecordEnd :: ts) => some (fields, names, ts)
      | some (.key :: ts) =>
        match takeNodeUnless fuel endsFlowKey true false names ts with
        | none => none
        | some (k, names, ts) =>
          match takeValue fuel endsFlowField true names ts with
          | none => none
          | some (v, names, ts) => takeFlowFields fuel false (fields ++ [(k, v)]) names ts
      | some ts =>
        match takeNode fuel true false names ts with
        | none => none
        | some (k, names, ts) => takeFlowFields fuel false (fields ++ [(k, .absent)]) names ts

end

/-! ### Documents -/

/-- Takes the directives in front of a document: at most one version, which has to be known, and
each handle once. -/
def takeDirectives : (versionSeen : Bool) → List (List Char × List Char) → List Token →
    Option (List (List Char × List Char) × List Token)
  | versionSeen, handles, .versionDirective major minor :: ts =>
    if versionSeen || major != 1 || (minor != 1 && minor != 2) then none
    else takeDirectives true handles ts
  | versionSeen, handles, .tagDirective handle expansion :: ts =>
    if (handles.lookup handle).isSome then none
    else takeDirectives versionSeen (handles ++ [(handle, expansion)]) ts
  | _, handles, ts => some (handles, ts)

/-- Whether a document has directives or a mark in front of it. -/
def isExplicit : List Token → Bool
  | .versionDirective _ _ :: _ => true
  | .tagDirective _ _ :: _ => true
  | .documentStart :: _ => true
  | _ => false

/-- Whether a document with a mark in front of it is over at once. -/
def endsDocument : List Token → Bool
  | [] => true
  | .documentEnd :: _ => true
  | ts => isExplicit ts

/-- A bound for the depth of a document of some tokens. -/
def depthBound (ts : List Token) : Nat := 4 * ts.length + 8

/-- Takes the root of a document. -/
def takeRoot (ts : List Token) : Option (Node × List Token) :=
  let fuel := depthBound ts
  let root? :=
    if isExplicit ts then
      match takeDirectives false [] ts with
      | some (handles, .documentStart :: ts) =>
        takeNodeUnless fuel endsDocument false false ⟨[], handles⟩ ts
      | _ => none
    else takeNode fuel false false ⟨[], []⟩ ts
  root?.map fun r => (r.1, r.2.2)

/-- The root of the only document that some tokens make; absent if they make none. -/
def rootOf? (ts : List Token) : Option Node :=
  if ts.isEmpty then some .absent
  else
    match takeRoot ts with
    | none => none
    | some (root, ts) =>
      if (ts.dropWhile fun t => t == .documentEnd).isEmpty then some root else none

/-- The root of the only document in a text. -/
def root? (s : String) : Option Node := (tokens? s.toList).bind rootOf?

end Retrial.Yaml
