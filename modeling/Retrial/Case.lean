import Retrial.Json.Record

/-!
# Cases and service groups

A case is one unit of test work: the module to run, the service whose cases must run one after
another, and tags by which cases can be skipped.

Cases of different services may run at the same time. Their groups stand in the order in which the
services first occur, and within a group the cases keep their order.
-/

namespace Retrial

/-- One unit of test work. -/
structure Case where
  id : String
  /-- What the loader resolves to a module. -/
  moduleRef : String
  /-- The service group the case belongs to. -/
  service : String
  tags : List String
deriving DecidableEq, Repr, Inhabited

/-- Whether two texts differ at most in the case of ASCII letters. -/
def sameIgnoringCase (a b : String) : Bool :=
  a.toList.map Char.toLower == b.toList.map Char.toLower

namespace Case

/-- Whether the case carries a tag, in either case of letters. -/
def hasTag (c : Case) (tag : String) : Bool := c.tags.any fun t => sameIgnoringCase t tag

/-- The case with one more tag. -/
def withTag (c : Case) (tag : String) : Case := { c with tags := c.tags ++ [tag] }

/-- The case with more tags. -/
def withTags (c : Case) (tags : List String) : Case := { c with tags := c.tags ++ tags }

/-- The id and the service of a case. -/
def display (c : Case) : String := c.id ++ " [" ++ c.service ++ "]"

/-- Cases in records. -/
def codec : Json.Codec Case :=
  .record [String, String, String, List String]
    (Json.required "id" .string, Json.required "module_reference" .string,
      Json.required "service" .string, Json.defaulted "tags" (.list .string) [], ())
    (fun c => (c.id, c.moduleRef, c.service, c.tags, ()))
    (fun (id, moduleRef, service, tags, ()) => ⟨id, moduleRef, service, tags⟩)

end Case

/-- The cases of one service. -/
structure ServiceGroup where
  service : String
  cases : List Case
deriving DecidableEq, Repr, Inhabited

namespace ServiceGroup

/-- Adds a case to the group of its service, or as a new group at the end. -/
def addTo : List ServiceGroup → Case → List ServiceGroup
  | [], c => [⟨c.service, [c]⟩]
  | g :: gs, c =>
    if g.service == c.service then { g with cases := g.cases ++ [c] } :: gs else g :: addTo gs c

/-- The groups of a list of cases. -/
def ofCases (cases : List Case) : List ServiceGroup := cases.foldl addTo []

@[simp] theorem ofCases_nil : ofCases [] = [] := rfl

theorem ofCases_append_singleton (cs : List Case) (c : Case) :
    ofCases (cs ++ [c]) = addTo (ofCases cs) c := by
  simp [ofCases]

end ServiceGroup

end Retrial
