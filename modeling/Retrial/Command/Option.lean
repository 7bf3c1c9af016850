/-!
# Options of a command line

The words of a command line name options and fill places. A word with two dashes in front names an
option in full, perhaps with its value after an equals sign; a word with one dash names options by
one letter each, and the rest of the word is the value of the first one that takes a value. An
option that takes a value and has none in its own word takes the next word, which must not begin
with a dash itself. After a word of two dashes alone all words fill places.

A line of words is read for a form: the options that there are, the number of places, and the names
of commands, one of which ends the reading and leaves the words after it.
-/

namespace Retrial.Command

/-- What an option does. -/
inductive OptionKind
  /-- It is given or not. -/
  | switch
  /-- It may be given more than once, and counts. -/
  | counter
  /-- It has a value, which not every text need be. -/
  | value (accepts : String → Bool)
  /-- It asks for help, and ends the reading. -/
  | help
  /-- It asks for the version, and ends the reading. -/
  | version

/-- An option: its name, perhaps its letter, and what it does. -/
structure OptionForm where
  name : String
  letter : Option Char
  kind : OptionKind

/-- What words are read for. -/
structure Form where
  options : List OptionForm
  places : Nat
  commands : List String

/-- Why words are not read to their end. -/
inductive Halt
  /-- They are used in a wrong way. -/
  | usage
  | help
  | version
deriving DecidableEq, Repr

/-- What words say. -/
structure Given where
  /-- The values, with the names of their options. -/
  values : List (String × String)
  /-- The names of options without values, as often as they are given. -/
  switches : List String
  places : List String
deriving DecidableEq, Repr, Inhabited

namespace Given

/-- What no words say. -/
def nothing : Given := ⟨[], [], []⟩

/-- The value of an option. -/
def value? (g : Given) (name : String) : Option String := g.values.lookup name

/-- How often an option is given. -/
def count (g : Given) (name : String) : Nat := g.switches.count name

/-- Whether an option is given. -/
def has (g : Given) (name : String) : Bool := g.switches.contains name

/-- Gives an option a value, which it must not have yet and has to accept. -/
def setValue (g : Given) (name : String) (accepts : String → Bool) (s : String) :
    Except Halt Given :=
  if (g.value? name).isSome || !accepts s then .error .usage
  else .ok { g with values := g.values ++ [(name, s)] }

/-- Fills a place, if there is one left. -/
def fill (g : Given) (f : Form) (s : String) : Except Halt Given :=
  if g.places.length < f.places then .ok { g with places := g.places ++ [s] } else .error .usage

/-- Fills a place with each of some words. -/
def fillAll (g : Given) (f : Form) : List String → Except Halt Given
  | [] => .ok g
  | s :: rest => (g.fill f s).bind fun g => g.fillAll f rest

end Given

/-- A word of a command line. -/
inductive Word
  /-- Two dashes alone. -/
  | separator
  | named (name : String) (value : Option String)
  | letters (cs : List Char)
  | plain (s : String)

/-- The name before the first equals sign, and what follows it. -/
def splitValue : List Char → List Char × Option (List Char)
  | [] => ([], none)
  | c :: cs =>
    if c == '=' then ([], some cs)
    else
      let (name, value) := splitValue cs
      (c :: name, value)

/-- The kind of a word. -/
def Word.ofString (s : String) : Word :=
  match s.toList with
  | ['-', '-'] => .separator
  | '-' :: '-' :: cs =>
    let (name, value) := splitValue cs
    .named (String.ofList name) (value.map String.ofList)
  | '-' :: c :: cs => .letters (c :: cs)
  | _ => .plain s

/-- What has been read, and the option that still needs a value: its name and what it accepts. -/
abbrev Progress : Type := Given × Option (String × (String → Bool))

/-- Uses an option, with a value if its word holds one. -/
def useOption (g : Given) (o : OptionForm) (value : Option String) : Except Halt Progress :=
  match o.kind, value with
  | .value accepts, some s => (g.setValue o.name accepts s).map fun g => (g, none)
  | .value accepts, none => .ok (g, some (o.name, accepts))
  | _, some _ => .error .usage
  | .switch, none =>
    if g.has o.name then .error .usage
    else .ok ({ g with switches := g.switches ++ [o.name] }, none)
  | .counter, none => .ok ({ g with switches := g.switches ++ [o.name] }, none)
  | .help, none => .error .help
  | .version, none => .error .version

/-- The value that the rest of a word holds; an equals sign in front does not belong to it. -/
def attachedValue : List Char → Option String
  | [] => none
  | '=' :: cs => some (String.ofList cs)
  | cs => some (String.ofList cs)

/-- Whether an option takes a value. -/
def OptionForm.takesValue (o : OptionForm) : Bool :=
  match o.kind with
  | .value _ => true
  | _ => false

/-- Uses the options of some letters. -/
def useLetters (f : Form) (g : Given) : List Char → Except Halt Progress
  | [] => .ok (g, none)
  | c :: cs =>
    match f.options.find? fun o => o.letter == some c with
    | none => .error .usage
    | some o =>
      if o.takesValue then useOption g o (attachedValue cs)
      else (useOption g o none).bind fun p => useLetters f p.1 cs

/-- What is read up to the end or up to the name of a command, and that name with the words after
it. -/
structure Reading where
  given : Given
  command : Option (String × List String)

/-- Reads words for a form. -/
def readWords (f : Form) : Progress → List String → Except Halt Reading
  | (g, none), [] => .ok ⟨g, none⟩
  | (_, some _), [] => .error .usage
  | (g, some (name, accepts)), s :: rest =>
    match Word.ofString s with
    | .plain s => (g.setValue name accepts s).bind fun g => readWords f (g, none) rest
    | _ => .error .usage
  | (g, none), s :: rest =>
    match Word.ofString s with
    | .separator => (g.fillAll f rest).map fun g => ⟨g, none⟩
    | .named name value =>
      match f.options.find? fun o => o.name == name with
      | none => .error .usage
      | some o => (useOption g o value).bind fun p => readWords f p rest
    | .letters cs => (useLetters f g cs).bind fun p => readWords f p rest
    | .plain s =>
      if f.commands.contains s then .ok ⟨g, some (s, rest)⟩
      else (g.fill f s).bind fun g => readWords f (g, none) rest

/-- Reads words for a form from the start. -/
def Form.read (f : Form) (words : List String) : Except Halt Reading :=
  readWords f (.nothing, none) words

end Retrial.Command
