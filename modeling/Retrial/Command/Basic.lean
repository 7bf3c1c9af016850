import Retrial.Command.Option
import Retrial.Settings.Flags

/-!
# Commands

The commands of the command line: they show what executions left behind, and manage settings files.
The flags that say something about settings may stand at every level of a command line; those of
the innermost level count.
-/

namespace Retrial

/-- A command with its arguments. -/
inductive Command
  /-- Lists executions, the newest first. -/
  | history (limit : Option Nat) (strategyId : Option String) (format : String)
  /-- Shows one execution, the newest one if none is named, or exports it to a file. -/
  | execution (id : Option String) (format : String) (exportPath : Option String)
  /-- Shows the failure statistics of some days. -/
  | statistics (days : Int) (top : Nat) (format : String)
  /-- Lists patterns. -/
  | patterns (limit : Option Nat) (format : String)
  /-- Writes a settings file. -/
  | initSettings (output : String) (overwrite : Bool)
  /-- Shows the settings in force, or what the environment may say. -/
  | showSettings (environment : Bool) (format : String)
  /-- Checks a settings file, the one that is found if none is named. -/
  | checkSettings (file : Option String)
deriving DecidableEq, Repr, Inhabited

/-- A command line that has been read: a command and the flags that came with it. -/
structure CommandLine where
  flags : Flags
  command : Command
deriving DecidableEq, Repr, Inhabited

namespace Command

/-! ### Forms -/

/-- An option whose value is any text. -/
def textOption (name : String) (letter : Option Char) : OptionForm :=
  ⟨name, letter, .value fun _ => true⟩

/-- An option whose value is a natural number of 64 bits. -/
def natOption (name : String) (letter : Option Char) : OptionForm :=
  ⟨name, letter, .value fun s => (plainNat? 64 s).isSome⟩

/-- A whole number of 64 bits: ASCII digits, perhaps after a sign. -/
def plainInt? (s : String) : Option Int :=
  match s.toList with
  | '-' :: c :: digits =>
    if c.isDigit then
      ((plainNat? 65 (String.ofList (c :: digits))).filter fun n => n ≤ Nat.pow 2 63).map
        fun n => -(n : Int)
    else none
  | _ => (plainNat? 63 s).map fun n => (n : Int)

/-- An option whose value is a whole number of 64 bits. -/
def intOption (name : String) (letter : Option Char) : OptionForm :=
  ⟨name, letter, .value fun s => (plainInt? s).isSome⟩

/-- The option that asks for help. -/
def helpOption : OptionForm := ⟨"help", some 'h', .help⟩

/-- The options of every level. -/
def commonOptions : List OptionForm :=
  [textOption "config" (some 'c'), textOption "data-dir" none, textOption "log-level" none,
    ⟨"verbose", some 'v', .counter⟩, helpOption]

/-- A level with further options, places, and commands below it. -/
def level (options : List OptionForm) (places : Nat) (commands : List String) : Form :=
  ⟨commonOptions ++ options, places, commands⟩

/-- The option for the format of a report. -/
def formatOption : OptionForm := textOption "format" (some 'f')

/-- The outermost level. -/
def rootForm : Form :=
  level [⟨"version", some 'V', .version⟩] 0
    ["history", "show", "stats", "patterns", "config", "help"]

/-- The level of settings. -/
def settingsForm : Form := level [] 0 ["init", "show", "validate", "help"]

/-- The arguments of `history`. -/
def historyForm : Form :=
  level [natOption "limit" (some 'l'), textOption "strategy" (some 's'), formatOption] 0 []

/-- The arguments of `show`. -/
def executionForm : Form := level [formatOption, textOption "export" (some 'e')] 1 []

/-- The arguments of `stats`. -/
def statisticsForm : Form :=
  level [intOption "days" (some 'd'), natOption "top" (some 't'), formatOption] 0 []

/-- The arguments of `patterns`. -/
def patternsForm : Form := level [natOption "limit" (some 'l'), formatOption] 0 []

/-- The arguments of `config init`. -/
def initForm : Form := level [⟨"force", some 'f', .switch⟩] 1 []

/-- The arguments of `config show`. -/
def showForm : Form := level [⟨"env", none, .switch⟩, formatOption] 0 []

/-- The arguments of `config validate`. -/
def checkForm : Form := level [] 1 []

/-! ### Reading commands -/

/-- The format of a report that is asked for. -/
def formatOf (g : Given) : String := (g.value? "format").getD "table"

/-- A number that is asked for. -/
def natOf (g : Given) (name : String) : Option Nat := (g.value? name).bind (plainNat? 64)

/-- The command `history`. -/
def ofHistory (g : Given) : Command := .history (natOf g "limit") (g.value? "strategy") (formatOf g)

/-- The command `show`. -/
def ofExecution (g : Given) : Command := .execution g.places.head? (formatOf g) (g.value? "export")

/-- The command `stats`. -/
def ofStatistics (g : Given) : Command :=
  .statistics (((g.value? "days").bind plainInt?).getD 7) ((natOf g "top").getD 10) (formatOf g)

/-- The command `patterns`. -/
def ofPatterns (g : Given) : Command := .patterns (natOf g "limit") (formatOf g)

/-- The command `config init`. -/
def ofInit (g : Given) : Command :=
  .initSettings (g.places.head?.getD "./test-orchestrator.yaml") (g.has "force")

/-- The command `config show`. -/
def ofShow (g : Given) : Command :=
  .showSettings (g.has "env") ((g.value? "format").getD "yaml")

/-- The command `config validate`. -/
def ofCheck (g : Given) : Command := .checkSettings g.places.head?

/-- What the words of one level say about settings. -/
def flagsOf (g : Given) : Flags :=
  ⟨g.value? "config", g.value? "data-dir", g.value? "log-level", g.count "verbose"⟩

end Command

/-- The flags of a level inside another one. -/
def Flags.within (inner outer : Flags) : Flags where
  settingsFile := inner.settingsFile.or outer.settingsFile
  dataDir := inner.dataDir.or outer.dataDir
  logLevel := inner.logLevel.or outer.logLevel
  verbosity := if inner.verbosity == 0 then outer.verbosity else inner.verbosity

namespace CommandLine

open Command

/-- Reads the words of an innermost level. -/
def ofLeaf (f : Form) (command : Given → Command) (outer : Flags) (words : List String) :
    Except Halt CommandLine :=
  (f.read words).map fun r => ⟨(flagsOf r.given).within outer, command r.given⟩

/-- What comes of asking for help on a command below a level with some commands. -/
def helpOn (commands : List String) : List String → Halt
  | [] => .help
  | [name] => if commands.contains name then .help else .usage
  | _ => .usage

/-- What comes of asking for help on a command. -/
def helpOnRoot : List String → Halt
  | "config" :: rest => helpOn settingsForm.commands rest
  | words => helpOn rootForm.commands words

/-- Reads the words after `config`. -/
def ofSettingsWords (outer : Flags) (words : List String) : Except Halt CommandLine :=
  (settingsForm.read words).bind fun r =>
    let flags := (flagsOf r.given).within outer
    match r.command with
    | some ("init", rest) => ofLeaf initForm ofInit flags rest
    | some ("show", rest) => ofLeaf showForm ofShow flags rest
    | some ("validate", rest) => ofLeaf checkForm ofCheck flags rest
    | some ("help", rest) => .error (helpOn settingsForm.commands rest)
    | _ => .error .usage

/-- Reads the words of a command line. -/
def ofWords (words : List String) : Except Halt CommandLine :=
  (rootForm.read words).bind fun r =>
    let flags := flagsOf r.given
    match r.command with
    | some ("history", rest) => ofLeaf historyForm ofHistory flags rest
    | some ("show", rest) => ofLeaf executionForm ofExecution flags rest
    | some ("stats", rest) => ofLeaf statisticsForm ofStatistics flags rest
    | some ("patterns", rest) => ofLeaf patternsForm ofPatterns flags rest
    | some ("config", rest) => ofSettingsWords flags rest
    | some ("help", rest) => .error (helpOnRoot rest)
    | _ => .error .usage

end CommandLine

end Retrial
