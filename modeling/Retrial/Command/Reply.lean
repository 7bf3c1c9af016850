import Retrial.Command.Basic
import Retrial.Pattern.Store
import Retrial.Report.Basic
import Retrial.Runner
import Retrial.Storage.Export

/-!
# What commands do

A command looks at the disk, prints, and may write a file. It never runs a test.
-/

namespace Retrial

open Time (Instant)

/-- How a command ends. -/
inductive Ending
  | done
  | failed (problem : Problem)
  /-- The words of the command line make no command. -/
  | misused
deriving DecidableEq, Repr, Inhabited

/-- What a command comes to. -/
structure Reply where
  /-- The texts that are printed, each on lines of its own. -/
  printed : List String
  ending : Ending
  disk : Disk

namespace Reply

/-- A reply of one text that leaves the disk as it was. -/
def ofText (d : Disk) : Outcome String → Reply
  | .ok s => ⟨[s], .done, d⟩
  | .error problem => ⟨[], .failed problem, d⟩

/-- All that is printed. -/
def output (r : Reply) : String := String.join (r.printed.map fun s => s ++ "\n")

/-- The code that the program ends with. -/
def code (r : Reply) : Nat :=
  match r.ending with
  | .done => 0
  | .failed _ => 1
  | .misused => 2

end Reply

namespace Command

/-- The report in a format, a table if there is no such format. -/
def reportIn (format : String) : Report := ⟨(ReportFormat.ofName? format).getD .table, true⟩

/-- The storage that settings name. -/
def storageOf (s : AppSettings) : Storage := ⟨s.historyDir⟩

/-- A runner that knows the stored executions. -/
def loadedRunner (s : AppSettings) (d : Disk) : Outcome Runner :=
  let r := Runner.new ⟨s.engine, false⟩ (storageOf s)
  match r.loadHistory d with
  | (.error problem, _) => .error problem
  | (.ok _, r) => .ok r

/-- The list of executions. -/
def historyText (s : AppSettings) (d : Disk) (limit : Option Nat) (strategyId : Option String)
    (format : String) : Outcome String := do
  let r ← loadedRunner s d
  return (reportIn format).history (r.executionHistory limit strategyId)

/-- The execution of an id, or the newest one. -/
def findExecution (s : AppSettings) (d : Disk) : Option String → Outcome Execution
  | some id => (storageOf s).load d id
  | none => do
    match ← (storageOf s).latest d with
    | some e => return e
    | none => .error [.text "No executions recorded yet"]

/-- Exports an execution to a file. -/
def exportReply (e : Execution) (path : String) (d : Disk) : Reply :=
  match ExportFormat.ofPath? ⟨path⟩ with
  | none =>
    let problem := "Cannot infer export format from " ++ path ++ " (use .json or .csv)"
    ⟨[], .failed [.text problem], d⟩
  | some format =>
    match e.exportTo ⟨path⟩ format d with
    | (.error problem, d) => ⟨[], .failed problem, d⟩
    | (.ok (), d) => ⟨["✓ Exported " ++ e.id ++ " to " ++ path], .done, d⟩

/-- Shows or exports an execution. -/
def executionReply (s : AppSettings) (id : Option String) (format : String)
    (exportPath : Option String) (d : Disk) : Reply :=
  match findExecution s d id, exportPath with
  | .error problem, _ => ⟨[], .failed problem, d⟩
  | .ok e, some path => exportReply e path d
  | .ok e, none => .ofText d (.ok ((reportIn format).execution e))

/-- The statistics of some days, of which there has to be one at least. -/
def statisticsText (s : AppSettings) (now : Instant) (d : Disk) (days : Int) (top : Nat)
    (format : String) : Outcome String :=
  if days ≤ 0 then .error [.text "--days must be positive"]
  else do
    let r ← loadedRunner s d
    return (reportIn format).statistics (r.failureStatistics days now) top

/-- The list of patterns. -/
def patternsText (s : AppSettings) (d : Disk) (limit : Option Nat) (format : String) : String :=
  let ranked := (PatternStore.open d s.patternsPath).book.ranked
  (reportIn format).patterns (match limit with | none => ranked | some n => ranked.take n)

/-- Writes a settings file with all that stands in when nothing is said. -/
def initReply (e : Environment) (output : String) (overwrite : Bool) (d : Disk) : Reply :=
  if d.exists? ⟨output⟩ && !overwrite then
    let problem :=
      "Configuration file already exists: " ++ output ++ ". Use --force to overwrite."
    ⟨[], .failed [.text problem], d⟩
  else
    match (AppSettings.default e).save ⟨output⟩ d with
    | (.error problem, d) => ⟨[], .failed problem, d⟩
    | (.ok (), d) =>
      ⟨["✓ Configuration file created: " ++ output, "\nEdit the file to customize your settings."],
        .done, d⟩

/-- Settings as a text: a record if that is asked for, or else a block document. -/
def settingsText (s : AppSettings) (format : String) : String :=
  if format == "json" then SettingsFormat.record.render s else SettingsFormat.block.render s

/-- Checks a settings file. -/
def checkReply (e : Environment) (file : Option String) (d : Disk) : Reply :=
  match (file.map Path.mk).or (AppSettings.find? e d) with
  | none => ⟨[], .failed [.text "No configuration file found"], d⟩
  | some path =>
    match AppSettings.load e d path with
    | .ok _ => ⟨["✓ Configuration file is valid: " ++ path.text], .done, d⟩
    | .error problem =>
      ⟨["✗ Configuration file is invalid: " ++ path.text, "  Error: " ++ problem.message],
        .failed problem, d⟩

/-- What a command comes to under the settings in force. -/
def reply (e : Environment) (now : Instant) (s : AppSettings) (d : Disk) : Command → Reply
  | history limit strategyId format => .ofText d (historyText s d limit strategyId format)
  | execution id format exportPath => executionReply s id format exportPath d
  | statistics days top format => .ofText d (statisticsText s now d days top format)
  | patterns limit format => .ofText d (.ok (patternsText s d limit format))
  | initSettings output overwrite => initReply e output overwrite d
  | showSettings environment format =>
    .ofText d (.ok (if environment then Overrides.helpText else settingsText s format))
  | checkSettings file => checkReply e file d

end Command

/-- What a command line comes to. Nothing is done unless there are settings that can be run with. -/
def CommandLine.reply (c : CommandLine) (e : Environment) (now : Instant) (d : Disk) : Reply :=
  match c.flags.resolve e d with
  | .error problem => ⟨[], .failed problem, d⟩
  | .ok s => c.command.reply e now s d

namespace Command

/-- The name of the program and its version. -/
def versionText : String := "test-orchestrator 0.1.0"

/-- The help on the command line. -/
def usageText : String :=
  String.intercalate "\n"
    ["Usage: test-orchestrator [OPTIONS] <COMMAND>", "", "Commands:",
      "  history   List recorded executions, newest first",
      "  show      Show one execution in detail",
      "  stats     Failure statistics over a trailing window",
      "  patterns  List learned failure patterns",
      "  config    Manage configuration"]

/-- What words that make no command come to. -/
def Halt.reply (d : Disk) : Halt → Reply
  | .usage => ⟨[], .misused, d⟩
  | .help => ⟨[usageText], .done, d⟩
  | .version => ⟨[versionText], .done, d⟩

end Command

/-- What the words of a command line come to. -/
def Reply.ofWords (words : List String) (e : Environment) (now : Instant) (d : Disk) : Reply :=
  match CommandLine.ofWords words with
  | .error halt => halt.reply d
  | .ok c => c.reply e now d

end Retrial
