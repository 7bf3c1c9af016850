import Retrial.Decimal.Binary
import Retrial.Statistics
import Retrial.Text.Field
import Retrial.Text.Lowercase

/-!
# Reports

Results, executions, statistics and patterns as tables, records, comma-separated values or one-line
summaries. Tables may be coloured by status and by rate.
-/

namespace Retrial

open Text Time

/-- The forms of a report. -/
inductive ReportFormat
  | table
  | json
  | jsonPretty
  | csv
  | summary
deriving DecidableEq, Repr, Inhabited

namespace ReportFormat

/-- The format of a name, in either case of letters. -/
def ofName? (s : String) : Option ReportFormat :=
  let s := Text.lowercaseString s
  if s == "table" then some table
  else if s == "json" then some json
  else if s == "json-pretty" || s == "jsonpretty" then some jsonPretty
  else if s == "csv" then some csv
  else if s == "summary" then some summary
  else none

end ReportFormat

/-- How reports are written. -/
structure Report where
  format : ReportFormat
  colored : Bool
deriving Inhabited

namespace Report

/-- A value as a record, in the layout of the report's format. -/
def recordText (r : Report) (v : Json.Value) : String :=
  if r.format == .jsonPretty then v.prettyText else v.compactText

/-- A text in a terminal colour. -/
def paint (r : Report) (color s : String) : String :=
  if r.colored then "\x1b[" ++ color ++ "m" ++ s ++ "\x1b[0m" else s

/-- The colour of a status. -/
def statusColor : Status → String
  | .passed => "32"
  | .failed => "31"
  | .flaky => "33"
  | .skipped => "33"
  | .healed => "36"
  | .pending => "90"
  | .running => "90"

/-- The sign and the name of a status. -/
def statusLabel (r : Report) (s : Status) : String :=
  r.paint (statusColor s) (s.symbol ++ " " ++ s.name)

/-- The colour of a percentage: good from 90, fair from 50. -/
def rateColor (rate : Float) : String :=
  if rate ≥ 90 then "32" else if rate ≥ 50 then "33" else "31"

/-- A percentage with one place. -/
def rateLabel (r : Report) (rate : Float) : String :=
  r.paint (rateColor rate) (padStart 5 (Decimal.fixedText 1 rate) ++ "%")

/-- A row of a frame: a corner, a line, and the other corner, on a line of its own. -/
def frame (left right : String) (line : Char) (width : Nat) : String :=
  left ++ String.ofList (List.replicate width line) ++ right ++ "\n"

/-- A row of a grid: lines of the columns' widths between corners, joints and corners. -/
def grid (left joint right : String) (widths : List Nat) : String :=
  left ++ String.intercalate joint (widths.map fun w => String.ofList (List.replicate w '─'))
    ++ right ++ "\n"

/-! ### Results -/

/-- A result as a line of comma-separated values, without its end. -/
def resultRow (executionId : String) (x : Result) : String :=
  Csv.joined [executionId, Csv.field x.testId, x.status.name, toString x.attempts,
    toString x.durationMs, if x.healed then "true" else "false", Csv.field (x.errorMessage.getD "")]

/-- A result in a table. -/
def resultLine (r : Report) (x : Result) : String :=
  padEnd 30 x.testId ++ " " ++ padEnd 12 (r.statusLabel x.status) ++ " " ++ padNat 2 x.attempts
    ++ "x [" ++ padNat 6 x.durationMs ++ "ms]"
    ++ (x.healingApplied.map (" healed: " ++ ·)).getD ""
    ++ (x.errorMessage.map fun e => "\n" ++ padEnd 34 "" ++ e).getD ""

/-- A report on one result. -/
def result (r : Report) (x : Result) : String :=
  match r.format with
  | .json => r.recordText (Result.codec.write x)
  | .jsonPretty => r.recordText (Result.codec.write x)
  | .csv => resultRow "" x
  | .summary => x.status.symbol ++ " " ++ x.testId ++ " (" ++ toString x.durationMs ++ "ms)"
  | .table => r.resultLine x

/-! ### Executions -/

/-- An execution in one line. -/
def brief (e : Execution) : String :=
  let s := e.summary
  e.id ++ " [" ++ e.strategyId ++ "] " ++ e.status.name ++ ": " ++ toString (s.passed + s.flaky)
    ++ "/" ++ toString s.total ++ " passed (" ++ Decimal.fixedText 1 s.passRate ++ "%) in "
    ++ toString e.durationMs ++ "ms"

/-- An execution as a table. -/
def executionTable (r : Report) (e : Execution) : String :=
  let s := e.summary
  "\n" ++ frame "╔" "╗" '═' 62
    ++ "║  " ++ padEnd 40 e.id ++ " " ++ padStart 19 e.strategyId ++ " ║\n"
    ++ frame "╠" "╣" '═' 62
    ++ String.join (e.results.map fun x => "  " ++ r.resultLine x ++ "\n")
    ++ frame "╠" "╣" '═' 62
    ++ "║  Total: " ++ padNat 3 s.total ++ " | Pass: " ++ padNat 3 s.passed
    ++ " | Fail: " ++ padNat 3 s.failed ++ " | Flaky: " ++ padNat 3 s.flaky
    ++ " | Skip: " ++ padNat 3 s.skipped ++ " ║\n"
    ++ "║  Status: " ++ r.statusLabel e.status ++ " | Pass Rate: " ++ r.rateLabel s.passRate
    ++ " | Healed: " ++ padNat 3 s.healed ++ " | " ++ padNat 6 e.durationMs ++ "ms\n"
    ++ frame "╚" "╝" '═' 62

/-- The header of the comma-separated values of results. -/
def resultHeader : String := "execution_id,test_id,status,attempts,duration_ms,healed,error\n"

/-- A report on one execution. -/
def execution (r : Report) (e : Execution) : String :=
  match r.format with
  | .json => r.recordText (Execution.codec.write e)
  | .jsonPretty => r.recordText (Execution.codec.write e)
  | .csv => resultHeader ++ String.join (e.results.map fun x => resultRow e.id x ++ "\n")
  | .summary => brief e
  | .table => r.executionTable e

/-! ### Histories -/

/-- The columns of a table of executions. -/
def historyWidths : List Nat := [30, 14, 12, 21, 7, 10]

/-- An execution in a table of executions. -/
def historyLine (r : Report) (e : Execution) : String :=
  "│ " ++ padEnd 28 e.id ++ " │ " ++ padEnd 12 e.strategyId ++ " │ " ++ padEnd 10 e.status.name
    ++ " │ " ++ e.startedAt.listingText ++ " │ " ++ padNat 5 e.summary.total ++ " │ "
    ++ padStart 8 (r.rateLabel e.summary.passRate) ++ " │\n"

/-- An execution as a line of comma-separated values. -/
def historyRow (e : Execution) : String :=
  let s := e.summary
  Csv.joined [e.id, Csv.field e.strategyId, e.status.name, e.startedAt.offsetText, toString s.total,
    toString s.passed, toString s.failed, toString s.flaky, toString s.skipped, toString s.healed]
    ++ "\n"

/-- A report on executions. -/
def history (r : Report) (es : List Execution) : String :=
  match r.format with
  | .json => r.recordText (.list (es.map Execution.codec.write))
  | .jsonPretty => r.recordText (.list (es.map Execution.codec.write))
  | .csv =>
    "execution_id,strategy_id,status,started_at,total,passed,failed,flaky,skipped,healed\n"
      ++ String.join (es.map historyRow)
  | .summary => String.intercalate "\n" (es.map brief)
  | .table =>
    if es.isEmpty then "No executions recorded."
    else
      "\n" ++ grid "┌" "┬" "┐" historyWidths
        ++ "│ Execution                    │ Strategy     │ Status     │ Started             "
        ++ "│ Total │ Rate     │\n"
        ++ grid "├" "┼" "┤" historyWidths
        ++ String.join (es.map r.historyLine)
        ++ grid "└" "┴" "┘" historyWidths

/-! ### Statistics -/

/-- The width of a bar. -/
def barWidth : Nat := 20

/-- How much of a bar is filled for a count under a greatest count. -/
def barFill (count greatest : Nat) : Nat := count * barWidth / greatest

/-- A bar. -/
def bar (count greatest : Nat) : String :=
  let n := barFill count greatest
  String.ofList (List.replicate n '█' ++ List.replicate (barWidth - n) '░')

/-- The greatest count of ranked entries, at least one. -/
def greatestCount : List (String × Nat) → Nat
  | [] => 1
  | e :: _ => max e.2 1

/-- The lines of the tests that failed most often. -/
def failingLines (entries : List (String × Nat)) : List String :=
  entries.map fun e =>
    " " ++ padEnd 30 e.1 ++ " " ++ bar e.2 (greatestCount entries) ++ " " ++ toString e.2 ++ "\n"

/-- A text without the blanks at its front. -/
def trimmedFront (s : String) : String := String.ofList (s.toList.dropWhile isBlank)

/-- Statistics as a table, with the `top` tests that failed most often. -/
def statisticsTable (r : Report) (s : Statistics) (top : Nat) : String :=
  let failing := s.topFailing top
  "\n" ++ frame "" "" '═' 63
    ++ " Failure Statistics (last " ++ toString s.periodDays ++ " days)\n"
    ++ frame "" "" '═' 63
    ++ " Executions:       " ++ toString s.totalExecutions ++ "\n"
    ++ " Failed runs:      " ++ toString s.failedExecutions ++ "\n"
    ++ " Tests executed:   " ++ toString s.totalTests ++ "\n"
    ++ " Test failures:    " ++ toString s.totalFailures ++ " ("
    ++ trimmedFront (r.rateLabel s.failureRate) ++ ")\n"
    ++ if failing.isEmpty then ""
      else
        "\n Most failing tests:\n" ++ frame " " "" '─' 59 ++ String.join (failingLines failing)

/-- A report on statistics, with the `top` tests that failed most often where a table is asked
for. -/
def statistics (r : Report) (s : Statistics) (top : Nat) : String :=
  match r.format with
  | .json => r.recordText (Statistics.codec.write s)
  | .jsonPretty => r.recordText (Statistics.codec.write s)
  | .csv =>
    "test_id,failures\n"
      ++ String.join ((s.topFailing s.failuresByTest.size).map fun e =>
        Csv.field e.1 ++ "," ++ toString e.2 ++ "\n")
  | .summary =>
    "Last " ++ toString s.periodDays ++ " days: " ++ toString s.totalExecutions ++ " executions, "
      ++ toString s.failedExecutions ++ " failed, " ++ toString s.totalFailures
      ++ " test failures (" ++ Decimal.fixedText 1 s.failureRate ++ "%)"
  | .table => r.statisticsTable s top

/-! ### Patterns -/

/-- The columns of a table of patterns. -/
def patternWidths : List Nat := [18, 17, 11, 7, 21]

/-- A pattern in a table. -/
def patternLine (p : Pattern) : String :=
  "│ " ++ padEnd 16 p.patternId ++ " │ " ++ padEnd 15 p.kind.name ++ " │ "
    ++ padNat 9 p.frequency.toNat ++ " │ " ++ padNat 5 p.affectedTests.size ++ " │ "
    ++ p.lastSeen.listingText ++ " │\n"

/-- A pattern as a line of comma-separated values. -/
def patternRow (p : Pattern) : String :=
  Csv.joined [p.patternId, p.kind.name, toString p.frequency.toNat,
    Csv.field (String.intercalate ";" p.affectedTests.toList), p.lastSeen.offsetText] ++ "\n"

/-- A report on patterns. -/
def patterns (r : Report) (ps : List Pattern) : String :=
  match r.format with
  | .json => r.recordText (.list (ps.map Pattern.codec.write))
  | .jsonPretty => r.recordText (.list (ps.map Pattern.codec.write))
  | .csv =>
    "pattern_id,pattern_type,frequency,affected_tests,last_seen\n"
      ++ String.join (ps.map patternRow)
  | .summary =>
    let failures := ps.foldl (fun n p => n.plus p.frequency.toNat) (Counter.ofNat 0)
    toString ps.length ++ " known patterns, " ++ toString failures.toNat ++ " recorded failures"
  | .table =>
    if ps.isEmpty then "No failure patterns recorded."
    else
      "\n" ++ grid "┌" "┬" "┐" patternWidths
        ++ "│ Pattern          │ Type            │ Frequency │ Tests │ Last seen           │\n"
        ++ grid "├" "┼" "┤" patternWidths
        ++ String.join (ps.map patternLine)
        ++ grid "└" "┴" "┘" patternWidths

end Report

end Retrial
