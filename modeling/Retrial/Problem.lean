import Retrial.Disk.Basic
import Retrial.Failure.Basic
import Retrial.Json.Reader

/-!
# Problems

An operation that fails says why as a chain: what it was doing, outermost first, and at the end the
cause. A cause is a text of the program, or a fault of the disk or of a document.
-/

namespace Retrial

/-- One link of a chain. -/
inductive Link
  | text (s : String)
  | disk (fault : DiskFault)
  | json (fault : Json.Fault)
  /-- A document in block style that could not be read. -/
  | yaml
deriving DecidableEq, Repr

/-- The words for a link. -/
def Link.message : Link → String
  | text s => s
  | disk fault => fault.message
  | json fault => fault.message
  | yaml => "not a block document of the kind that is wanted"

/-- Why an operation failed, outermost link first. -/
abbrev Problem : Type := List Link

/-- What an operation gives, or why it failed. -/
abbrev Outcome (α : Type) : Type := Except Problem α

namespace Problem

/-- All links of a chain on one line. -/
def message (p : Problem) : String := String.intercalate ": " (p.map Link.message)

/-- The outermost link, with the others below it as its causes. -/
def report (p : Problem) : String :=
  match p.map Link.message with
  | [] => ""
  | outermost :: causes => Failure.chainTrace outermost causes

/-- A problem put into the words of what was being done. -/
def during {α : Type} (what : String) : Outcome α → Outcome α
  | .ok a => .ok a
  | .error chain => .error (.text what :: chain)

/-- A fault of the disk as a problem. -/
def ofDisk {α : Type} : Except DiskFault α → Outcome α
  | .ok a => .ok a
  | .error e => .error [.disk e]

/-- A fault of a document as a problem. -/
def ofJson {α : Type} : Except Json.Fault α → Outcome α
  | .ok a => .ok a
  | .error e => .error [.json e]

end Problem

/-- What went wrong with a module, a worker or a setting. -/
inductive EngineFault
  | moduleNotFound (moduleRef : String)
  | missingEntryPoint (moduleRef : String)
  /-- Something could not be kept under a path, for a reason. -/
  | persistence (path reason : String)
  | serialization (reason : String)
  | worker (reason : String)
  | configuration (reason : String)
deriving DecidableEq, Repr

namespace EngineFault

/-- The words for a fault. -/
def message : EngineFault → String
  | moduleNotFound m => "Test module not found: " ++ m
  | missingEntryPoint m => "Test module " ++ m ++ " does not expose a run entry point"
  | persistence path reason => "Failed to persist " ++ path ++ ": " ++ reason
  | serialization reason => "Serialization error: " ++ reason
  | worker reason => "Worker task failed: " ++ reason
  | configuration reason => "Invalid configuration: " ++ reason

/-- Whether the fault lies in how the engine was set up. -/
def isConfiguration : EngineFault → Bool
  | moduleNotFound _ => true
  | missingEntryPoint _ => true
  | configuration _ => true
  | _ => false

end EngineFault

end Retrial
