import Retrial.Pattern.Store
import Retrial.Run.Surroundings

/-!
# The world that cases run in

The world holds the pattern store, the disk and the clocks, and answers what concerns them: times,
pauses and the store's requests, each in one step. Modules, contexts and fixes come from
collaborators with a state of their own. A module that takes longer than the limit is cut off
exactly at the limit; one that ends just then still counts.
-/

namespace Retrial

open Time (Instant)

/-- What comes of running a module. -/
inductive Invocation
  /-- It crashes at once, outside what a run contains. -/
  | crashes (c : Crash)
  /-- It ends after some milliseconds. -/
  | ends (afterMs : Nat) (how : RunEnd)

/-- What comes of tearing a context down. -/
inductive Closing
  /-- It crashes at once, outside what a teardown contains. -/
  | crashes (c : Crash)
  /-- It ends after some milliseconds. -/
  | ends (afterMs : Nat) (how : TeardownEnd)

/-- What comes of asking for a fix. -/
inductive Healing
  /-- The healer crashes at once, outside what asking contains. -/
  | crashes (c : Crash)
  /-- It answers after some milliseconds. -/
  | answers (afterMs : Nat) (fix : Except Crash (Option String))

/-- What runs modules, builds contexts and proposes fixes. The first argument of most is the time
on the clock in milliseconds. -/
structure Collaborators (β : Type) where
  load : Case → β → Except LoadFault Unit × β
  build : Nat → Case → β → Except Crash Unit × β
  invoke : Nat → Case → β → Invocation × β
  teardown : Nat → Case → β → Closing × β
  /-- Lets go of a context, which may crash outside of everything that contains crashes. -/
  release : Nat → Case → β → Option Crash × β
  heal : Nat → Case → Failure → β → Healing × β
  progress : Nat → Result → β → β

/-- The store, the disk, the clocks, and the collaborators' state. -/
structure World (β : Type) where
  store : PatternStore
  disk : Disk
  /-- The milliseconds on the clock. -/
  clock : Nat
  /-- The time of day when the clock stood at zero. -/
  dawn : Instant
  /-- The nanoseconds of the day that pass in a millisecond on the clock: a million, or none where
  the clock is not the day's. -/
  pace : Nat
  /-- How often the time of day has been read; each reading is a little later than the last. -/
  readings : Nat
  others : β

namespace World

variable {β : Type}

/-- Reads the time of day. -/
def now (w : World β) : Instant × World β :=
  (w.dawn.plusNanos (w.clock * w.pace + w.readings), { w with readings := w.readings + 1 })

/-- The end of a module's run under a limit. -/
def limited (limitSecs : Option Nat) (afterMs : Nat) (how : RunEnd) : Nat × RunEnd :=
  match limitSecs with
  | none => (afterMs, how)
  | some secs => if afterMs ≤ secs * 1000 then (afterMs, how) else (secs * 1000, .timedOut)

/-- Looks a failure up in the store. -/
def detect (message trace : String) (w : World β) : Option Pattern × World β :=
  let (now, w) := w.now
  let (p, store, disk) := w.store.detect now message trace w.disk
  (p, { w with store, disk })

/-- Enters a failure that ended a case. -/
def record (testId message trace : String) (fix : Option String) (w : World β) :
    Pattern × World β :=
  let (now, w) := w.now
  let (p, store, disk) := w.store.record now testId message trace fix w.disk
  (p, { w with store, disk })

/-- Enters the outcome of a retry. -/
def feedback (id : String) (success : Bool) (w : World β) : World β :=
  let (store, disk) := w.store.feedback id success w.disk
  { w with store, disk }

/-- Answers a request. -/
def answer (c : Collaborators β) (q : Request) (w : World β) : Answer q × World β :=
  match q with
  | .now =>
    let (t, w) := w.now
    (.reply 0 t, w)
  | .load case =>
    let (r, others) := c.load case w.others
    (.reply 0 r, { w with others })
  | .build case =>
    let (r, others) := c.build w.clock case w.others
    (.reply 0 r, { w with others })
  | .invoke case limitSecs =>
    match c.invoke w.clock case w.others with
    | (.crashes crash, others) => (.crash crash, { w with others })
    | (.ends afterMs how, others) =>
      let (afterMs, how) := limited limitSecs afterMs how
      (.reply afterMs how, { w with others })
  | .teardown case =>
    match c.teardown w.clock case w.others with
    | (.crashes crash, others) => (.crash crash, { w with others })
    | (.ends afterMs how, others) => (.reply afterMs how, { w with others })
  | .release case =>
    match c.release w.clock case w.others with
    | (some crash, others) => (.crash crash, { w with others })
    | (none, others) => (.reply 0 (), { w with others })
  | .heal case failure =>
    match c.heal w.clock case failure w.others with
    | (.crashes crash, others) => (.crash crash, { w with others })
    | (.answers afterMs fix, others) => (.reply afterMs fix, { w with others })
  | .pause ms => (.reply ms (), w)
  | .detect f =>
    let (p, w) := w.detect f.message f.trace
    (.reply 0 p, w)
  | .policy id => (.reply 0 (w.store.book.policy id), w)
  | .record testId f =>
    let (p, w) := w.record testId f.message f.trace none
    (.reply 0 p, w)
  | .feedback id success => (.reply 0 (), w.feedback id success)
  | .report _ => (.reply 0 (), w)

/-- The surroundings that a world and its collaborators make. -/
def surroundings (c : Collaborators β) : Surroundings (World β) where
  answer q w := answer c q w
  readClock := now
  progress r w := { w with others := c.progress w.clock r w.others }
  clock := clock
  moveTo t w := { w with clock := t }

end World

end Retrial
