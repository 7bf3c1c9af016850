import Retrial.Run.Proc

/-!
# Surroundings

Surroundings answer the requests of processes from a state of their own, which includes a clock in
milliseconds. An answer is a reply, at once or after a while, or a crash that ends the process. A
process that runs alone is answered request by request until it is done or has crashed; the clock
moves only while it waits.
-/

namespace Retrial

open Time (Instant)

/-- What comes of a request. -/
inductive Answer (q : Request) : Type
  /-- A reply, after some milliseconds. -/
  | reply (afterMs : Nat) (r : q.Reply)
  /-- A crash that nothing contains. -/
  | crash (c : Crash)

/-- A state that answers requests. -/
structure Surroundings (σ : Type) where
  /-- Answers a request other than `report`. -/
  answer : (q : Request) → σ → Answer q × σ
  /-- Reads the time of day. -/
  readClock : σ → Instant × σ
  /-- Takes note of a result. -/
  progress : Result → σ → σ
  /-- The milliseconds on the clock. -/
  clock : σ → Nat
  /-- Moves the clock to a time. -/
  moveTo : Nat → σ → σ

/-- A state of the surroundings and the results handed in so far, each with the number of the group
it comes from, in the order they came in. -/
structure Batch (σ : Type) where
  world : σ
  received : List (Nat × Result)

namespace Surroundings

variable {σ α : Type}

/-- Answers a request of a group. A result handed in is received at once. -/
def respond (s : Surroundings σ) (group : Nat) (q : Request) (b : Batch σ) :
    Answer q × Batch σ :=
  match q with
  | .report r => (.reply 0 (), ⟨s.progress r b.world, b.received ++ [(group, r)]⟩)
  | q =>
    let (a, world) := s.answer q b.world
    (a, { b with world })

/-- Runs a process alone. -/
def runAlone (s : Surroundings σ) : Proc α → Batch σ → Except Crash α × Batch σ
  | .done a, b => (.ok a, b)
  | .ask q next, b =>
    match s.respond 0 q b with
    | (.crash c, b) => (.error c, b)
    | (.reply afterMs r, b) =>
      s.runAlone (next r) { b with world := s.moveTo (s.clock b.world + afterMs) b.world }

/-- Where a process has got to when it yields. -/
inductive Yield (α : Type) : Type
  /-- It waits for a time. -/
  | asleep (until_ : Nat) (rest : Proc α)
  | done (a : α)
  | crashed (c : Crash)

/-- Runs a process of a group until it has to wait, is done, or crashes. -/
def runUntilYield (s : Surroundings σ) (group : Nat) : Proc α → Batch σ → Yield α × Batch σ
  | .done a, b => (.done a, b)
  | .ask q next, b =>
    match s.respond group q b with
    | (.crash c, b) => (.crashed c, b)
    | (.reply afterMs r, b) =>
      if afterMs == 0 then s.runUntilYield group (next r) b
      else (.asleep (s.clock b.world + afterMs) (next r), b)

theorem below_of_runUntilYield (s : Surroundings σ) (group : Nat) {p rest : Proc α} {b : Batch σ}
    {until_ : Nat} (h : (s.runUntilYield group p b).1 = .asleep until_ rest) :
    Proc.Below rest p := by
  induction p generalizing b with
  | done a => simp [runUntilYield] at h
  | ask q next ih =>
    unfold runUntilYield at h
    split at h
    · simp at h
    · split at h
      · exact .later _ _ _ (ih _ h)
      · injection h with _ h
        exact h ▸ .next _ _ _

end Surroundings

end Retrial
