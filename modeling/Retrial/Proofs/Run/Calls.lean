import Retrial.Proofs.Pattern.Tally
import Retrial.Proofs.Run.Alone
import Retrial.Run.World

/-!
# What a process that runs alone does to the store

The run of a process alone has a log (`logAlone`), which is one of its traces if the run comes to
its end, and leads up to the crash if it does not.  Of the requests in the log some are calls of the
pattern store, each made at its time (`Request.call?`); everything else leaves the store alone.  So
the book that a run leaves is what its calls make of the book that it found (`book_runAlone`).
-/

namespace Retrial

open PatternStore (enterAll)
open Proc (Trace)

namespace Surroundings

variable {σ α : Type} {s : Surroundings σ} {b b' : Batch σ}

/-- The requests of a process that runs alone, with the replies to them. -/
def logAlone (s : Surroundings σ) : Proc α → Batch σ → List Exchange
  | .done _, _ => []
  | .ask q next, b =>
    match s.respond 0 q b with
    | (.crash _, _) => []
    | (.reply afterMs r, b) =>
      ⟨q, r⟩ :: s.logAlone (next r) { b with world := s.moveTo (s.clock b.world + afterMs) b.world }

/-- A request that gets a reply is in the log. -/
lemma logAlone_ask_of_reply {q : Request} {next : q.Reply → Proc α} {ms : Nat} {r : q.Reply}
    (h : s.respond 0 q b = (.reply ms r, b')) :
    s.logAlone (.ask q next) b =
      ⟨q, r⟩ ::
        s.logAlone (next r) { b' with world := s.moveTo (s.clock b'.world + ms) b'.world } := by
  rw [logAlone, h]

/-- A request that is answered with a crash ends the log. -/
lemma logAlone_ask_of_crash {q : Request} {next : q.Reply → Proc α} {k : Crash}
    (h : s.respond 0 q b = (.crash k, b')) : s.logAlone (.ask q next) b = [] := by
  rw [logAlone, h]

/-- A process that runs alone goes along its log, to its end if the run comes to one. -/
lemma path_logAlone (s : Surroundings σ) (p : Proc α) (b : Batch σ) :
    ∃ p', Proc.Path p (s.logAlone p b) p' ∧ ∀ a, (s.runAlone p b).1 = .ok a → p' = .done a := by
  induction p generalizing b with
  | done a =>
    refine ⟨.done a, .here _, fun a' ha => ?_⟩
    cases ha
    rfl
  | ask q next ih =>
    cases hq : s.respond 0 q b with
    | mk answer b' =>
      cases answer with
      | crash k =>
        rw [logAlone_ask_of_crash hq, runAlone_ask_of_crash hq]
        exact ⟨_, .here _, fun a ha => by cases ha⟩
      | reply ms r =>
        rw [logAlone_ask_of_reply hq, runAlone_ask_of_reply hq]
        obtain ⟨p', hpath, hend⟩ := ih r ⟨s.moveTo (s.clock b'.world + ms) b'.world, b'.received⟩
        exact ⟨p', .step q next r hpath, hend⟩

/-- A run that comes to its end follows its log. -/
lemma trace_logAlone {p : Proc α} {a : α} (h : (s.runAlone p b).1 = .ok a) :
    Trace p (s.logAlone p b) a := by
  obtain ⟨p', hpath, hend⟩ := s.path_logAlone p b
  rwa [hend a h] at hpath

/-- The log of a sequence is that of its first part, and then that of the second. -/
lemma logAlone_bind_of_ok {β : Type} {p : Proc α} {f : α → Proc β} {a : α}
    (h : s.runAlone p b = (.ok a, b')) :
    s.logAlone (p.bind f) b = s.logAlone p b ++ s.logAlone (f a) b' := by
  induction p generalizing b with
  | done a' =>
    cases h
    rfl
  | ask q next ih =>
    rw [Proc.ask_bind]
    cases hq : s.respond 0 q b with
    | mk answer b₁ =>
      cases answer with
      | crash k => cases (runAlone_ask_of_crash hq).symm.trans h
      | reply ms r =>
        rw [runAlone_ask_of_reply hq] at h
        rw [logAlone_ask_of_reply hq, logAlone_ask_of_reply hq, ih r h, List.cons_append]

/-- The log of a batch is that of its first case, the handing in, and that of the others. -/
lemma logAlone_batch_of_ok {x : Executor} {c : Case} {cs : List Case} {r : Result}
    (h : s.runAlone (x.execute c) b = (.ok r, b')) :
    s.logAlone (x.batch (c :: cs)) b =
      s.logAlone (x.execute c) b ++ ⟨.report r, ()⟩ :: s.logAlone (x.batch cs) (s.handIn r b') := by
  change s.logAlone ((x.execute c).bind fun r => .ask (.report r) fun _ => x.batch cs) b = _
  rw [logAlone_bind_of_ok h]
  rfl

/-- What holds of each reply as long as something holds of the surroundings holds along a log, if
it goes on to hold of them. -/
lemma forall_mem_logAlone {I : σ → Prop} {P : Exchange → Prop}
    (hreply : ∀ (q : Request) (b b' : Batch σ) (ms : Nat) (r : q.Reply), I b.world →
      s.respond 0 q b = (.reply ms r, b') →
      P ⟨q, r⟩ ∧ I (s.moveTo (s.clock b'.world + ms) b'.world))
    (p : Proc α) (b : Batch σ) (hb : I b.world) : ∀ e ∈ s.logAlone p b, P e := by
  induction p generalizing b with
  | done a => exact fun e he => by cases he
  | ask q next ih =>
    cases hq : s.respond 0 q b with
    | mk answer b' =>
      cases answer with
      | crash k =>
        rw [logAlone_ask_of_crash hq]
        exact fun e he => by cases he
      | reply ms r =>
        obtain ⟨hP, hI⟩ := hreply q b b' ms r hb hq
        rw [logAlone_ask_of_reply hq, List.forall_mem_cons]
        exact ⟨hP, ih r ⟨_, b'.received⟩ hI⟩

end Surroundings

/-- The call of the store that a request comes to when it is made at a time. -/
def Request.call? (now : Time.Instant) : Request → Option PatternStore.Call
  | .detect f => some (.detect now f.message f.trace)
  | .policy id => some (.policy id)
  | .record testId f => some (.record now testId f.message f.trace none)
  | .feedback id success => some (.feedback id success)
  | _ => none

namespace World

variable {α β : Type} {others : Collaborators β}

/-- A request does to the book of the store what its call does. -/
lemma book_answer (others : Collaborators β) (w : World β) (q : Request) :
    (answer others q w).2.store.book = enterAll w.store.book (q.call? w.now.1).toList := by
  cases q with
  | invoke c limitSecs =>
    simp only [answer]
    split <;> rfl
  | teardown c =>
    simp only [answer]
    split <;> rfl
  | release c =>
    simp only [answer]
    split <;> rfl
  | heal c f =>
    simp only [answer]
    split <;> rfl
  | detect f => exact PatternStore.book_detect
  | feedback id success => exact PatternStore.book_feedback
  | _ => rfl

/-- So it does when results are received. -/
lemma book_respond (others : Collaborators β) (group : Nat) (q : Request)
    (b : Batch (World β)) :
    ((surroundings others).respond group q b).2.world.store.book =
      enterAll b.world.store.book (q.call? b.world.now.1).toList := by
  by_cases hq : ∃ r, q = .report r
  · obtain ⟨r, rfl⟩ := hq
    rfl
  · rw [Surroundings.respond_of_ne_report fun r h => hq ⟨r, h⟩]
    exact book_answer others b.world q

end World

end Retrial
