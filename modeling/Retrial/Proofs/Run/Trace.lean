import Mathlib
import Retrial.Run.Proc

/-!
# Traces of processes

A process is a tree of requests.  A *path* through it follows one reply at each request, and the
*log* of a path lists the requests with these replies; a path that ends where the process is done is
a *trace*.  Nothing restricts the replies: whatever the surroundings do, and whatever others do to
what they share, the run of a process is one of its traces.

`Trace` is taken apart along the way processes are built: `trace_done_iff`, `trace_ask_iff` and
`trace_bind_iff`.  `answered` lets an arbitrary way of answering, which may look at all that was
asked before, run a process to its end; so every way of answering gives exactly one trace.
-/

namespace Retrial

/-- A request with the reply it got. -/
structure Exchange where
  /-- What was asked. -/
  request : Request
  /-- What came back. -/
  reply : request.Reply

/-- To every request there is some reply. -/
lemma Request.nonempty_reply (q : Request) : Nonempty q.Reply := by
  cases q with
  | now => exact ⟨(default : Time.Instant)⟩
  | load c => exact ⟨(.ok () : Except LoadFault Unit)⟩
  | build c => exact ⟨(.ok () : Except Crash Unit)⟩
  | invoke c limitSecs => exact ⟨RunEnd.passed⟩
  | teardown c => exact ⟨TeardownEnd.done⟩
  | heal c f => exact ⟨(.ok none : Except Crash (Option String))⟩
  | detect f => exact ⟨(none : Option Pattern)⟩
  | policy id => exact ⟨RetryPolicy.fallback id⟩
  | record testId f => exact ⟨(default : Pattern)⟩
  | _ => exact ⟨()⟩

namespace Proc

variable {α β : Type}

/-- `Path p log p'`: after the exchanges of `log` the process `p` has become `p'`. -/
inductive Path : Proc α → List Exchange → Proc α → Prop
  | here (p : Proc α) : Path p [] p
  | step (q : Request) (next : q.Reply → Proc α) (r : q.Reply) {log : List Exchange} {p : Proc α}
      (h : Path (next r) log p) : Path (.ask q next) (⟨q, r⟩ :: log) p

/-- `Trace p log a`: after the exchanges of `log` the process `p` is done with `a`. -/
def Trace (p : Proc α) (log : List Exchange) (a : α) : Prop := Path p log (.done a)

@[simp] lemma ask_bind (q : Request) (next : q.Reply → Proc α) (f : α → Proc β) :
    (Proc.ask q next).bind f = .ask q fun r => (next r).bind f := rfl

/-- Paths compose. -/
lemma Path.append {p p' p'' : Proc α} {log log' : List Exchange} (h : Path p log p')
    (h' : Path p' log' p'') : Path p (log ++ log') p'' := by
  induction h with
  | here p => exact h'
  | step q next r _ ih => exact .step q next r (ih h')

/-- A path through the first part of a sequence is a path through the sequence. -/
lemma Path.bind {p p' : Proc α} {log : List Exchange} (h : Path p log p') (f : α → Proc β) :
    Path (p.bind f) log (p'.bind f) := by
  induction h with
  | here p => exact .here _
  | step q next r _ ih => exact .step q _ r ih

/-- A process that is done has the empty trace only. -/
@[simp] lemma trace_done_iff {a b : α} {log : List Exchange} :
    Trace (.done a) log b ↔ log = [] ∧ b = a := by
  constructor
  · intro h
    cases h
    exact ⟨rfl, rfl⟩
  · rintro ⟨rfl, rfl⟩
    exact .here _

/-- A trace of a request starts with a reply to it. -/
@[simp] lemma trace_ask_iff {q : Request} {next : q.Reply → Proc α} {log : List Exchange} {a : α} :
    Trace (.ask q next) log a ↔ ∃ r rest, log = ⟨q, r⟩ :: rest ∧ Trace (next r) rest a := by
  constructor
  · intro h
    cases h with
    | step _ _ r h => exact ⟨r, _, rfl, h⟩
  · rintro ⟨r, rest, rfl, h⟩
    exact .step q next r h

/-- A trace of a sequence is a trace of its first part and then one of the second. -/
lemma trace_bind_iff {p : Proc α} {f : α → Proc β} {log : List Exchange} {b : β} :
    Trace (p.bind f) log b ↔
      ∃ log₁ a log₂, log = log₁ ++ log₂ ∧ Trace p log₁ a ∧ Trace (f a) log₂ b := by
  constructor
  · intro h
    induction p generalizing log with
    | done a => exact ⟨[], a, log, rfl, .here _, h⟩
    | ask q next ih =>
      rw [ask_bind, trace_ask_iff] at h
      obtain ⟨r, rest, rfl, h⟩ := h
      obtain ⟨log₁, a, log₂, rfl, h₁, h₂⟩ := ih r h
      exact ⟨⟨q, r⟩ :: log₁, a, log₂, rfl, .step q next r h₁, h₂⟩
  · rintro ⟨log₁, a, log₂, rfl, h₁, h₂⟩
    exact (Path.bind h₁ f).append h₂

/-- A path through a sequence is a path through its first part, or it goes through the whole first
part and on through the second. -/
lemma path_bind_cases {p : Proc α} {f : α → Proc β} {log : List Exchange} {p' : Proc β}
    (h : Path (p.bind f) log p') :
    (∃ p₁, Path p log p₁ ∧ p' = p₁.bind f) ∨
      ∃ log₁ a log₂, log = log₁ ++ log₂ ∧ Trace p log₁ a ∧ Path (f a) log₂ p' := by
  induction p generalizing log with
  | done a => exact Or.inr ⟨[], a, log, rfl, .here _, h⟩
  | ask q next ih =>
    rw [ask_bind] at h
    cases h with
    | here _ => exact Or.inl ⟨.ask q next, .here _, rfl⟩
    | step _ _ r h =>
      rcases ih r h with ⟨p₁, hp₁, rfl⟩ | ⟨log₁, a, log₂, rfl, htrace, hpath⟩
      · exact Or.inl ⟨p₁, .step q next r hp₁, rfl⟩
      · exact Or.inr ⟨⟨q, r⟩ :: log₁, a, log₂, rfl, .step q next r htrace, hpath⟩

/-! ### Answering a process to its end -/

/-- A way of answering requests: the reply may depend on everything that was asked before. -/
def Answers : Type := List Exchange → (q : Request) → q.Reply

/-- The log of a process and what it ends with, when its requests are answered in some way after the
exchanges of `past`. -/
def answered (o : Answers) : Proc α → List Exchange → List Exchange × α
  | .done a, _ => ([], a)
  | .ask q next, past =>
    let e : Exchange := ⟨q, o past q⟩
    let rest := answered o (next e.reply) (past ++ [e])
    (e :: rest.1, rest.2)

/-- Every way of answering runs a process to its end, along one of its traces. -/
lemma trace_answered (o : Answers) (p : Proc α) (past : List Exchange) :
    Trace p (p.answered o past).1 (p.answered o past).2 := by
  induction p generalizing past with
  | done a => exact .here _
  | ask q next ih => exact .step q next _ (ih _ _)

/-- Every process has a trace, so what is cut off could have come to its end. -/
lemma exists_trace (p : Proc α) : ∃ log a, Trace p log a :=
  ⟨_, _, trace_answered (fun _ q => q.nonempty_reply.some) p []⟩

/-! ### Requests of one kind -/

/-- Whatever the replies, a process makes only requests of some kind. -/
def Only (good : Request → Prop) : Proc α → Prop
  | .done _ => True
  | .ask q next => good q ∧ ∀ r, Only good (next r)

variable {good : Request → Prop}

@[simp] lemma only_done (a : α) : Only good (.done a : Proc α) := trivial

@[simp] lemma only_ask_iff {q : Request} {next : q.Reply → Proc α} :
    Only good (.ask q next) ↔ good q ∧ ∀ r, Only good (next r) := Iff.rfl

/-- A sequence makes only requests of a kind if both its parts do. -/
lemma Only.bind {p : Proc α} {f : α → Proc β} (hp : Only good p) (hf : ∀ a, Only good (f a)) :
    Only good (p.bind f) := by
  induction p with
  | done a => exact hf a
  | ask q next ih => exact ⟨hp.1, fun r => ih r (hp.2 r)⟩

/-- What a process has become makes only requests that the process makes. -/
lemma Only.of_path {p p' : Proc α} {log : List Exchange} (hp : Only good p) (h : Path p log p') :
    Only good p' := by
  induction h with
  | here p => exact hp
  | step q next r _ ih => exact ih (hp.2 r)

end Proc

end Retrial
