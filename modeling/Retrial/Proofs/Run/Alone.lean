import Retrial.Proofs.Run.Scope
import Retrial.Run.Surroundings

/-!
# Running alone

A process that runs alone follows one of its traces, or comes to a request that its surroundings
answer with a crash.  A batch that runs alone is the runs of its cases one after another, and stops
for good where one of them crashes (`runAlone_batch_error_iff`).
-/

namespace Retrial

open Proc (Trace Only)

/-- Some run of a case makes a request whose answer may be the crash `k`. -/
def Offends {σ : Type} (s : Surroundings σ) (x : Executor) (c : Case) (k : Crash) : Prop :=
  ∃ log q next w, Proc.Path (x.execute c) log (.ask q next) ∧ (s.answer q w).1 = .crash k

namespace Surroundings

variable {σ α β : Type} {s : Surroundings σ} {b b' : Batch σ} {k : Crash}

/-- The surroundings answer all requests but the handing in of results. -/
lemma respond_of_ne_report {i : Nat} {q : Request} (hq : ∀ r, q ≠ .report r) :
    s.respond i q b =
      ((s.answer q b.world).1, { b with world := (s.answer q b.world).2 }) := by
  cases q <;> first | rfl | exact absurd rfl (hq _)

/-- A request that gets a reply. -/
lemma runAlone_ask_of_reply {q : Request} {next : q.Reply → Proc α} {ms : Nat} {r : q.Reply}
    (h : s.respond 0 q b = (.reply ms r, b')) :
    s.runAlone (.ask q next) b =
      s.runAlone (next r) { b' with world := s.moveTo (s.clock b'.world + ms) b'.world } := by
  rw [runAlone, h]

/-- A request that is answered with a crash. -/
lemma runAlone_ask_of_crash {q : Request} {next : q.Reply → Proc α}
    (h : s.respond 0 q b = (.crash k, b')) : s.runAlone (.ask q next) b = (.error k, b') := by
  rw [runAlone, h]

/-- A sequence runs its first part, and then the second if the first has not crashed. -/
lemma runAlone_bind (p : Proc α) (f : α → Proc β) (b : Batch σ) :
    s.runAlone (p.bind f) b =
      match s.runAlone p b with
      | (.error k, b') => (.error k, b')
      | (.ok a, b') => s.runAlone (f a) b' := by
  induction p generalizing b with
  | done a => rfl
  | ask q next ih =>
    rw [Proc.ask_bind]
    cases hr : s.respond 0 q b with
    | mk a b' =>
      cases a with
      | crash k => rw [runAlone_ask_of_crash hr, runAlone_ask_of_crash hr]
      | reply ms r => rw [runAlone_ask_of_reply hr, runAlone_ask_of_reply hr, ih]

/-- A process that hands nothing in leaves the results received, and it either follows a trace to
its end or comes to a request that is answered with a crash. -/
lemma runAlone_cases {c : Case} {p : Proc α} (hp : Only (Request.Concerns c) p) (b : Batch σ) :
    (s.runAlone p b).2.received = b.received ∧
      ((∃ log a, (s.runAlone p b).1 = .ok a ∧ Trace p log a) ∨
        ∃ log q next w k, (s.runAlone p b).1 = .error k ∧ Proc.Path p log (.ask q next) ∧
          (s.answer q w).1 = .crash k) := by
  induction p generalizing b with
  | done a => exact ⟨rfl, .inl ⟨[], a, rfl, .here _⟩⟩
  | ask q next ih =>
    have hq : ∀ r, q ≠ .report r := by
      rintro r rfl
      exact hp.1
    have hrespond := respond_of_ne_report (s := s) (b := b) (i := 0) hq
    cases ha : (s.answer q b.world).1 with
    | crash k =>
      rw [ha] at hrespond
      rw [runAlone_ask_of_crash hrespond]
      exact ⟨rfl, .inr ⟨[], q, next, b.world, k, rfl, .here _, ha⟩⟩
    | reply ms r =>
      rw [ha] at hrespond
      rw [runAlone_ask_of_reply hrespond]
      obtain ⟨hreceived, hend⟩ := ih r (hp.2 r) _
      refine ⟨hreceived, ?_⟩
      rcases hend with ⟨log, a, hok, htrace⟩ | ⟨log, q', next', w, k, herror, hpath, hcrash⟩
      · exact .inl ⟨_, a, hok, .step q next r htrace⟩
      · exact .inr ⟨_, q', next', w, k, herror, .step q next r hpath, hcrash⟩

variable {x : Executor} {c : Case} {cs : List Case}

/-- The batch after a result was handed in. -/
def handIn (s : Surroundings σ) (r : Result) (b : Batch σ) : Batch σ :=
  ⟨s.moveTo (s.clock (s.progress r b.world) + 0) (s.progress r b.world), b.received ++ [(0, r)]⟩

/-- A batch goes on after a case that has ended. -/
lemma runAlone_batch_of_ok {r : Result} (h : s.runAlone (x.execute c) b = (.ok r, b')) :
    s.runAlone (x.batch (c :: cs)) b = s.runAlone (x.batch cs) (s.handIn r b') := by
  change s.runAlone ((x.execute c).bind fun r => .ask (.report r) fun _ => x.batch cs) b = _
  rw [runAlone_bind, h]
  rfl

/-- A batch ends with a case that crashes. -/
lemma runAlone_batch_of_error (h : s.runAlone (x.execute c) b = (.error k, b')) :
    s.runAlone (x.batch (c :: cs)) b = (.error k, b') := by
  change s.runAlone ((x.execute c).bind fun r => .ask (.report r) fun _ => x.batch cs) b = _
  rw [runAlone_bind, h]

/-- The run of a batch comes to a case whose run crashes; those before it have ended. -/
inductive Escapes (s : Surroundings σ) (x : Executor) : List Case → Batch σ → Crash → Prop
  | now {c : Case} {cs : List Case} {b b' : Batch σ} {k : Crash}
      (h : s.runAlone (x.execute c) b = (.error k, b')) : Escapes s x (c :: cs) b k
  | later {c : Case} {cs : List Case} {b b' : Batch σ} {r : Result} {k : Crash}
      (h : s.runAlone (x.execute c) b = (.ok r, b')) (hl : Escapes s x cs (s.handIn r b') k) :
      Escapes s x (c :: cs) b k

/-- A batch that runs alone crashes exactly where one of its cases does. -/
theorem runAlone_batch_error_iff :
    (s.runAlone (x.batch cs) b).1 = .error k ↔ Escapes s x cs b k := by
  constructor
  · intro h
    induction cs generalizing b with
    | nil => cases h
    | cons c cs ih =>
      cases hc : s.runAlone (x.execute c) b with
      | mk o b' =>
        cases o with
        | error k' =>
          rw [runAlone_batch_of_error hc] at h
          cases h
          exact .now hc
        | ok r =>
          rw [runAlone_batch_of_ok hc] at h
          exact .later hc (ih h)
  · intro h
    induction h with
    | now hc => rw [runAlone_batch_of_error hc]
    | later hc _ ih => rwa [runAlone_batch_of_ok hc]

/-- A batch that does not crash receives one result of a run of each case, in the order of the
cases. -/
theorem runAlone_batch_ok (h : ∀ k, ¬Escapes s x cs b k) :
    (s.runAlone (x.batch cs) b).1 = .ok () ∧
      ∃ rs, (s.runAlone (x.batch cs) b).2.received = b.received ++ rs.map (fun r => (0, r)) ∧
        List.Forall₂ x.Returns cs rs := by
  induction cs generalizing b with
  | nil => exact ⟨rfl, [], (List.append_nil _).symm, .nil⟩
  | cons c cs ih =>
    obtain ⟨hreceived, hend⟩ := runAlone_cases (s := s) (x.only_execute c) b
    cases hc : s.runAlone (x.execute c) b with
    | mk o b' =>
      rw [hc] at hreceived hend
      cases o with
      | error k => exact absurd (.now hc) (h k)
      | ok r =>
        rcases hend with ⟨log, a, hok, htrace⟩ | ⟨log, q, next, w, k, herror, -⟩
        · cases hok
          rw [runAlone_batch_of_ok hc]
          obtain ⟨hdone, rs, hrs, hreturns⟩ := ih fun k hk => h k (.later hc hk)
          refine ⟨hdone, r :: rs, ?_, .cons ⟨log, htrace⟩ hreturns⟩
          rw [hrs, handIn, show b'.received = b.received from hreceived, List.append_assoc]
          rfl
        · cases herror

end Surroundings

end Retrial
