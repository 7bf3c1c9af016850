import Retrial.Proofs.Pool.Schedule

/-!
# Accounting for the cases of the pool

At any point of a run of the machine a group of cases is accounted for: what its task has handed in
are results of the first cases of the group, one each and in their order, and what the task has left
to do is the rest of the batch (`Accounted`).  Steps of any task keep this (`Invariant.step`).  The
pool receives in the order of handing in, so once nothing is on its way it has counted for each
group the cases that the group's task has handed in (`Invariant.received_eq`).
-/

namespace Retrial

open Proc (Trace Only)

/-- The results of a group among numbered ones, in their order. -/
def resultsOf (i : Nat) (l : List (Nat × Result)) : List Result :=
  (l.filter fun e => e.1 == i).map fun e => e.2

@[simp] lemma resultsOf_append (i : Nat) (l l' : List (Nat × Result)) :
    resultsOf i (l ++ l') = resultsOf i l ++ resultsOf i l' := by
  simp [resultsOf]

/-- Results of a single group are all of this group. -/
@[simp] lemma resultsOf_numbered_self (i : Nat) (rs : List Result) :
    resultsOf i (rs.map fun r => (i, r)) = rs := by
  simp [resultsOf, List.filter_map, Function.comp_def]

/-- Results of a single group are none of another group. -/
lemma resultsOf_numbered_of_ne {i j : Nat} (h : j ≠ i) (rs : List Result) :
    resultsOf i (rs.map fun r => (j, r)) = [] := by
  simp [resultsOf, List.filter_map, Function.comp_def, h]

/-- A group that no result is numbered with has no results. -/
lemma resultsOf_eq_nil {i : Nat} {l : List (Nat × Result)} (h : ∀ e ∈ l, e.1 ≠ i) :
    resultsOf i l = [] := by
  simpa [resultsOf, List.filter_eq_nil_iff] using h

/-- The pool counts the results of a group. -/
lemma Pool.reported_eq {σ : Type} (b : Batch σ) (i : Nat) :
    Pool.reported b i = (resultsOf i b.received).length := by
  simp [Pool.reported, resultsOf, List.countP_eq_length_filter]

/-! ### What is left of a batch -/

variable {σ : Type} {s : Surroundings σ} {x : Executor} {cs : List Case} {p : Proc Unit}

/-- A process is what is left of a batch of which the cases `cs` have not been handed in: nothing,
or the rest of the run of the first of them, its handing in, and the batch of the others. -/
inductive Remains (x : Executor) : List Case → Proc Unit → Prop
  | nothing : Remains x [] (.done ())
  | within {c : Case} {cs : List Case} {log : List Exchange} {p : Proc Result}
      (h : Proc.Path (x.execute c) log p) :
      Remains x (c :: cs) (p.bind fun r => .ask (.report r) fun _ => x.batch cs)

/-- At first all of a batch is left. -/
lemma remains_batch (cs : List Case) : Remains x cs (x.batch cs) := by
  cases cs with
  | nil => exact .nothing
  | cons c cs => exact .within (.here _)

/-- When nothing is left to do, every case has been handed in. -/
lemma Remains.eq_nil (h : Remains x cs (.done ())) : cs = [] := by
  generalize hp : (.done () : Proc Unit) = p at h
  cases h with
  | nothing => rfl
  | @within c cs log p h => cases p <;> cases hp

/-- What is handed in is a result of the first case that is left. -/
lemma Remains.of_report {r : Result} {next : Unit → Proc Unit}
    (h : Remains x cs (.ask (.report r) next)) :
    ∃ c rest, cs = c :: rest ∧ x.Returns c r ∧ Remains x rest (next ()) := by
  generalize hp : Proc.ask (.report r) next = p at h
  cases h with
  | nothing => cases hp
  | @within c cs log p h =>
    cases p with
    | done r' =>
      cases hp
      exact ⟨c, cs, rfl, ⟨log, h⟩, remains_batch cs⟩
    | ask q next' =>
      -- The run of a case hands nothing in itself.
      cases hp
      exact absurd ((x.only_execute c).of_path h).1 id

/-- Any other request belongs to the run of the first case that is left. -/
lemma Remains.of_ask {q : Request} {next : q.Reply → Proc Unit} (hq : ∀ r, q ≠ .report r)
    (h : Remains x cs (.ask q next)) :
    ∃ c rest log next', cs = c :: rest ∧ Proc.Path (x.execute c) log (.ask q next') ∧
      ∀ r, Remains x cs (next r) := by
  generalize hp : Proc.ask q next = p at h
  cases h with
  | nothing => cases hp
  | @within c cs log p h =>
    cases p with
    | done r => cases hp; exact absurd rfl (hq r)
    | ask q' next' =>
      cases hp
      refine ⟨c, cs, log, next', rfl, h, fun r => ?_⟩
      exact .within (h.append (.step q next' r (.here _)))

/-! ### The account of one group -/

/-- A group is accounted for when its task has become `t` and has handed in `rs`. -/
structure Accounted (s : Surroundings σ) (x : Executor) (mortal : Prop) (g : ServiceGroup)
    (t : Task) (rs : List Result) : Prop where
  /-- The results are those of the first cases. -/
  returned : List.Forall₂ x.Returns (g.cases.take rs.length) rs
  /-- A task that is not over has the others before it. -/
  going : ∀ p, t.rest = some p → Remains x (g.cases.drop rs.length) p
  /-- A task that has come to its end has handed in all of them. -/
  complete : t = .ended none → rs.length = g.cases.length
  /-- A task that has died did so of itself, or in the case that was next. -/
  dead : ∀ k, t = .ended (some k) → mortal ∨ ∃ c, g.cases[rs.length]? = some c ∧ Offends s x c k

namespace Accounted

variable {mortal : Prop} {g : ServiceGroup} {t : Task} {rs : List Result}

/-- No more results are handed in than there are cases. -/
lemma length_le (h : Accounted s x mortal g t rs) : rs.length ≤ g.cases.length := by
  have hlen := h.returned.length_eq
  rw [List.length_take] at hlen
  omega

/-- Before the first step nothing has been handed in. -/
lemma initial (g : ServiceGroup) : Accounted s x mortal g (.waiting (x.batch g.cases)) [] where
  returned := .nil
  going p hp := by
    cases hp
    exact remains_batch g.cases
  complete h := by cases h
  dead k h := by cases h

/-- A task that has nothing left to do comes to its end. -/
lemma ended (h : Accounted s x mortal g t rs) (hp : t.rest = some (.done ())) :
    Accounted s x mortal g (.ended none) rs where
  returned := h.returned
  going p hp' := by cases hp'
  complete _ := by
    have hnil := (h.going _ hp).eq_nil
    rw [List.drop_eq_nil_iff] at hnil
    exact le_antisymm h.length_le hnil
  dead k hk := by cases hk

/-- A task hands in the result of the case that was next. -/
lemma sent (h : Accounted s x mortal g t rs) {r : Result} {next : Unit → Proc Unit} (time : Nat)
    (hp : t.rest = some (.ask (.report r) next)) :
    Accounted s x mortal g (.asleep time (next ())) (rs ++ [r]) := by
  obtain ⟨c, rest, hdrop, hr, hrest⟩ := (h.going _ hp).of_report
  have hc : g.cases[rs.length]? = some c := by
    rw [← List.head?_drop, hdrop, List.head?_cons]
  constructor
  · rw [List.length_append, List.length_singleton, List.take_add_one, hc]
    exact List.rel_append h.returned (.cons hr .nil)
  · intro p hp'
    cases hp'
    rw [List.length_append, List.length_singleton, ← List.tail_drop, hdrop]
    exact hrest
  · intro h'
    cases h'
  · intro k h'
    cases h'

/-- A task that got a reply has the same cases before it. -/
lemma replied (h : Accounted s x mortal g t rs) {q : Request} {next : q.Reply → Proc Unit}
    (hq : ∀ r, q ≠ .report r) (time : Nat) (r : q.Reply) (hp : t.rest = some (.ask q next)) :
    Accounted s x mortal g (.asleep time (next r)) rs where
  returned := h.returned
  going p hp' := by
    cases hp'
    obtain ⟨-, -, -, -, -, -, hnext⟩ := (h.going _ hp).of_ask hq
    exact hnext r
  complete h' := by cases h'
  dead k h' := by cases h'

/-- A task that is crashed by its surroundings dies in the case that was next. -/
lemma crashed (h : Accounted s x mortal g t rs) {q : Request} {next : q.Reply → Proc Unit}
    (hq : ∀ r, q ≠ .report r) {k : Crash} {w : σ} (ha : (s.answer q w).1 = .crash k)
    (hp : t.rest = some (.ask q next)) : Accounted s x mortal g (.ended (some k)) rs where
  returned := h.returned
  going p hp' := by cases hp'
  complete h' := by cases h'
  dead k' h' := by
    cases h'
    obtain ⟨c, rest, log, next', hdrop, hpath, -⟩ := (h.going _ hp).of_ask hq
    refine .inr ⟨c, ?_, log, q, next', w, hpath, ha⟩
    rw [← List.head?_drop, hdrop, List.head?_cons]

/-- A mortal task may die at any point. -/
lemma died (h : Accounted s x mortal g t rs) (hm : mortal) (k : Crash) :
    Accounted s x mortal g (.ended (some k)) rs where
  returned := h.returned
  going p hp' := by cases hp'
  complete h' := by cases h'
  dead _ _ := .inl hm

end Accounted

namespace Pool

variable {mortal : Prop} {groups : List ServiceGroup} {st st' : State σ} {bound : Nat}

/-! ### The account of all groups -/

/-- The invariant of the machine: there is a task for each group, the pool has received a first part
of what was handed in, and every group is accounted for. -/
structure Invariant (s : Surroundings σ) (x : Executor) (mortal : Prop) (groups : List ServiceGroup)
    (st : State σ) : Prop where
  length_tasks : st.tasks.length = groups.length
  received : st.batch.received <+: st.sent
  numbered : ∀ e ∈ st.sent, e.1 < groups.length
  accounted : ∀ i g t, groups[i]? = some g → st.tasks[i]? = some t →
    Accounted s x mortal g t (resultsOf i st.sent)

namespace Invariant

/-- It holds before the first step. -/
lemma initial (w : σ) : Invariant s x mortal groups (start x groups w) where
  length_tasks := List.length_map _
  received := List.prefix_rfl
  numbered e he := by cases he
  accounted i g t hg ht := by
    simp only [start, List.getElem?_map, hg, Option.map_some, Option.some.injEq] at ht
    subst ht
    exact .initial g

/-- A step of one task keeps it if the account of its own group is kept. -/
lemma update (h : Invariant s x mortal groups st) {i : Nat} {t t' : Task}
    (ht : st.tasks[i]? = some t) (rs : List Result) {b : Batch σ}
    (hb : b.received = st.batch.received)
    (hacc : ∀ g, Accounted s x mortal g t (resultsOf i st.sent) →
      Accounted s x mortal g t' (resultsOf i st.sent ++ rs)) :
    Invariant s x mortal groups
      ⟨st.tasks.set i t', st.sent ++ rs.map (fun r => (i, r)), b⟩ := by
  have hlt : i < st.tasks.length := (List.getElem?_eq_some_iff.mp ht).1
  constructor
  · rw [List.length_set]
    exact h.length_tasks
  · exact hb ▸ h.received.trans (List.prefix_append _ _)
  · intro e he
    rcases List.mem_append.mp he with he | he
    · exact h.numbered e he
    · obtain ⟨r, -, rfl⟩ := List.mem_map.mp he
      exact h.length_tasks ▸ hlt
  · intro j g u hg hu
    rw [resultsOf_append]
    by_cases hij : i = j
    · subst hij
      rw [List.getElem?_set_self hlt, Option.some.injEq] at hu
      subst hu
      rw [resultsOf_numbered_self]
      exact hacc g (h.accounted i g t hg ht)
    · rw [List.getElem?_set_ne hij] at hu
      rw [resultsOf_numbered_of_ne hij, List.append_nil]
      exact h.accounted j g u hg hu

/-- So does a step that hands nothing in. -/
lemma put (h : Invariant s x mortal groups st) {i : Nat} {t t' : Task} (ht : st.tasks[i]? = some t)
    {b : Batch σ} (hb : b.received = st.batch.received)
    (hacc : ∀ g, Accounted s x mortal g t (resultsOf i st.sent) →
      Accounted s x mortal g t' (resultsOf i st.sent)) :
    Invariant s x mortal groups ⟨st.tasks.set i t', st.sent, b⟩ := by
  have hacc' : ∀ g, Accounted s x mortal g t (resultsOf i st.sent) →
      Accounted s x mortal g t' (resultsOf i st.sent ++ []) := fun g ha => by
    rw [List.append_nil]
    exact hacc g ha
  have h' := h.update ht [] hb hacc'
  rwa [List.map_nil, List.append_nil] at h'

/-- Nothing changes when the clock moves. -/
lemma atTime (h : Invariant s x mortal groups st) (time : Option Nat) :
    Invariant s x mortal groups (st.atTime s time) where
  length_tasks := h.length_tasks
  received := by simpa [State.atTime] using h.received
  numbered := h.numbered
  accounted := h.accounted

/-- A task that goes on keeps it. -/
lemma advance (h : Invariant s x mortal groups st) {i : Nat} {t : Task} {p : Proc Unit}
    (ht : st.tasks[i]? = some t) (hp : t.rest = some p) :
    Invariant s x mortal groups (advance s i p st) := by
  have hadv := advanced_advance s i p st
  generalize Pool.advance s i p st = st' at hadv ⊢
  cases hadv with
  | ended => exact h.put ht rfl fun g ha => ha.ended hp
  | sent r next => exact h.update ht [r] rfl fun g ha => ha.sent _ hp
  | replied next hq hans => exact h.put ht rfl fun g ha => ha.replied hq _ _ hp
  | crashed next hq hans =>
    exact h.put ht rfl fun g ha => ha.crashed hq (congrArg Prod.fst hans) hp

/-- Every step keeps it. -/
lemma step (h : Invariant s x mortal groups st) (hs : Step s bound mortal st st') :
    Invariant s x mortal groups st' := by
  cases hs with
  | work time ht hp room => exact (h.atTime time).advance ht hp
  | die hm k ht hp => exact h.put ht rfl fun g ha => ha.died hm k
  | @receive e rest hflight =>
    refine ⟨h.length_tasks, ?_, h.numbered, h.accounted⟩
    -- What was received is followed in `sent` by what is on its way.
    obtain ⟨later, hsent⟩ := h.received
    rw [State.inFlight, ← hsent, List.drop_left] at hflight
    rw [← hsent, hflight]
    exact ⟨rest, by simp [receive]⟩

/-- It holds in every state of a run. -/
lemma reaches {w : σ} (h : Reaches s bound mortal (start x groups w) st) :
    Invariant s x mortal groups st := by
  induction h with
  | refl => exact initial w
  | tail _ hs ih => exact ih.step hs

/-- In a finished state everything handed in has been received. -/
lemma received_eq (h : Invariant s x mortal groups st) (hf : st.Finished) :
    st.batch.received = st.sent := by
  obtain ⟨later, hsent⟩ := h.received
  have hnil := hf.2
  rw [State.inFlight, ← hsent, List.drop_left] at hnil
  rw [← hsent, hnil, List.append_nil]

end Invariant

end Pool

end Retrial
