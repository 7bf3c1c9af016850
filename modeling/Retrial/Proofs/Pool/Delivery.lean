import Retrial.Proofs.Pool.Account
import Retrial.Proofs.Pool.Grouping

/-!
# What the pool delivers

In a finished state of the machine the pool has received all that was handed in, so the results it
has counted for a group are the cases that the group's task has handed in.  If the task has died,
the cases after these are the ones that the pool reports as lost, in their order.  Both kinds of
results together are one result for each case (`runGroups_delivers`).  A pool that is asked for more
workers than there can be permits delivers nothing at all.

`noting` keeps a list of the results that the surroundings were told of, so that the order in which
they were told can be compared with the results returned.
-/

namespace Retrial

variable {σ : Type} {s : Surroundings σ} {x : Executor}

/-- The surroundings that also keep a list of the results they take note of. -/
def Surroundings.noting (s : Surroundings σ) : Surroundings (σ × List Result) where
  answer q w := ((s.answer q w.1).1, (s.answer q w.1).2, w.2)
  readClock w := ((s.readClock w.1).1, (s.readClock w.1).2, w.2)
  progress r w := (s.progress r w.1, w.2 ++ [r])
  clock w := s.clock w.1
  moveTo time w := (s.moveTo time w.1, w.2)

/-! ### Lost cases -/

namespace Pool

/-- The result `r` stands for the case `c`, which the task `t` of the group numbered `i` has left
out: the task is dead, and the result says so. -/
def Lost (label : Nat → String) (i : Nat) (t : Task) (c : Case) (r : Result) : Prop :=
  ∃ k start finish, t = .ended (some k) ∧
    r = lostResult start finish c (workerFault (label i) k)

/-- A lost case has failed at its first attempt. -/
lemma Lost.failed {label : Nat → String} {i : Nat} {t : Task} {c : Case} {r : Result}
    (h : Lost label i t c r) : r.testId = c.id ∧ r.status = .failed ∧ r.attempts = 1 := by
  obtain ⟨k, start, finish, -, rfl⟩ := h
  exact ⟨rfl, rfl, rfl⟩

/-- The cases that a task leaves out after having handed in `n`: none unless it is dead. -/
def leftOut (g : ServiceGroup) (n : Nat) : Task → List Case
  | .ended (some _) => g.cases.drop n
  | _ => []

/-- Reporting lost cases adds a result for each. -/
lemma exists_lost_reportLost (s : Surroundings σ) (i : Nat) (fault : EngineFault) (cs : List Case)
    (b : Batch σ) :
    ∃ rs, (reportLost s i fault cs b).received = b.received ++ rs.map (fun r => (i, r)) ∧
      List.Forall₂ (fun c r => ∃ start finish, r = lostResult start finish c fault) cs rs := by
  induction cs generalizing b with
  | nil => exact ⟨[], by simp [reportLost], .nil⟩
  | cons c cs ih =>
    obtain ⟨start, finish, world, hcons⟩ : ∃ start finish world,
        reportLost s i fault (c :: cs) b = reportLost s i fault cs
          ⟨world, b.received ++ [(i, lostResult start finish c fault)]⟩ := ⟨_, _, _, rfl⟩
    obtain ⟨rs, hrs, hlost⟩ := ih ⟨world, b.received ++ [(i, lostResult start finish c fault)]⟩
    refine ⟨lostResult start finish c fault :: rs, ?_, .cons ⟨start, finish, rfl⟩ hlost⟩
    rw [hcons, hrs, List.append_assoc]
    rfl

/-- Reporting what one task left out adds a result for each case. -/
lemma exists_lost_of_task (s : Surroundings σ) (label : Nat → String) (i : Nat) (g : ServiceGroup)
    (t : Task) (es : List (Nat × ServiceGroup × Task)) (b : Batch σ) :
    ∃ b' rs, reportDead s label ((i, g, t) :: es) b = reportDead s label es b' ∧
      b'.received = b.received ++ rs.map (fun r => (i, r)) ∧
      List.Forall₂ (Lost label i t) (leftOut g (reported b i) t) rs := by
  cases t with
  | waiting p => exact ⟨b, [], rfl, by simp, .nil⟩
  | asleep time p => exact ⟨b, [], rfl, by simp, .nil⟩
  | ended o =>
    cases o with
    | none => exact ⟨b, [], rfl, by simp, .nil⟩
    | some k =>
      obtain ⟨rs, hrs, hlost⟩ :=
        exists_lost_reportLost s i (workerFault (label i) k) (g.cases.drop (reported b i)) b
      refine ⟨_, rs, rfl, hrs, hlost.imp ?_⟩
      rintro c r ⟨start, finish, rfl⟩
      exact ⟨k, start, finish, rfl, rfl⟩

/-- Reporting what dead tasks left out adds a result for each case of each group. -/
lemma exists_lost_reportDead (s : Surroundings σ) (label : Nat → String)
    (es : List (Nat × ServiceGroup × Task)) (hes : (es.map fun e => e.1).Nodup) (b : Batch σ) :
    ∃ lost, (reportDead s label es b).received = b.received ++ lost ∧
      (∀ e ∈ lost, e.1 ∈ es.map fun e => e.1) ∧
      ∀ i g t, (i, g, t) ∈ es →
        List.Forall₂ (Lost label i t) (leftOut g (reported b i) t) (resultsOf i lost) := by
  induction es generalizing b with
  | nil => exact ⟨[], by simp [reportDead], by simp, by simp⟩
  | cons e es ih =>
    obtain ⟨j, g', t'⟩ := e
    rw [List.map_cons, List.nodup_cons] at hes
    obtain ⟨b', rs, hreport, hrs, hlost⟩ := exists_lost_of_task s label j g' t' es b
    obtain ⟨lost, hlater, hmem, heach⟩ := ih hes.2 b'
    refine ⟨rs.map (fun r => (j, r)) ++ lost, ?_, ?_, ?_⟩
    · rw [hreport, hlater, hrs, List.append_assoc]
    · intro e he
      rcases List.mem_append.mp he with he | he
      · obtain ⟨r, -, rfl⟩ := List.mem_map.mp he
        exact List.mem_cons_self
      · exact List.mem_cons_of_mem _ (hmem e he)
    · intro i g t h
      rw [resultsOf_append]
      rcases List.mem_cons.mp h with h | h
      · -- The later groups have other numbers.
        obtain ⟨rfl, rfl, rfl⟩ : i = j ∧ g = g' ∧ t = t' := by simpa using h
        have hnil : resultsOf i lost = [] :=
          resultsOf_eq_nil fun e he heq => hes.1 (heq ▸ hmem e he)
        rwa [resultsOf_numbered_self, hnil, List.append_nil]
      · have hne : j ≠ i := fun heq => hes.1 (heq ▸ List.mem_map_of_mem (f := fun e => e.1) h)
        have hcount : reported b' i = reported b i := by
          rw [reported_eq, reported_eq, hrs, resultsOf_append, resultsOf_numbered_of_ne hne,
            List.append_nil]
        rw [resultsOf_numbered_of_ne hne, List.nil_append, ← hcount]
        exact heach i g t h

/-! ### The order in which results are told -/

/-- A batch whose surroundings were told of exactly the results received, in this order. -/
def Heard (b : Batch (σ × List Result)) : Prop := b.world.2 = b.received.map fun e => e.2

/-- Telling of a result while it is received. -/
lemma Heard.progress {b : Batch (σ × List Result)} (h : Heard b) {w : σ × List Result}
    (hw : w.2 = b.world.2) (i : Nat) (r : Result) :
    Heard ⟨s.noting.progress r w, b.received ++ [(i, r)]⟩ := by
  simp [Heard, Surroundings.noting, hw, show b.world.2 = _ from h]

/-- Every step keeps the order. -/
lemma Heard.step {st st' : State (σ × List Result)} {bound : Nat} {mortal : Prop}
    (h : Heard st.batch) (hs : Step s.noting bound mortal st st') : Heard st'.batch := by
  cases hs with
  | @work i t p time ht hp room =>
    have hat : Heard (st.atTime s.noting time).batch := by
      cases time <;> exact h
    have hadv := advanced_advance s.noting i p (st.atTime s.noting time)
    generalize advance s.noting i p (st.atTime s.noting time) = st' at hadv ⊢
    generalize st.atTime s.noting time = st at hadv hat
    cases hadv with
    | ended => exact hat
    | sent r next => exact hat
    | @replied q next hq afterMs r world ha =>
      have hworld : world.2 = st.batch.world.2 := (congrArg (fun e => e.2.2) ha).symm
      exact hworld.trans hat
    | @crashed q next hq k world ha =>
      have hworld : world.2 = st.batch.world.2 := (congrArg (fun e => e.2.2) ha).symm
      exact hworld.trans hat
  | die hm k ht hp => exact h
  | @receive e rest hflight => exact h.progress rfl e.1 e.2

/-- Reporting lost cases keeps the order. -/
lemma Heard.reportLost {b : Batch (σ × List Result)} (h : Heard b) (i : Nat) (fault : EngineFault)
    (cs : List Case) : Heard (reportLost s.noting i fault cs b) := by
  induction cs generalizing b with
  | nil => exact h
  | cons c cs ih => exact ih (h.progress (s := s) rfl i _)

/-- So does reporting what all dead tasks left out. -/
lemma Heard.reportDead {b : Batch (σ × List Result)} (h : Heard b) (label : Nat → String)
    (es : List (Nat × ServiceGroup × Task)) : Heard (reportDead s.noting label es b) := by
  induction es generalizing b with
  | nil => exact h
  | cons e es ih =>
    obtain ⟨i, g, t⟩ := e
    cases t with
    | waiting p => exact ih h
    | asleep time p => exact ih h
    | ended o =>
      cases o with
      | none => exact ih h
      | some k => exact ih (h.reportLost i _ _)

/-! ### One result for each case -/

/-- What has been delivered at the end of a run of the machine: every result is numbered with a
group, and the results of a group are what its task has handed in, which are results of its first
cases, followed by results for the others, which the task has left out. -/
structure Delivered (x : Executor) (label : Nat → String) (groups : List ServiceGroup)
    (st : State σ) (received : List (Nat × Result)) : Prop where
  numbered : ∀ e ∈ received, e.1 < groups.length
  group : ∀ i g t, groups[i]? = some g → st.tasks[i]? = some t →
    ∃ lost, resultsOf i received = resultsOf i st.sent ++ lost ∧
      List.Forall₂ x.Returns (g.cases.take (resultsOf i st.sent).length) (resultsOf i st.sent) ∧
      List.Forall₂ (Lost label i t) (g.cases.drop (resultsOf i st.sent).length) lost

/-- The groups with their tasks, as they are joined. -/
lemma mem_joined_iff {groups : List ServiceGroup} {tasks : List Task} {i : Nat} {g : ServiceGroup}
    {t : Task} : (i, g, t) ∈ (groups.zip tasks).zipIdx.map (fun e => (e.2, e.1)) ↔
      groups[i]? = some g ∧ tasks[i]? = some t := by
  have hzip : (groups.zip tasks)[i]? = some (g, t) ↔ groups[i]? = some g ∧ tasks[i]? = some t :=
    List.getElem?_zip_eq_some
  rw [← hzip, ← List.mk_mem_zipIdx_iff_getElem?]
  constructor
  · intro h
    obtain ⟨⟨e, j⟩, hmem, heq⟩ := List.mem_map.mp h
    cases heq
    exact hmem
  · intro h
    exact List.mem_map.mpr ⟨_, h, rfl⟩

/-- The groups are joined once each. -/
lemma nodup_joined (groups : List ServiceGroup) (tasks : List Task) :
    (((groups.zip tasks).zipIdx.map fun e => (e.2, e.1)).map fun e => e.1).Nodup := by
  rw [List.map_map]
  have h : ((fun e : Nat × ServiceGroup × Task => e.1) ∘ fun e : (ServiceGroup × Task) × Nat =>
      (e.2, e.1)) = Prod.snd := rfl
  rw [h, List.zipIdx_map_snd]
  exact List.nodup_range'

/-- What the pool returns after a finished run delivers a result for each case. -/
lemma Invariant.delivered {mortal : Prop} {groups : List ServiceGroup} {st : State σ}
    (h : Invariant s x mortal groups st) (hf : st.Finished) (label : Nat → String) :
    Delivered x label groups st (joined s label groups st).received := by
  obtain ⟨lost, hreport, hmem, heach⟩ :=
    exists_lost_reportDead s label _ (nodup_joined groups st.tasks) st.batch
  have hreceived : (joined s label groups st).received = st.sent ++ lost :=
    hreport.trans (by rw [h.received_eq hf])
  constructor
  · intro e he
    rw [hreceived] at he
    rcases List.mem_append.mp he with he | he
    · exact h.numbered e he
    · obtain ⟨⟨i, g, t⟩, hin, heq⟩ := List.mem_map.mp (hmem e he)
      obtain ⟨hg, -⟩ := mem_joined_iff.mp hin
      exact heq ▸ (List.getElem?_eq_some_iff.mp hg).1
  · intro i g t hg ht
    have hacc := h.accounted i g t hg ht
    refine ⟨resultsOf i lost, ?_, hacc.returned, ?_⟩
    · rw [hreceived, resultsOf_append]
    · have hlost := heach i g t (mem_joined_iff.mpr ⟨hg, ht⟩)
      rw [reported_eq, h.received_eq hf] at hlost
      cases t with
      | waiting p => cases hf.1 _ (List.mem_of_getElem? ht)
      | asleep time p => cases hf.1 _ (List.mem_of_getElem? ht)
      | ended o =>
        cases o with
        | some k => exact hlost
        | none =>
          rw [hacc.complete rfl, List.drop_length]
          exact hlost

/-- The results of a group bear the names of its cases, in the order of the cases. -/
lemma Delivered.testIds {label : Nat → String} {groups : List ServiceGroup} {st : State σ}
    {received : List (Nat × Result)} (h : Delivered x label groups st received) {i : Nat}
    {g : ServiceGroup} {t : Task} (hg : groups[i]? = some g) (ht : st.tasks[i]? = some t) :
    (resultsOf i received).map (fun r => r.testId) = g.cases.map fun c => c.id := by
  obtain ⟨lost, heq, hreturned, hlost⟩ := h.group i g t hg ht
  have hnames : ∀ {R : Case → Result → Prop} {cs : List Case} {rs : List Result},
      (∀ c r, R c r → r.testId = c.id) → List.Forall₂ R cs rs →
      rs.map (fun r => r.testId) = cs.map fun c => c.id := by
    intro R cs rs hR hrs
    induction hrs with
    | nil => rfl
    | cons hr _ ih => rw [List.map_cons, List.map_cons, hR _ _ hr, ih]
  rw [heq, List.map_append, hnames (fun _ _ h => h.testId_eq) hreturned,
    hnames (fun _ _ h => h.failed.1) hlost, ← List.map_append, List.take_append_drop]

/-- Numbered results are, up to their order, those of one group after the other. -/
lemma perm_flatMap_resultsOf {l : List (Nat × Result)} {n : Nat} (h : ∀ e ∈ l, e.1 < n) :
    ((List.range n).flatMap fun i => resultsOf i l).Perm (l.map fun e => e.2) := by
  have hperm := perm_flatMap_filter (fun e : Nat × Result => e.1) List.nodup_range (l := l)
    fun e he => List.mem_range.mpr (h e he)
  have hmap := hperm.map fun e => e.2
  rwa [List.map_flatMap] at hmap

/-- Going through the numbers of a list is going through the list. -/
lemma flatMap_range_length {α β : Type} {l : List α} {f : Nat → List β} {h : α → List β}
    (hf : ∀ i a, l[i]? = some a → f i = h a) : (List.range l.length).flatMap f = l.flatMap h := by
  induction l generalizing f with
  | nil => rfl
  | cons a l ih =>
    rw [List.length_cons, List.range_succ_eq_map, List.flatMap_cons, List.flatMap_cons,
      List.flatMap_map, hf 0 a rfl, ih fun i b hb => hf (i + 1) b hb]

/-- Up to their order, the names of the results are the names of all cases. -/
lemma Delivered.perm_testIds {label : Nat → String} {groups : List ServiceGroup} {st : State σ}
    {received : List (Nat × Result)} (h : Delivered x label groups st received)
    (hlen : st.tasks.length = groups.length) :
    (received.map fun e => e.2.testId).Perm
      (groups.flatMap fun g => g.cases.map fun c => c.id) := by
  have hperm := (perm_flatMap_resultsOf h.numbered).symm.map fun r => r.testId
  rw [List.map_map, List.map_flatMap] at hperm
  refine hperm.trans (.of_eq (flatMap_range_length fun i g hg => ?_))
  have hlt : i < st.tasks.length := hlen ▸ (List.getElem?_eq_some_iff.mp hg).1
  exact h.testIds hg (List.getElem?_eq_getElem hlt)

/-- However the tasks of the groups take their steps and whenever they die, the run of the pool
comes to an end, and then exactly one result has been returned for each case.  The results of a
group stand in the order of its cases; those that its task handed in come from runs of the cases,
and the cases that a dead task has left out, and no others, have results that say they failed with
the task.  The surroundings have been told of each result once, in the order in which they are
returned.  The pool's own schedule is one of these runs if there are permits for its workers, and
otherwise the pool crashes at the start. -/
theorem runGroups_delivers (s : Surroundings σ) (label : Nat → String) (x : Executor)
    (workers : Nat) (groups : List ServiceGroup) (w : σ) :
    WellFounded (fun st' st => Step s.noting (Pool.bound workers) True st st') ∧
      (∀ st, Reaches s.noting (Pool.bound workers) True (start x groups (w, [])) st →
        (¬st.Finished → ∃ st', Step s.noting (Pool.bound workers) True st st') ∧
        (st.Finished →
          let b := joined s.noting label groups st
          Delivered x label groups st b.received ∧
            (∀ i g, groups[i]? = some g →
              (resultsOf i b.received).map (fun r => r.testId) = g.cases.map fun c => c.id) ∧
            (b.received.map fun e => e.2.testId).Perm
              (groups.flatMap fun g => g.cases.map fun c => c.id) ∧
            b.world.2 = b.received.map fun e => e.2)) ∧
      (Pool.bound workers ≤ maxPermits →
        ∃ st, Reaches s.noting (Pool.bound workers) True (start x groups (w, [])) st ∧
          st.Finished ∧
          runGroups s.noting label x workers groups ⟨(w, []), []⟩ =
            .ok (joined s.noting label groups st)) ∧
      (maxPermits < Pool.bound workers →
        runGroups s.noting label x workers groups ⟨(w, []), []⟩ = .error tooManyPermits) := by
  refine ⟨Step.wellFounded _ _ _, fun st hst => ⟨?_, fun hf => ?_⟩,
    fun hpermits => exists_joined_eq_runGroups s.noting label x hpermits groups (w, []) True,
    runGroups_of_lt s.noting label x groups ⟨(w, []), []⟩⟩
  · exact exists_step (le_max_left 1 workers)
  · have hinv := Invariant.reaches hst
    have hdel := hinv.delivered hf label
    refine ⟨hdel, fun i g hg => ?_, hdel.perm_testIds hinv.length_tasks, ?_⟩
    · have hlt : i < st.tasks.length :=
        hinv.length_tasks ▸ (List.getElem?_eq_some_iff.mp hg).1
      exact hdel.testIds hg (List.getElem?_eq_getElem hlt)
    · have hheard : Heard st.batch := by
        clear hf hinv hdel
        induction hst with
        | refl => rfl
        | tail _ hs ih => exact ih.step hs
      exact hheard.reportDead label _

/-- Surroundings in which nothing is to be had but the time. -/
def barren : Surroundings Unit where
  answer q w := (match q with | .now => .reply 0 (⟨0, 0⟩ : Time.Instant) | _ => .crash ⟨none⟩, w)
  readClock w := (⟨0, 0⟩, w)
  progress _ w := w
  clock _ := 0
  moveTo _ w := w

/-- An executor with the usual settings. -/
def usual : Executor := ⟨EngineSettings.default, false⟩

/-- Two groups. -/
def twoGroups : List ServiceGroup :=
  [⟨"s", [⟨"a", "m", "s", []⟩, ⟨"b", "m", "s", []⟩]⟩, ⟨"t", [⟨"c", "m", "t", []⟩]⟩]

/-- Two workers die in the first cases of their groups: the theorem applies to them. -/
theorem runGroups_delivers_twoGroups :
    Pool.bound 2 ≤ maxPermits ∧
      ∃ b, runGroups barren.noting (fun _ => "") usual 2 twoGroups ⟨((), []), []⟩ = .ok b ∧
        (resultsOf 0 b.received).map (fun r => r.testId) = ["a", "b"] ∧
        (resultsOf 1 b.received).map (fun r => r.testId) = ["c"] ∧
        (b.received.map fun e => e.2.testId).Perm ["a", "b", "c"] ∧
        b.world.2 = b.received.map fun e => e.2 := by
  have hpermits : Pool.bound 2 ≤ maxPermits := by decide
  obtain ⟨-, hevery, hown, -⟩ := runGroups_delivers barren (fun _ => "") usual 2 twoGroups ()
  obtain ⟨st, hrun, hfinished, hjoined⟩ := hown hpermits
  obtain ⟨-, hgroup, hperm, htold⟩ := (hevery st hrun).2 hfinished
  exact ⟨hpermits, _, hjoined, hgroup 0 _ rfl, hgroup 1 _ rfl, hperm, htold⟩

/-- Not every number of workers gives a result for each case: there are not permits for all. -/
theorem not_delivers_of_manyWorkers :
    ¬∀ (s : Surroundings Unit) (label : Nat → String) (x : Executor) (workers : Nat)
      (groups : List ServiceGroup) (w : Unit),
      ∃ b, runGroups s label x workers groups ⟨w, []⟩ = .ok b ∧
        (b.received.map fun e => e.2.testId).Perm
          (groups.flatMap fun g => g.cases.map fun c => c.id) := by
  intro h
  obtain ⟨b, hb, -⟩ := h barren (fun _ => "") usual (2 ^ 61) twoGroups ()
  cases hb.symm.trans (runGroups_of_lt barren _ usual twoGroups _ (by decide))

end Pool

end Retrial
