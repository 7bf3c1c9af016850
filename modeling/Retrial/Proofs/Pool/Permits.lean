import Retrial.Proofs.Pool.Delivery

/-!
# The permits of the pool

The machine of `Pool/Machine` starts a task where there is room.  Here the room is kept as permits:
a task takes a free one before it does anything else, keeps it through all of its cases and pauses,
and gives it back when it is over, also if it crashes or dies; a task that dies before it has a
permit gives none back (`PermitStep`).  That free permits and tasks in progress make up the bound is
not asked for by the steps, it is kept by them (`PermitInvariant.step`).

What the tasks do is kept as well, in the order in which it happens.  So it can be said when a case
begins and when it has returned: the exchanges of a group are those of its first case up to the
handing in of the result, then those of the second one, and so on (`InTurn`).

Every run of the machine is one with permits (`exists_permitted_of_reaches`), and so is the pool's
own schedule.
-/

namespace Retrial

/-! ### Cases in turn -/

/-- `InTurn x cs log left current`: the exchanges of `log` are those of some cases of a batch, one
case after another.  The cases `left` have not returned, and `current` is what the first of them has
exchanged. -/
inductive InTurn (x : Executor) : List Case → List Exchange → List Case → List Exchange → Prop
  /-- No case is left. -/
  | nothing : InTurn x [] [] [] []
  /-- The first case goes on. -/
  | first {c : Case} {cs : List Case} {log : List Exchange} {p : Proc Result}
      (h : Proc.Path (x.execute c) log p) : InTurn x (c :: cs) log (c :: cs) log
  /-- The first case has returned, and its result has been handed in; then come the others. -/
  | returned {c : Case} {cs left : List Case} {log rest current : List Exchange} {r : Result}
      (h : Proc.Trace (x.execute c) log r) (hrest : InTurn x cs rest left current) :
      InTurn x (c :: cs) (log ++ ⟨.report r, ()⟩ :: rest) left current

/-- Where nothing has been exchanged, no case has begun. -/
lemma InTurn.current_eq_nil {x : Executor} {cs left : List Case} {current : List Exchange}
    (h : InTurn x cs [] left current) : current = [] := by
  generalize hnil : ([] : List Exchange) = log at h
  cases h with
  | nothing => rfl
  | first _ => rfl
  | returned _ _ => simp at hnil

/-- Along any path a batch runs its cases in turn. -/
lemma exists_inTurn {x : Executor} {cs : List Case} {log : List Exchange} {p : Proc Unit}
    (h : Proc.Path (x.batch cs) log p) : ∃ left current, InTurn x cs log left current := by
  induction cs generalizing log with
  | nil =>
    have hdone : Proc.Path (.done () : Proc Unit) log p := h
    cases hdone
    exact ⟨[], [], .nothing⟩
  | cons c cs ih =>
    have hbatch : Proc.Path ((x.execute c).bind fun r => .ask (.report r) fun _ => x.batch cs)
      log p := h
    rcases Proc.path_bind_cases hbatch with ⟨p₁, hfirst, -⟩ | ⟨log₁, r, log₂, rfl, hreturned, hrest⟩
    · exact ⟨c :: cs, log, .first hfirst⟩
    · cases hrest with
      | here _ =>
        rw [List.append_nil]
        exact ⟨c :: cs, log₁, .first hreturned⟩
      | step _ _ reply hrest =>
        obtain ⟨left, current, hturn⟩ := ih hrest
        exact ⟨left, current, .returned hreturned hturn⟩

namespace Pool

variable {σ : Type}

/-! ### The machine with permits -/

/-- What the task of a group does. -/
inductive Happening
  /-- It takes a permit. -/
  | started
  /-- It makes a request and gets a reply. -/
  | exchanged (e : Exchange)

/-- Whether it is the taking of a permit. -/
def Happening.isStart : Happening → Bool
  | started => true
  | exchanged _ => false

/-- The exchange. -/
def Happening.exchange? : Happening → Option Exchange
  | started => none
  | exchanged e => some e

/-- How often the task of a group has started. -/
def startsOf (i : Nat) (past : List (Nat × Happening)) : Nat :=
  past.countP fun e => e.1 == i && e.2.isStart

/-- What the task of a group has exchanged. -/
def logOf (i : Nat) (past : List (Nat × Happening)) : List Exchange :=
  past.filterMap fun e => if e.1 = i then e.2.exchange? else none

/-- What a group does counts for it. -/
lemma startsOf_append_self (i : Nat) (past : List (Nat × Happening)) (added : List Happening) :
    startsOf i (past ++ added.map fun e => (i, e)) =
      startsOf i past + added.countP Happening.isStart := by
  simp [startsOf, List.countP_map, Function.comp_def]

/-- What a group does counts for no other one. -/
lemma startsOf_append_of_ne {i j : Nat} (h : i ≠ j) (past : List (Nat × Happening))
    (added : List Happening) :
    startsOf j (past ++ added.map fun e => (i, e)) = startsOf j past := by
  simp [startsOf, List.countP_map, Function.comp_def, h]

/-- What a group exchanges is added to its log. -/
lemma logOf_append_self (i : Nat) (past : List (Nat × Happening)) (added : List Happening) :
    logOf i (past ++ added.map fun e => (i, e)) =
      logOf i past ++ added.filterMap Happening.exchange? := by
  simp [logOf, List.filterMap_map]

/-- What a group exchanges is added to no other log. -/
lemma logOf_append_of_ne {i j : Nat} (h : i ≠ j) (past : List (Nat × Happening))
    (added : List Happening) :
    logOf j (past ++ added.map fun e => (i, e)) = logOf j past := by
  simp [logOf, List.filterMap_map, h]

/-- A state of a pool with permits. -/
structure Permits (σ : Type) where
  /-- Where the tasks stand. -/
  pool : State σ
  /-- How many permits no task holds. -/
  free : Nat
  /-- What has happened so far, each with the number of its group. -/
  past : List (Nat × Happening)

namespace Permits

/-- The state before the first step. -/
def initial (x : Executor) (groups : List ServiceGroup) (permits : Nat) (world : σ) : Permits σ :=
  ⟨start x groups world, permits, []⟩

/-- A case of a group is underway: it has begun and has not returned, and the task of the group is
not over. -/
def Underway (x : Executor) (groups : List ServiceGroup) (l : Permits σ) (i : Nat) : Prop :=
  ∃ g t p left current, groups[i]? = some g ∧ l.pool.tasks[i]? = some t ∧ t.rest = some p ∧
    InTurn x g.cases (logOf i l.past) left current ∧ current ≠ []

end Permits

/-- The ways in which a task with a permit goes on: the permit comes back if the task is over. -/
inductive Worked (s : Surroundings σ) (i : Nat) (l : Permits σ) : Proc Unit → Permits σ → Prop
  | ended : Worked s i l (.done ()) ⟨l.pool.put i (.ended none), l.free + 1, l.past⟩
  | sent (r : Result) (next : Unit → Proc Unit) :
      Worked s i l (.ask (.report r) next)
        ⟨{ l.pool.put i (.asleep (s.clock l.pool.batch.world) (next ())) with
            sent := l.pool.sent ++ [(i, r)] },
          l.free, l.past ++ [(i, .exchanged ⟨.report r, ()⟩)]⟩
  | replied {q : Request} (next : q.Reply → Proc Unit) (hq : ∀ r, q ≠ .report r) {afterMs : Nat}
      {r : q.Reply} {world : σ} (ha : s.answer q l.pool.batch.world = (.reply afterMs r, world)) :
      Worked s i l (.ask q next)
        ⟨{ l.pool.put i (.asleep (s.clock world + afterMs) (next r)) with
            batch := { l.pool.batch with world } },
          l.free, l.past ++ [(i, .exchanged ⟨q, r⟩)]⟩
  | crashed {q : Request} (next : q.Reply → Proc Unit) (hq : ∀ r, q ≠ .report r) {c : Crash}
      {world : σ} (ha : s.answer q l.pool.batch.world = (.crash c, world)) :
      Worked s i l (.ask q next)
        ⟨{ l.pool.put i (.ended (some c)) with batch := { l.pool.batch with world } },
          l.free + 1, l.past⟩

/-- One step of a pool with permits. -/
inductive PermitStep (s : Surroundings σ) (mortal : Prop) : Permits σ → Permits σ → Prop
  /-- A task that has not started takes a free permit. -/
  | acquire {l : Permits σ} {i n : Nat} {p : Proc Unit} (ht : l.pool.tasks[i]? = some (.waiting p))
      (hfree : l.free = n + 1) :
      PermitStep s mortal l
        ⟨l.pool.put i (.asleep (s.clock l.pool.batch.world) p), n, l.past ++ [(i, .started)]⟩
  /-- A task with a permit goes on. -/
  | work {l l' : Permits σ} {i until_ : Nat} {p : Proc Unit} (time : Option Nat)
      (ht : l.pool.tasks[i]? = some (.asleep until_ p))
      (h : Worked s i { l with pool := l.pool.atTime s time } p l') : PermitStep s mortal l l'
  /-- A task that has not started dies. -/
  | dieWaiting {l : Permits σ} {i : Nat} {p : Proc Unit} (hm : mortal) (c : Crash)
      (ht : l.pool.tasks[i]? = some (.waiting p)) :
      PermitStep s mortal l ⟨l.pool.put i (.ended (some c)), l.free, l.past⟩
  /-- A task with a permit dies. -/
  | dieHolding {l : Permits σ} {i until_ : Nat} {p : Proc Unit} (hm : mortal) (c : Crash)
      (ht : l.pool.tasks[i]? = some (.asleep until_ p)) :
      PermitStep s mortal l ⟨l.pool.put i (.ended (some c)), l.free + 1, l.past⟩
  /-- The pool receives the result that has waited longest. -/
  | receive {l : Permits σ} {e : Nat × Result} {rest : List (Nat × Result)}
      (h : l.pool.inFlight = e :: rest) :
      PermitStep s mortal l { l with pool.batch := receive s e l.pool.batch }

/-- Some steps lead from one state to the other. -/
def PermitReaches (s : Surroundings σ) (mortal : Prop) : Permits σ → Permits σ → Prop :=
  Relation.ReflTransGen (PermitStep s mortal)

variable {s : Surroundings σ} {x : Executor} {groups : List ServiceGroup} {mortal : Prop}
  {bound i : Nat} {l l' : Permits σ} {g : ServiceGroup} {t t' : Task} {p : Proc Unit}

/-! ### The account of one group -/

/-- A group is accounted for when its task has become `t`, has started so many times, and has made
the exchanges of `log`. -/
structure InOrder (x : Executor) (g : ServiceGroup) (t : Task) (starts : Nat)
    (log : List Exchange) : Prop where
  /-- It has started once at most. -/
  once : starts ≤ 1
  /-- A task that waits has not started, and has exchanged nothing. -/
  waiting : t.isWaiting = true → starts = 0 ∧ log = []
  /-- The exchanges lead through the batch, to what is left of it. -/
  path : ∃ p, Proc.Path (x.batch g.cases) log p ∧ ∀ p', t.rest = some p' → p' = p

namespace InOrder

variable {starts : Nat} {log : List Exchange}

/-- Before the first step. -/
lemma initial (g : ServiceGroup) : InOrder x g (.waiting (x.batch g.cases)) 0 [] where
  once := Nat.zero_le 1
  waiting _ := ⟨rfl, rfl⟩
  path := ⟨_, .here _, fun _ hp => (Option.some.inj hp).symm⟩

/-- A task that waits starts. -/
lemma start (h : InOrder x g (.waiting p) starts log) (time : Nat) :
    InOrder x g (.asleep time p) (starts + 1) log := by
  obtain ⟨hstarts, -⟩ := h.waiting rfl
  constructor
  · omega
  · intro hw
    cases hw
  · exact h.path

/-- A task that has started exchanges something. -/
lemma exchange {time : Nat} {q : Request} {next : q.Reply → Proc Unit}
    (h : InOrder x g (.asleep time (.ask q next)) starts log) (time' : Nat) (r : q.Reply) :
    InOrder x g (.asleep time' (next r)) starts (log ++ [⟨q, r⟩]) := by
  obtain ⟨p, hpath, hrest⟩ := h.path
  obtain rfl := hrest _ rfl
  constructor
  · exact h.once
  · intro hw
    cases hw
  · refine ⟨next r, hpath.append (.step q next r (.here _)), ?_⟩
    intro p' hp'
    exact (Option.some.inj hp').symm

/-- A task is over. -/
lemma ended (h : InOrder x g t starts log) (crash : Option Crash) :
    InOrder x g (.ended crash) starts log := by
  obtain ⟨p, hpath, -⟩ := h.path
  constructor
  · exact h.once
  · intro hw
    cases hw
  · refine ⟨p, hpath, ?_⟩
    intro p' hp'
    cases hp'

end InOrder

/-! ### The account of all groups -/

/-- The invariant of the machine with permits: there is a task for each group, the free permits and
the tasks in progress make up the bound, and every group is accounted for. -/
structure PermitInvariant (x : Executor) (groups : List ServiceGroup) (bound : Nat)
    (l : Permits σ) : Prop where
  length_tasks : l.pool.tasks.length = groups.length
  conserved : l.free + inProgress l.pool.tasks = bound
  inOrder : ∀ i g t, groups[i]? = some g → l.pool.tasks[i]? = some t →
    InOrder x g t (startsOf i l.past) (logOf i l.past)

/-- What a task counts for among those in progress. -/
def held (t : Task) : Nat := if t.inProgress then 1 else 0

/-- How many tasks are in progress once one has become another. -/
lemma inProgress_set {tasks : List Task} (ht : tasks[i]? = some t) (t' : Task) :
    inProgress (tasks.set i t') + held t = inProgress tasks + held t' := by
  obtain ⟨hlt, rfl⟩ := List.getElem?_eq_some_iff.mp ht
  have hpos : tasks[i].inProgress = true → 0 < inProgress tasks := by
    intro hin
    exact List.countP_pos_iff.mpr ⟨_, List.getElem_mem hlt, hin⟩
  unfold inProgress held at *
  rw [List.countP_set hlt]
  cases hin : tasks[i].inProgress <;> cases t'.inProgress <;>
    simp only [hin, if_true, if_false, Bool.false_eq_true, forall_true_left, false_implies]
      at hpos ⊢ <;> omega

/-- The sleepers are as many as the tasks in progress. -/
lemma length_sleepers (tasks : List Task) : (sleepers tasks).length = inProgress tasks := by
  unfold sleepers inProgress
  rw [List.length_filterMap_eq_countP]
  conv_rhs => rw [← List.zipIdx_map_fst 0 tasks, List.countP_map]
  apply List.countP_congr
  rintro ⟨t, i⟩ -
  cases t <;> rfl

namespace PermitInvariant

/-- It holds before the first step. -/
lemma initial (bound : Nat) (w : σ) :
    PermitInvariant x groups bound (.initial x groups bound w) := by
  constructor
  · exact List.length_map _
  · have hidle : inProgress (groups.map fun g => Task.waiting (x.batch g.cases)) = 0 := by
      unfold inProgress
      rw [List.countP_map, List.countP_eq_zero]
      intro g _ hin
      cases hin
    change bound + inProgress (groups.map fun g => Task.waiting (x.batch g.cases)) = bound
    rw [hidle, Nat.add_zero]
  · intro i g t hg ht
    simp only [Permits.initial, Pool.start, List.getElem?_map, hg, Option.map_some,
      Option.some.injEq] at ht
    subst ht
    exact .initial g

/-- A step of one task keeps it if the permits are kept, and the account of its own group. -/
lemma update (h : PermitInvariant x groups bound l) (ht : l.pool.tasks[i]? = some t) (t' : Task)
    {free : Nat} (hfree : free + held t' = l.free + held t) (added : List Happening)
    {sent : List (Nat × Result)} {b : Batch σ}
    (hown : ∀ g, InOrder x g t (startsOf i l.past) (logOf i l.past) →
      InOrder x g t' (startsOf i l.past + added.countP Happening.isStart)
        (logOf i l.past ++ added.filterMap Happening.exchange?)) :
    PermitInvariant x groups bound
      ⟨⟨l.pool.tasks.set i t', sent, b⟩, free, l.past ++ added.map fun e => (i, e)⟩ := by
  have hlt : i < l.pool.tasks.length := (List.getElem?_eq_some_iff.mp ht).1
  constructor
  · rw [List.length_set]
    exact h.length_tasks
  · have hset := inProgress_set ht t'
    have hbound := h.conserved
    simp only
    omega
  · intro j g u hg hu
    by_cases hij : i = j
    · subst hij
      rw [List.getElem?_set_self hlt, Option.some.injEq] at hu
      subst hu
      rw [startsOf_append_self, logOf_append_self]
      exact hown g (h.inOrder i g t hg ht)
    · rw [List.getElem?_set_ne hij] at hu
      rw [startsOf_append_of_ne hij, logOf_append_of_ne hij]
      exact h.inOrder j g u hg hu

/-- So does one that is not kept among what has happened. -/
lemma put (h : PermitInvariant x groups bound l) (ht : l.pool.tasks[i]? = some t) (t' : Task)
    {free : Nat} (hfree : free + held t' = l.free + held t)
    {sent : List (Nat × Result)} {b : Batch σ}
    (hown : ∀ g, InOrder x g t (startsOf i l.past) (logOf i l.past) →
      InOrder x g t' (startsOf i l.past) (logOf i l.past)) :
    PermitInvariant x groups bound ⟨⟨l.pool.tasks.set i t', sent, b⟩, free, l.past⟩ := by
  have hown' : ∀ g, InOrder x g t (startsOf i l.past) (logOf i l.past) →
      InOrder x g t' (startsOf i l.past + 0) (logOf i l.past ++ []) := by
    intro g hg
    rw [Nat.add_zero, List.append_nil]
    exact hown g hg
  have h' : PermitInvariant x groups bound
      ⟨⟨l.pool.tasks.set i t', sent, b⟩, free, l.past ++ [].map fun e => (i, e)⟩ :=
    h.update ht t' hfree [] hown'
  rwa [List.map_nil, List.append_nil] at h'

/-- A task that goes on keeps it. -/
lemma worked (h : PermitInvariant x groups bound l) {until_ : Nat}
    (ht : l.pool.tasks[i]? = some (.asleep until_ p)) (hw : Worked s i l p l') :
    PermitInvariant x groups bound l' := by
  cases hw with
  | ended => exact h.put ht (.ended none) rfl fun g hg => hg.ended none
  | sent r next =>
    exact h.update ht (.asleep _ (next ())) rfl [.exchanged ⟨.report r, ()⟩]
      fun g hg => hg.exchange _ ()
  | @replied q next hq afterMs r world ha =>
    exact h.update ht (.asleep _ (next r)) rfl [.exchanged ⟨q, r⟩] fun g hg => hg.exchange _ r
  | @crashed q next hq c world ha =>
    exact h.put ht (.ended (some c)) rfl fun g hg => hg.ended (some c)

/-- Every step keeps it. -/
lemma step (h : PermitInvariant x groups bound l) (hs : PermitStep s mortal l l') :
    PermitInvariant x groups bound l' := by
  cases hs with
  | @acquire i n p ht hfree =>
    have hheld : n + held (.asleep (s.clock l.pool.batch.world) p) =
        l.free + held (.waiting p) := by
      rw [hfree]
      rfl
    have hown : ∀ g, InOrder x g (.waiting p) (startsOf i l.past) (logOf i l.past) →
        InOrder x g (.asleep (s.clock l.pool.batch.world) p) (startsOf i l.past + 1)
          (logOf i l.past ++ []) := by
      intro g hg
      rw [List.append_nil]
      exact hg.start _
    exact h.update ht _ hheld [.started] hown
  | work time ht hw =>
    have hat : PermitInvariant x groups bound { l with pool := l.pool.atTime s time } :=
      ⟨h.length_tasks, h.conserved, h.inOrder⟩
    exact hat.worked ht hw
  | dieWaiting hm c ht => exact h.put ht (.ended (some c)) rfl fun g hg => hg.ended (some c)
  | dieHolding hm c ht => exact h.put ht (.ended (some c)) rfl fun g hg => hg.ended (some c)
  | receive hflight => exact ⟨h.length_tasks, h.conserved, h.inOrder⟩

/-- It holds in every state of a run. -/
lemma reaches {w : σ} (h : PermitReaches s mortal (.initial x groups bound w) l) :
    PermitInvariant x groups bound l := by
  induction h with
  | refl => exact initial bound w
  | tail _ hs ih => exact ih.step hs

/-- A group with a case underway has its task in progress. -/
lemma exists_asleep (h : PermitInvariant x groups bound l) (hu : l.Underway x groups i) :
    ∃ until_ p, l.pool.tasks[i]? = some (.asleep until_ p) := by
  obtain ⟨g, t, p, left, current, hg, ht, hp, hturn, hcurrent⟩ := hu
  cases t with
  | waiting p =>
    obtain ⟨-, hlog⟩ := (h.inOrder i g _ hg ht).waiting rfl
    rw [hlog] at hturn
    exact absurd hturn.current_eq_nil hcurrent
  | asleep until_ p => exact ⟨until_, p, ht⟩
  | ended crash => cases hp

/-- No more groups have a case underway than tasks are in progress. -/
lemma card_underway_le (h : PermitInvariant x groups bound l) (busy : Finset Nat)
    (hbusy : ∀ i ∈ busy, l.Underway x groups i) : busy.card ≤ inProgress l.pool.tasks := by
  have hsub : busy ⊆ ((sleepers l.pool.tasks).map fun e => e.1).toFinset := by
    intro i hi
    obtain ⟨until_, p, ht⟩ := h.exists_asleep (hbusy i hi)
    rw [List.mem_toFinset]
    exact List.mem_map.mpr ⟨(i, until_), mem_sleepers_iff.mpr ⟨p, ht⟩, rfl⟩
  calc busy.card ≤ ((sleepers l.pool.tasks).map fun e => e.1).toFinset.card :=
        Finset.card_le_card hsub
    _ ≤ ((sleepers l.pool.tasks).map fun e => e.1).length := List.toFinset_card_le _
    _ = inProgress l.pool.tasks := by rw [List.length_map, length_sleepers]

end PermitInvariant

/-! ### The runs of the machine -/

/-- What a task does depends on what it still has to do, and not on where it stood. -/
lemma advance_put (s : Surroundings σ) (i : Nat) (p : Proc Unit) (st : State σ) (t : Task) :
    advance s i p (st.put i t) = advance s i p st := by
  have hput (t' : Task) : (st.put i t).put i t' = st.put i t' := by
    unfold State.put
    rw [List.set_set]
  have hbatch : (st.put i t).batch = st.batch := rfl
  have hsent : (st.put i t).sent = st.sent := rfl
  unfold advance
  split
  · exact hput _
  · rw [hput, hbatch, hsent]
  · rw [hbatch]
    split <;> rw [hput]

/-- A task with a permit can do what it does in the machine. -/
lemma exists_worked (s : Surroundings σ) (i : Nat) (p : Proc Unit) (l : Permits σ) :
    ∃ l', Worked s i l p l' ∧ l'.pool = advance s i p l.pool := by
  have h := advanced_advance s i p l.pool
  generalize advance s i p l.pool = st at h
  cases h with
  | ended => exact ⟨_, .ended, rfl⟩
  | sent r next => exact ⟨_, .sent r next, rfl⟩
  | replied next hq ha => exact ⟨_, .replied next hq ha, rfl⟩
  | crashed next hq ha => exact ⟨_, .crashed next hq ha, rfl⟩

/-- A step of the machine is made of steps with permits: a task that starts takes a permit first,
and there is one where there is room. -/
lemma Step.permitted {st' : State σ} (hs : Step s bound mortal l.pool st')
    (hconserved : l.free + inProgress l.pool.tasks = bound) :
    ∃ l', PermitReaches s mortal l l' ∧ l'.pool = st' := by
  generalize hst : l.pool = st at hs
  cases hs with
  | @work i t p time ht hp room =>
    subst hst
    cases t with
    | ended crash => cases hp
    | asleep until_ p' =>
      obtain rfl := Option.some.inj hp
      obtain ⟨l', hwork, hpool⟩ := exists_worked s i p' { l with pool := l.pool.atTime s time }
      exact ⟨l', .single (.work time ht hwork), hpool⟩
    | waiting p' =>
      obtain rfl := Option.some.inj hp
      have hroom := room rfl
      obtain ⟨n, hfree⟩ : ∃ n, l.free = n + 1 := Nat.exists_eq_add_one.mpr (by omega)
      let l₁ : Permits σ :=
        ⟨l.pool.put i (.asleep (s.clock l.pool.batch.world) p'), n, l.past ++ [(i, .started)]⟩
      have hlt : i < l.pool.tasks.length := (List.getElem?_eq_some_iff.mp ht).1
      have ht₁ : l₁.pool.tasks[i]? = some (.asleep (s.clock l.pool.batch.world) p') :=
        List.getElem?_set_self hlt
      obtain ⟨l', hwork, hpool⟩ := exists_worked s i p' { l₁ with pool := l₁.pool.atTime s time }
      refine ⟨l', (Relation.ReflTransGen.single (.acquire ht hfree)).tail (.work time ht₁ hwork),
        hpool.trans ?_⟩
      exact advance_put s i p' (l.pool.atTime s time) _
  | @die i t p hm c ht hp =>
    subst hst
    cases t with
    | ended crash => cases hp
    | asleep until_ p' => exact ⟨_, .single (.dieHolding hm c ht), rfl⟩
    | waiting p' => exact ⟨_, .single (.dieWaiting hm c ht), rfl⟩
  | receive hflight =>
    subst hst
    exact ⟨_, .single (.receive hflight), rfl⟩

/-- Every run of the machine is one with permits. -/
lemma exists_permitted_of_reaches {w : σ} {st : State σ}
    (h : Reaches s bound mortal (start x groups w) st) :
    ∃ l, PermitReaches s mortal (.initial x groups bound w) l ∧ l.pool = st := by
  induction h with
  | refl => exact ⟨_, .refl, rfl⟩
  | tail _ hs ih =>
    obtain ⟨l, hrun, rfl⟩ := ih
    have hinvariant : PermitInvariant x groups bound l := .reaches hrun
    obtain ⟨l', hmore, hpool⟩ := hs.permitted hinvariant.conserved
    exact ⟨l', hrun.trans hmore, hpool⟩

/-- **The pool keeps to its permits.** Let groups be run on some workers, whatever the order of
their steps, whatever the surroundings answer, and also if workers die. In each state of the run: no
more groups have a case underway than there are workers, or one if none is asked for; a group has
started once at most; its exchanges are those of its cases one after another, none before the case
ahead of it has returned; and the free permits and the tasks in progress make up the bound, so that
no permit is lost. The pool's own schedule is one of these runs; a pool that is asked for more
workers than there can be permits crashes, and no group has a case underway. -/
theorem permits_keep (s : Surroundings σ) (label : Nat → String) (x : Executor) (workers : Nat)
    (groups : List ServiceGroup) (w : σ) (mortal : Prop) :
    (∀ l, PermitReaches s mortal (.initial x groups (Pool.bound workers) w) l →
      (∀ busy : Finset Nat, (∀ i ∈ busy, l.Underway x groups i) → busy.card ≤ max 1 workers) ∧
      (∀ i g, groups[i]? = some g → startsOf i l.past ≤ 1 ∧
        ∃ left current, InTurn x g.cases (logOf i l.past) left current) ∧
      l.free + inProgress l.pool.tasks = max 1 workers) ∧
    (Pool.bound workers ≤ maxPermits →
      ∃ l, PermitReaches s mortal (.initial x groups (Pool.bound workers) w) l ∧
        l.pool.Finished ∧
        runGroups s label x workers groups ⟨w, []⟩ = .ok (joined s label groups l.pool)) ∧
    (maxPermits < Pool.bound workers →
      runGroups s label x workers groups ⟨w, []⟩ = .error tooManyPermits) := by
  refine ⟨?_, ?_, runGroups_of_lt s label x groups ⟨w, []⟩⟩
  · intro l hrun
    have h : PermitInvariant x groups (Pool.bound workers) l := .reaches hrun
    have hbound : l.free + inProgress l.pool.tasks = max 1 workers := h.conserved
    refine ⟨?_, ?_, hbound⟩
    · intro busy hbusy
      have hcard := h.card_underway_le busy hbusy
      omega
    · intro i g hg
      obtain ⟨t, ht⟩ : ∃ t, l.pool.tasks[i]? = some t := by
        obtain ⟨hlt, -⟩ := List.getElem?_eq_some_iff.mp hg
        exact ⟨_, List.getElem?_eq_getElem (h.length_tasks ▸ hlt)⟩
      have horder := h.inOrder i g t hg ht
      obtain ⟨p, hpath, -⟩ := horder.path
      exact ⟨horder.once, exists_inTurn hpath⟩
  · intro hpermits
    obtain ⟨st, hrun, hfinished, hjoined⟩ :=
      exists_joined_eq_runGroups s label x hpermits groups w mortal
    obtain ⟨l, hpermitted, rfl⟩ := exists_permitted_of_reaches hrun
    exact ⟨l, hpermitted, hfinished, hjoined⟩

/-- With one worker, and the first case of the first group underway, none of the second group is:
the theorem applies. -/
theorem permits_keep_twoGroups :
    ∃ l, PermitReaches barren True (.initial usual twoGroups (Pool.bound 1) ()) l ∧
      l.Underway usual twoGroups 0 ∧ ¬l.Underway usual twoGroups 1 := by
  -- the first group takes the permit, and its first case asks for the time
  obtain ⟨l, hrun, hpast, until_, p, ht⟩ :
      ∃ l, PermitReaches barren True (.initial usual twoGroups (Pool.bound 1) ()) l ∧
        l.past = [(0, .started), (0, .exchanged ⟨.now, ⟨0, 0⟩⟩)] ∧
        ∃ until_ p, l.pool.tasks[0]? = some (.asleep until_ p) :=
    ⟨_, (Relation.ReflTransGen.single (.acquire (i := 0) rfl rfl)).tail
      (.work (i := 0) none rfl (.replied (q := .now) _ (by simp) rfl)), rfl, _, _, rfl⟩
  have hlog : logOf 0 l.past = [⟨.now, ⟨0, 0⟩⟩] := by
    rw [hpast]
    rfl
  have hturn : InTurn usual [⟨"a", "m", "s", []⟩, ⟨"b", "m", "s", []⟩] (logOf 0 l.past)
      [⟨"a", "m", "s", []⟩, ⟨"b", "m", "s", []⟩] [⟨.now, ⟨0, 0⟩⟩] := by
    rw [hlog]
    exact .first (.step .now _ ⟨0, 0⟩ (.here _))
  have hfirst : l.Underway usual twoGroups 0 :=
    ⟨_, _, p, _, _, rfl, ht, rfl, hturn, List.cons_ne_nil _ _⟩
  refine ⟨l, hrun, hfirst, fun hsecond => ?_⟩
  have hkept := (permits_keep barren (fun _ => "") usual 1 twoGroups () True).1 l hrun
  have hbusy : ∀ i ∈ ({0, 1} : Finset Nat), l.Underway usual twoGroups i := by
    intro i hi
    rw [Finset.mem_insert, Finset.mem_singleton] at hi
    rcases hi with rfl | rfl
    · exact hfirst
    · exact hsecond
  exact absurd (hkept.1 {0, 1} hbusy) (by decide)

end Pool

end Retrial
