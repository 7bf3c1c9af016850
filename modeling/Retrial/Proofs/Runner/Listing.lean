import Retrial.Proofs.Storage.Kept
import Retrial.Runner

/-!
# What a runner lists

A runner lists the executions it remembers, of one strategy or of all, the newest first and at most
so many of them.  Executions that started at the same time stand in the order of the memory, since
the sort is stable (`Runner.filter_mergeSort_newerFirst`); and what a limit leaves out did not start
later than anything that is listed.

This leaves one listing only (`Runner.Lists.unique`): the start times of a listing are the latest
ones, in order, and the executions of each start time are the first of the memory.
-/

namespace Retrial

namespace Runner

open Time (Instant)

/-- The executions of a memory that are of a strategy, or all of them, in their order. -/
def ofStrategy (history : List Execution) (strategyId : Option String) : List Execution :=
  history.filter fun e => ∀ id ∈ strategyId, e.strategyId = id

/-- The executions that started at some time, in their order. -/
def startedAt (t : Instant) (es : List Execution) : List Execution :=
  es.filter fun e => e.startedAt = t

/-- A list of executions is a listing of a memory: it holds executions of the strategy, so many or
all of them, the newest first and those of one start time in the order of the memory, and the others
of the strategy did not start later. -/
structure Lists (history : List Execution) (limit : Option Nat) (strategyId : Option String)
    (es : List Execution) : Prop where
  known : ∀ e ∈ es, e ∈ history ∧ ∀ id ∈ strategyId, e.strategyId = id
  length : es.length = limit.elim (ofStrategy history strategyId).length
    fun n => min n (ofStrategy history strategyId).length
  newest : es.Pairwise fun a b => b.startedAt.le a.startedAt = true
  inTurn : ∀ t, startedAt t es <+: startedAt t (ofStrategy history strategyId)
  others : ∃ rest, (es ++ rest).Perm (ofStrategy history strategyId) ∧
    ∀ e ∈ es, ∀ e' ∈ rest, e'.startedAt.le e.startedAt = true

variable {r : Runner} {history es es' : List Execution} {limit : Option Nat}
  {strategyId : Option String}

/-! ### The newest first -/

/-- In the sorted list the newest comes first. -/
lemma pairwise_mergeSort_newerFirst (es : List Execution) :
    (es.mergeSort Storage.newerFirst).Pairwise fun a b => b.startedAt.le a.startedAt = true :=
  List.pairwise_mergeSort Storage.newerFirst_trans Storage.newerFirst_total es

/-- Sorting leaves the order of those that started at the same time. -/
lemma filter_mergeSort_newerFirst (t : Instant) (es : List Execution) :
    startedAt t (es.mergeSort Storage.newerFirst) = startedAt t es := by
  have hsame : (startedAt t es).Pairwise fun a b => Storage.newerFirst a b = true := by
    refine List.pairwise_of_forall_mem_list fun a ha b hb => ?_
    have ha' : a.startedAt = t := by simpa using List.of_mem_filter ha
    have hb' : b.startedAt = t := by simpa using List.of_mem_filter hb
    unfold Storage.newerFirst
    rw [ha', hb', Instant.le_iff]
    exact Or.inr ⟨rfl, Nat.le_refl _⟩
  have hsub : (startedAt t es).Sublist (es.mergeSort Storage.newerFirst) :=
    List.sublist_mergeSort Storage.newerFirst_trans Storage.newerFirst_total hsame
      List.filter_sublist
  have hfilter := hsub.filter fun e => e.startedAt = t
  rw [startedAt, List.filter_filter] at hfilter
  simp only [Bool.and_self] at hfilter
  refine (hfilter.eq_of_length ?_).symm
  exact (((List.mergeSort_perm es Storage.newerFirst).filter _).length_eq).symm

/-- What a runner lists, in two steps. -/
lemma executionHistory_eq (r : Runner) (limit : Option Nat) (strategyId : Option String) :
    r.executionHistory limit strategyId =
      limit.elim ((ofStrategy r.history strategyId).mergeSort Storage.newerFirst)
        fun n => ((ofStrategy r.history strategyId).mergeSort Storage.newerFirst).take n := by
  have hmatch : (r.history.filter fun e => strategyId.all fun id => e.strategyId == id) =
      ofStrategy r.history strategyId := by
    refine List.filter_congr fun e _ => ?_
    rw [Bool.eq_iff_iff]
    cases strategyId <;> simp
  unfold executionHistory
  simp only [hmatch]
  cases limit <;> rfl

/-- The first executions of the sorted list are a listing. -/
lemma lists_take (history : List Execution) (strategyId : Option String) (n : Nat) :
    Lists history (some n) strategyId
      (((ofStrategy history strategyId).mergeSort Storage.newerFirst).take n) := by
  have hsorted := pairwise_mergeSort_newerFirst (ofStrategy history strategyId)
  have hperm := List.mergeSort_perm (ofStrategy history strategyId) Storage.newerFirst
  refine ⟨fun e he => ?_, ?_, hsorted.sublist (List.take_sublist _ _), fun t => ?_, ?_⟩
  · obtain ⟨hhistory, hstrategy⟩ :=
      List.mem_filter.mp (hperm.mem_iff.mp (List.mem_of_mem_take he))
    exact ⟨hhistory, of_decide_eq_true hstrategy⟩
  · rw [List.length_take, List.length_mergeSort, Option.elim_some]
  · rw [← filter_mergeSort_newerFirst t (ofStrategy history strategyId)]
    exact (List.take_prefix _ _).filter _
  · refine ⟨((ofStrategy history strategyId).mergeSort Storage.newerFirst).drop n, ?_, ?_⟩
    · rw [List.take_append_drop]
      exact hperm
    · rw [← List.take_append_drop n (List.mergeSort _ _), List.pairwise_append] at hsorted
      exact hsorted.2.2

/-- A limit of as many as there are is none. -/
lemma lists_none_iff : Lists history none strategyId es ↔
    Lists history (some (ofStrategy history strategyId).length) strategyId es := by
  constructor
  · rintro ⟨hknown, hlength, hnewest, hturn, hothers⟩
    exact ⟨hknown, by simpa using hlength, hnewest, hturn, hothers⟩
  · rintro ⟨hknown, hlength, hnewest, hturn, hothers⟩
    exact ⟨hknown, by simpa using hlength, hnewest, hturn, hothers⟩

/-! ### One listing only -/

/-- A list is known from the start times in it and from its executions of each start time. -/
lemma eq_of_startedAt_eq (htimes : es.map (fun e => e.startedAt) = es'.map fun e => e.startedAt)
    (hsame : ∀ t, startedAt t es = startedAt t es') : es = es' := by
  induction es generalizing es' with
  | nil => exact (List.map_eq_nil_iff.mp htimes.symm).symm
  | cons e es ih =>
    cases es' with
    | nil => cases htimes
    | cons e' es' =>
      obtain ⟨htime, htail⟩ := List.cons.inj htimes
      obtain rfl : e = e' := by
        have hfirst := hsame e.startedAt
        unfold startedAt at hfirst
        rw [List.filter_cons_of_pos (by simp), List.filter_cons_of_pos (by simp [htime])] at hfirst
        exact (List.cons.inj hfirst).1
      refine congrArg (e :: ·) (ih htail fun t => ?_)
      have hrest := hsame t
      unfold startedAt at hrest ⊢
      by_cases ht : e.startedAt = t
      · rw [List.filter_cons_of_pos (by simpa using ht),
          List.filter_cons_of_pos (by simpa using ht)] at hrest
        exact (List.cons.inj hrest).2
      · rwa [List.filter_cons_of_neg (by simpa using ht),
          List.filter_cons_of_neg (by simpa using ht)] at hrest

namespace Lists

/-- The start times of a listing are the latest ones, in order. -/
lemma times_eq (h : Lists history limit strategyId es) :
    es.map (fun e => e.startedAt) =
      (((ofStrategy history strategyId).mergeSort Storage.newerFirst).map
        fun e => e.startedAt).take es.length := by
  obtain ⟨rest, hperm, hlater⟩ := h.others
  have hrest := List.mergeSort_perm rest Storage.newerFirst
  have hsorted : (es ++ rest.mergeSort Storage.newerFirst).Pairwise fun a b =>
      b.startedAt.le a.startedAt = true :=
    List.pairwise_append.mpr ⟨h.newest, pairwise_mergeSort_newerFirst rest,
      fun e he e' he' => hlater e he e' (hrest.mem_iff.mp he')⟩
  have hperm' : (es ++ rest.mergeSort Storage.newerFirst).Perm
      ((ofStrategy history strategyId).mergeSort Storage.newerFirst) :=
    ((hrest.append_left es).trans hperm).trans
      (List.mergeSort_perm (ofStrategy history strategyId) Storage.newerFirst).symm
  have heq := (hperm'.map fun e => e.startedAt).eq_of_pairwise
    (fun _ _ _ _ hab hba => Instant.le_antisymm hba hab)
    (List.pairwise_map.mpr hsorted)
    (List.pairwise_map.mpr (pairwise_mergeSort_newerFirst (ofStrategy history strategyId)))
  rw [← heq, List.map_append, List.take_left' (List.length_map _)]

/-- There is one listing only. -/
lemma unique (h : Lists history limit strategyId es) (h' : Lists history limit strategyId es') :
    es = es' := by
  have htimes : es.map (fun e => e.startedAt) = es'.map fun e => e.startedAt := by
    rw [h.times_eq, h'.times_eq, h.length, h'.length]
  refine eq_of_startedAt_eq htimes fun t => ?_
  -- both are first executions of this start time, and as many
  have hlength (es : List Execution) :
      (startedAt t es).length = (es.map fun e => e.startedAt).countP fun t' => t' = t := by
    rw [startedAt, ← List.countP_eq_length_filter, List.countP_map]
    rfl
  exact List.IsPrefix.eq_of_length (List.prefix_of_prefix_length_le (h.inTurn t) (h'.inTurn t)
    (by rw [hlength, hlength, htimes])) (by rw [hlength, hlength, htimes])

end Lists

/-- What a runner lists is the one listing of its memory: executions of the strategy, so many or all
of them, the newest first and those of one start time in the order of the memory, and none of the
others started later than any of them.  With a limit it is the beginning of what it is without one,
and of what it is with a larger one.  The runner is only asked: there is no other runner after
it. -/
theorem executionHistory_eq_iff (r : Runner) (limit : Option Nat) (strategyId : Option String) :
    (∀ es, r.executionHistory limit strategyId = es ↔ Lists r.history limit strategyId es) ∧
      r.executionHistory limit strategyId <+: r.executionHistory none strategyId ∧
      ∀ n m, n ≤ m →
        r.executionHistory (some n) strategyId <+: r.executionHistory (some m) strategyId := by
  have hlists : Lists r.history limit strategyId (r.executionHistory limit strategyId) := by
    rw [executionHistory_eq]
    cases limit with
    | some n => exact lists_take r.history strategyId n
    | none =>
      have hall := lists_take r.history strategyId (ofStrategy r.history strategyId).length
      rw [List.take_of_length_le (Nat.le_of_eq (List.length_mergeSort _))] at hall
      exact lists_none_iff.mpr hall
  refine ⟨fun es => ⟨fun heq => heq ▸ hlists, hlists.unique⟩, ?_, fun n m hle => ?_⟩
  · rw [executionHistory_eq, executionHistory_eq]
    cases limit with
    | none => exact List.prefix_refl _
    | some n => exact List.take_prefix _ _
  · rw [executionHistory_eq, executionHistory_eq]
    exact List.take_isPrefix_take.mpr (Or.inl hle)

/-- Of two executions that started at the same time the one that is remembered first is listed. -/
example :
    let e (id : String) (seconds : Int) : Execution := .start ⟨seconds, 0⟩ id "smoke"
    ((Runner.mk default default [e "a" 1, e "b" 2, e "c" 2] none).executionHistory (some 1)
      (some "smoke")).map (fun e => e.id) = ["b"] := by
  cbv

end Runner

end Retrial
