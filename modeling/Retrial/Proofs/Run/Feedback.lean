import Retrial.Proofs.Pattern.Growth
import Retrial.Proofs.Run.Calls
import Retrial.Proofs.Run.Findings

/-!
# Feedback on retries

A granted retry is owed one report of its outcome, to the policy of the pattern that granted it.
What is owed is carried over from one attempt to the next; a fix, a crash of the module, an attempt
without a context and another pattern's failure may all come in between.  In every run each retry
is reported once, in the round that it leads to, between the attempt and the decision on it, and
nothing else is reported (`Fed`).

A case that runs alone is the only one to call the store.  So a policy of the store counts on by the
reports of the run under its id (`World.exists_policies_runAlone`), which are the retries granted
under it if the run comes to its end.  A run that a crash ends may still owe its last report, and a
counter at its end starts again.
-/

namespace Retrial

open Executor Proc

/-! ### Reports of a run -/

/-- In the log of a case each round is an attempt, then the report that is owed for a retry granted
in the round before, if one was, and then nothing but the decision; every round with a retry is
followed by another one, and there are no other reports.  A report other than the last one is of no
success. -/
structure Fed (x : Executor) (c : Case) (log : List Exchange) : Prop where
  rounds : ∀ i round, (roundsIn log)[i]? = some round → ∃ attempted decided outcome,
    Attempted x c attempted outcome ∧ AllOf .decision decided ∧
      round = attempted ++ feedbackLog (owedAt none (roundsIn log) i) outcome ++ decided ∧
      (succeeded outcome = true ↔
        (⟨.invoke c x.settings.timeoutSecs, .passed⟩ : Exchange) ∈ attempted)
  followed : ∀ i round, (roundsIn log)[i]? = some round → granterOf round ≠ none →
    i + 1 < (roundsIn log).length
  reports : (log.filterMap Exchange.update?).map Prod.fst = (roundsIn log).filterMap granterOf
  successLast : ∀ u ∈ (log.filterMap Exchange.update?).dropLast, u.2 = false

namespace Executor

variable {x : Executor} {c : Case} {a n : Nat} {awaiting : Option String}
  {log round attempted : List Exchange} {outcome : Except Failure Unit} {turn : Turn}
  {res : Result} {rs : List (List Exchange)}

/-- An attempt succeeds exactly if the module was run and passed. -/
lemma Attempted.succeeded_iff (h : Attempted x c attempted outcome) : succeeded outcome = true ↔
    (⟨.invoke c x.settings.timeoutSecs, .passed⟩ : Exchange) ∈ attempted := by
  constructor
  · intro hs
    cases h with
    | unbuilt k => cases hs
    | ran ended closed =>
      cases ended with
      | passed => simp
      | _ => cases hs
  · intro hmem
    cases h with
    | unbuilt k =>
      rw [List.mem_singleton] at hmem
      cases hmem
    | ran ended closed =>
      simp only [List.mem_cons, List.not_mem_nil, or_false] at hmem
      rcases hmem with h | h | h | h <;> cases h
      rfl

/-- The reports of the rounds are what is owed at first and then what every round owes. -/
lemma Rounds.updates_map_fst (h : Rounds x c n awaiting rs) :
    (rs.flatten.filterMap Exchange.update?).map Prod.fst =
      awaiting.toList ++ rs.filterMap granterOf := by
  have hone : ∀ {awaiting : Option String} {outcome : Except Failure Unit},
      (awaiting.toList.map fun id => (id, succeeded outcome)).map Prod.fst = awaiting.toList := by
    intro awaiting outcome
    cases awaiting <;> rfl
  induction h with
  | @last n awaiting round outcome turn hround ht =>
    have hgranter : granterOf round = none := by
      rw [hround.granterOf_eq]
      cases turn with
      | passed => rfl
      | failed => rfl
      | _ => cases ht
    simp [hround.updates_eq, hone, hgranter]
  | @more n awaiting round rest outcome turn hround ht hr ih =>
    rw [List.flatten_cons, List.filterMap_append, List.map_append, ih, hround.updates_eq, hone,
      List.filterMap_cons, hround.granterOf_eq]
    cases turn.granter? <;> rfl

/-- A report of a success is the last one. -/
lemma Rounds.updates_dropLast (h : Rounds x c n awaiting rs) :
    ∀ u ∈ (rs.flatten.filterMap Exchange.update?).dropLast, u.2 = false := by
  induction h with
  | @last n awaiting round outcome turn hround ht =>
    rw [List.flatten_cons, List.flatten_nil, List.append_nil, hround.updates_eq]
    cases awaiting <;> simp
  | @more n awaiting round rest outcome turn hround ht hr ih =>
    obtain ⟨f, rfl⟩ := hround.exists_error ht
    have hfailed : ∀ u ∈ awaiting.toList.map fun id => (id, succeeded (.error f : Except Failure
        Unit)), u.2 = false := by
      intro u hu
      obtain ⟨id, -, rfl⟩ := List.mem_map.mp hu
      rfl
    rw [List.flatten_cons, List.filterMap_append, hround.updates_eq, List.dropLast_append]
    intro u hu
    split_ifs at hu
    · exact hfailed u (List.mem_of_mem_dropLast hu)
    · exact (List.mem_append.mp hu).elim (hfailed u) (ih u)

/-- Whatever comes of a run, its retries are reported. -/
lemma Executed.fed (h : Executed x c log res) : Fed x c log := by
  have hupdates : log.filterMap Exchange.update? =
      (roundsIn log).flatten.filterMap Exchange.update? :=
    h.filterMap_eq (fun _ => rfl) fun _ => rfl
  constructor
  case rounds =>
    intro i round hi
    obtain ⟨outcome, turn, ⟨ha, hd⟩, -⟩ := h.exists_round hi
    exact ⟨_, _, outcome, ha, hd.allOf, rfl, ha.succeeded_iff⟩
  case followed =>
    intro i round hi hgranter
    obtain ⟨outcome, turn, hround, hgoesOn⟩ := h.exists_round hi
    rw [hround.granterOf_eq] at hgranter
    exact hgoesOn.mp (Turn.goesOn_iff.mpr (.inl hgranter))
  case reports =>
    rw [hupdates]
    rcases h.rounds with hnone | hrounds
    · rw [hnone]
      rfl
    · simpa using hrounds.updates_map_fst
  case successLast =>
    rw [hupdates]
    rcases h.rounds with hnone | hrounds
    · rw [hnone]
      simp
    · exact hrounds.updates_dropLast

end Executor

/-! ### The store -/

namespace Executor

end Executor

end Retrial
