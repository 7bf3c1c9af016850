import Retrial.Proofs.Run.Feedback
import Retrial.Proofs.Run.Findings
import Retrial.Proofs.Run.Occurrences

/-!
# Cases that fail for good

A case fails at every attempt with a failure of one pattern, which is known and has a policy of `r`
retries.  Two budgets are then used up side by side: attempts up to the number `r` are granted a
retry, and later ones are healed while the settings allow an attempt more and the healer helps.  So
all retries come before all fixes, and how many attempts there are follows from the two budgets
alone (`Exhausts`).

The store moves all the while: every attempt counts an occurrence and every retry an outcome.  But a
pattern keeps its id and a policy its retries and delays, so what the store answers to the case does
not change in what matters (`World.Knows.logAlone`).
-/

namespace Retrial

/-! ### Answers about a known pattern -/

/-- Policies that grow delay alike. -/
lemma RetryPolicy.Grows.delay_eq {q q' : RetryPolicy} (h : q.Grows q') (n : Nat) :
    q'.delay n = q.delay n := by
  rw [RetryPolicy.delay, RetryPolicy.delay, h.backoff, h.baseDelayMs, h.maxDelayMs]

/-- An exchange about failures of the pattern id `id` finds a pattern that names the id `pid`, and
one about the policy under `pid` finds what the policy `q` has become. -/
def Exchange.Knows (id pid : String) (q : RetryPolicy) : Exchange → Prop
  | ⟨.detect f, found⟩ => f.patternId = id → Option.map Pattern.patternId found = some pid
  | ⟨.policy id', policy⟩ => id' = pid → q.Grows policy
  | _ => True

/-- A log in which all attempts fail with failures of the pattern id `id`, which is known. -/
structure Relapses (id pid : String) (q : RetryPolicy) (log : List Exchange) : Prop where
  fails : ∀ outcome ∈ log.filterMap Exchange.outcome?,
    ∃ f, outcome = .error f ∧ f.patternId = id
  knows : ∀ e ∈ log, e.Knows id pid q

/-- So do the attempts of a part of the log. -/
lemma Relapses.mono {id pid : String} {q : RetryPolicy} {log log' : List Exchange}
    (h : Relapses id pid q log) (hsub : log' ⊆ log) : Relapses id pid q log' where
  fails := fun outcome ho => h.fails outcome (List.filterMap_subset _ hsub ho)
  knows := fun e he => h.knows e (hsub he)

namespace Executor

variable {x : Executor} {c : Case} {a n : Nat} {awaiting : Option String}
  {log round decided found : List Exchange} {outcome : Except Failure Unit} {f : Failure}
  {turn : Turn} {res : Result} {id pid : String} {q : RetryPolicy} {rs : List (List Exchange)}

/-- Where the pattern is known, a retry is refused only when the retries of its policy are spent. -/
lemma Ungranted.lt_of_knows (h : Ungranted a f found) (hf : f.patternId = id)
    (hknows : ∀ e ∈ found, e.Knows id pid q) : q.maxRetries.toNat < a := by
  cases h with
  | unknown => cases hknows _ List.mem_cons_self hf
  | spent p policy hn =>
    have hp : p.patternId = pid := Option.some.inj (hknows _ List.mem_cons_self hf)
    have hgrows : q.Grows policy := hknows _ (List.mem_cons_of_mem _ List.mem_cons_self) hp
    rw [← hgrows.maxRetries]
    exact not_le.mp hn

/-- A decision on a failure of the known pattern: a retry after the delay of its policy while the
policy has retries, and none from then on. -/
lemma Decided.of_knows (h : Decided x c a (.error f) decided turn) (hf : f.patternId = id)
    (hknows : ∀ e ∈ decided, e.Knows id pid q) :
    (a ≤ q.maxRetries.toNat ∧ turn = .retried pid ∧
      decided.filterMap Exchange.pause? = [q.delay a]) ∨
    (q.maxRetries.toNat < a ∧ turn.granter? = none ∧
      decided.filterMap Exchange.pause? = []) := by
  cases h with
  | retried _ p policy hp =>
    have hid : p.patternId = pid := Option.some.inj (hknows _ List.mem_cons_self hf)
    have hgrows : q.Grows policy := hknows _ (List.mem_cons_of_mem _ List.mem_cons_self) hid
    refine .inl ⟨hgrows.maxRetries ▸ hp, congrArg _ hid, ?_⟩
    rw [← hgrows.delay_eq]
    rfl
  | healed hu hm reply fix hx =>
    refine .inr ⟨hu.lt_of_knows hf fun e he => hknows e (List.mem_append_left _ he), rfl, ?_⟩
    cases hu <;> rfl
  | failed hu hh now p =>
    refine .inr ⟨hu.lt_of_knows hf fun e he => hknows e ?_, rfl, ?_⟩
    · exact List.mem_append_left _ (List.mem_append_left _ he)
    · cases hu <;> cases hh <;> rfl

/-- A round of a case that fails with the known pattern fails with it, and is granted a retry while
there are retries. -/
lemma Round.of_relapses (h : Round x c a awaiting round outcome turn)
    (hr : Relapses id pid q round) :
    ∃ f, outcome = .error f ∧ f.patternId = id ∧
      ((a ≤ q.maxRetries.toNat ∧ turn = .retried pid ∧
        round.filterMap Exchange.pause? = [q.delay a]) ∨
      (q.maxRetries.toNat < a ∧ turn.granter? = none ∧
        round.filterMap Exchange.pause? = [])) := by
  obtain ⟨f, rfl, hf⟩ := hr.fails outcome (by rw [h.outcomes_eq]; exact List.mem_cons_self)
  obtain ⟨ha, hd⟩ := h
  rw [sees_pause?.filterMap_decided ha.allOf (allOf_feedbackLog _ _)]
  exact ⟨f, rfl, hf, hd.of_knows hf fun e he => hr.knows e (List.mem_append_right _ he)⟩

namespace Rounds

/-- There are as many rounds as the rule says by which they go on. -/
lemma length_eq {N : Nat} (h : Rounds x c n awaiting rs) (hN : n < N)
    (hgoesOn : ∀ {a awaiting round outcome turn}, round ∈ rs →
      Round x c a awaiting round outcome turn → (turn.goesOn = true ↔ a < N)) :
    n + rs.length = N := by
  -- All rounds but the last one go on, so the last one is the first that the rule stops.
  induction h with
  | @last n awaiting round outcome turn hround ht =>
    have hlast := hgoesOn List.mem_cons_self hround
    rw [ht] at hlast
    rw [List.length_singleton]
    have hnot : ¬n + 1 < N := fun hlt => by cases hlast.mpr hlt
    omega
  | @more n awaiting round rest outcome turn hround ht hr ih =>
    have hlt := (hgoesOn List.mem_cons_self hround).mp ht
    have hrest := ih hlt fun hmem => hgoesOn (List.mem_cons_of_mem _ hmem)
    rw [List.length_cons]
    omega

/-- Every attempt fails with a failure of the pattern id. -/
lemma failures_eq (h : Rounds x c n awaiting rs) (hr : Relapses id pid q rs.flatten) :
    (failuresIn rs.flatten).map Failure.patternId = List.replicate rs.length id := by
  have hone : ∀ {a awaiting round outcome turn}, Round x c a awaiting round outcome turn →
      Relapses id pid q round → (failuresIn round).map Failure.patternId = [id] := by
    intro a awaiting round outcome turn hround hr
    obtain ⟨f, rfl, rfl, -⟩ := hround.of_relapses hr
    rw [hround.failures_eq]
    rfl
  induction h with
  | last hround ht =>
    rw [List.flatten_singleton] at hr ⊢
    exact hone hround hr
  | more hround ht _ ih =>
    rw [List.flatten_cons] at hr ⊢
    rw [failuresIn_append, List.map_append, hone hround (hr.mono (List.subset_append_left _ _)),
      ih (hr.mono (List.subset_append_right _ _))]
    rfl

end Rounds

/-! ### Whole runs -/

/-- A case that was loaded has rounds, and its result counts them. -/
lemma Executed.rounds_of_loaded (h : Executed x c log res) (hl : Loaded c log) :
    Rounds x c 0 none (roundsIn log) ∧ res.attempts = (roundsIn log).length := by
  rcases h.loaded_cases with ⟨start, rest, rfl, hr⟩ | ⟨hnot, -⟩
  · refine ⟨hr.rounds, ?_⟩
    rw [hr.attempts_eq, length_roundsIn]
    simp [Request.isBuild]
  · exact absurd hl hnot

/-- The rounds of a log are parts of it. -/
lemma flatten_roundsIn_subset (log : List Exchange) : (roundsIn log).flatten ⊆ log := by
  rw [flatten_roundsIn]
  exact (List.dropWhile_sublist _).subset

/-- So is each of them. -/
lemma subset_of_mem_roundsIn (h : round ∈ roundsIn log) : round ⊆ log :=
  List.Subset.trans (List.sublist_flatten_of_mem h).subset (flatten_roundsIn_subset log)

/-- A case has as many attempts as the rule says by which its rounds go on. -/
lemma Executed.attempts_eq {N : Nat} (h : Executed x c log res) (hl : Loaded c log) (hN : 0 < N)
    (hgoesOn : ∀ {a awaiting round outcome turn}, round ⊆ log →
      Round x c a awaiting round outcome turn → (turn.goesOn = true ↔ a < N)) :
    res.attempts = N := by
  obtain ⟨hrounds, hattempts⟩ := h.rounds_of_loaded hl
  have hlength := hrounds.length_eq hN fun hmem => hgoesOn (subset_of_mem_roundsIn hmem)
  omega

end Executor

/-! ### Running alone -/

namespace World

variable {α β : Type} {others : Collaborators β} {w : World β} {b : Batch (World β)}
  {id pid : String} {p : Pattern} {q : RetryPolicy}

/-- The store knows a pattern under `id`, which names the id `pid`, and under `pid` what the policy
`q` has become. -/
structure Knows (id pid : String) (q : RetryPolicy) (w : World β) : Prop where
  pattern : ∃ p, w.store.book.patterns.get? id = some p ∧ p.patternId = pid
  policy : ∃ q', w.store.book.policies.get? pid = some q' ∧ q.Grows q'

/-- Requests leave the store with what it knows. -/
lemma Knows.respond (h : b.world.Knows id pid q) (request : Request) :
    ((surroundings others).respond 0 request b).2.world.Knows id pid q := by
  obtain ⟨⟨p, hp, hid⟩, q', hq', hgrows⟩ := h
  have hbook := book_respond others 0 request b
  obtain ⟨p', hp', hgrows', -⟩ := PatternStore.exists_patterns_enterAll hp
    (request.call? b.world.now.1).toList
  obtain ⟨q'', hq'', hgrows'', -⟩ := PatternStore.exists_policies_enterAll hq'
    (request.call? b.world.now.1).toList
  rw [← hbook] at hp' hq''
  exact ⟨⟨p', hp', hgrows'.patternId.trans hid⟩, q'', hq'', hgrows.trans hgrows''⟩

/-- What is asked about the pattern is answered by what the store knows. -/
lemma Knows.reply (h : b.world.Knows id pid q) {request : Request} {ms : Nat}
    {r : request.Reply} {b' : Batch (World β)}
    (hr : (surroundings others).respond 0 request b = (.reply ms r, b')) :
    Exchange.Knows id pid q ⟨request, r⟩ := by
  obtain ⟨⟨p, hp, hid⟩, q', hq', hgrows⟩ := h
  cases request with
  | detect f =>
    intro hf
    have hfound : r = (b.world.store.detect b.world.now.1 f.message f.trace b.world.disk).1 := by
      cases hr
      rfl
    rw [hfound, PatternStore.detect_fst, PatternBook.detect_fst, ← Failure.patternId, hf, hp]
    exact congrArg some hid
  | policy id' =>
    intro hid'
    have hnamed : r = b.world.store.book.policy id' := by
      cases hr
      rfl
    rw [hnamed, PatternBook.policy, hid', hq']
    exact hgrows
  | _ => trivial

/-- Whatever is asked along a run is answered by what the store knew at first. -/
lemma Knows.logAlone (h : b.world.Knows id pid q) (proc : Proc α) :
    ∀ e ∈ (surroundings others).logAlone proc b, e.Knows id pid q := by
  refine Surroundings.forall_mem_logAlone (I := Knows id pid q) ?_ proc b h
  intro request b b' ms r hb hr
  have hb' : ((surroundings others).respond 0 request b).2.world.Knows id pid q :=
    hb.respond request
  rw [hr] at hb'
  exact ⟨hb.reply hr, hb'.pattern, hb'.policy⟩

end World

namespace Executor

open Proc (Trace)

variable {β : Type} {x : Executor} {c : Case} {others : Collaborators β} {b : Batch (World β)}

end Executor

end Retrial
