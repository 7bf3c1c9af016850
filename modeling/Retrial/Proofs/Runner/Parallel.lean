import Retrial.Proofs.Pool.Isolation
import Retrial.Runner

/-!
# Runs on several workers agree with the sequential run

If no two cases of different services fail with failures of the same pattern in the sequential run,
every pattern is owned by one service.  Then each service sees in the sequential run what it sees in
its reference, and in a run of the machine its task follows the same reference.  So whatever the
schedule is, every case gets the verdict that it gets when the cases are run one after another, the
execution has the same status and summary, and the pattern books that are left are the same but for
the times at which patterns were last seen (`agrees_of_keepsApart`).

The book has to be consistent at the start.  A pattern kept under another id than it names sends the
service that meets it to the policy of a foreign pattern.  And there have to be permits for the
workers.
-/

namespace Retrial

open Pool Surroundings

variable {γ δ : Type} {l : Local γ δ} {owner : String → String} {x : Executor} {cases : List Case}
  {w : World ((String → γ) × δ)} {k : Nat}

/-- The failures of the attempts when cases are run one after another, each with its case. -/
def Local.failures (l : Local γ δ) (x : Executor) (cases : List Case)
    (w : World ((String → γ) × δ)) : List (Case × Failure) :=
  ((World.surroundings l.collaborators).logAlone (x.batch cases) ⟨w, []⟩).filterMap
    Exchange.failed?

/-- No two cases of different services fail with failures of the same pattern, when they are run one
after another. -/
def Local.KeepsApart (l : Local γ δ) (x : Executor) (cases : List Case)
    (w : World ((String → γ) × δ)) : Prop :=
  ∀ e ∈ l.failures x cases w, ∀ e' ∈ l.failures x cases w, e.1.service ≠ e'.1.service →
    e.2.patternId ≠ e'.2.patternId

instance (l : Local γ δ) (x : Executor) (cases : List Case) (w : World ((String → γ) × δ)) :
    Decidable (l.KeepsApart x cases w) :=
  inferInstanceAs (Decidable (∀ e ∈ l.failures x cases w, ∀ e' ∈ l.failures x cases w, _))

/-- An attempt of a case may end with a failure, whatever is kept for its service. -/
def Local.MayFail (l : Local γ δ) (limitSecs : Option Nat) (c : Case) (f : Failure) : Prop :=
  (∃ g crash, (l.build c g).1 = .error crash ∧ f = setupFailure crash) ∨
    ∃ g, (l.ending limitSecs c g).2.outcome limitSecs = .error f

/-- Cases that are kept apart make every pattern that of one service. -/
lemma Local.KeepsApart.exists_owner (h : l.KeepsApart x cases w) :
    ∃ owner : String → String, OwnsFailures owner
      ((World.surroundings l.collaborators).logAlone (x.batch cases) ⟨w, []⟩) := by
  classical
  refine ⟨fun id =>
    if hid : ∃ e ∈ l.failures x cases w, e.2.patternId = id then hid.choose.1.service else "",
    fun e he => ?_⟩
  have hid : ∃ e' ∈ l.failures x cases w, e'.2.patternId = e.2.patternId := ⟨e, he, rfl⟩
  obtain ⟨hmem, heq⟩ := hid.choose_spec
  simp only [dif_pos hid]
  by_contra hne
  exact h _ hmem e he hne heq

/-! ### The sequential run -/

/-- The verdicts on the cases of a service, in the order of the cases. -/
def verdictsFor (svc : String) (cases : List Case) (rs : List Result) : List Verdict :=
  ((cases.zip rs).filter fun e => e.1.service == svc).map fun e => e.2.verdict

/-- The sequential run gives every case a result, and to every service it is as its reference, which
stays within the service. -/
lemma exists_sequential (hw : w.store.book.Consistent)
    (hown : OwnsFailures owner
      ((World.surroundings l.collaborators).logAlone (x.batch cases) ⟨w, []⟩)) :
    ∃ b, (World.surroundings l.collaborators).runAlone (x.batch cases) ⟨w, []⟩ = (.ok (), b) ∧
      List.Forall₂ x.Returns cases (b.received.map fun e => e.2) ∧
      ∀ svc, Similar owner svc b.world (reference l (x.withWorkers k) cases w svc).2.world ∧
        verdictsFor svc cases (b.received.map fun e => e.2) =
          verdictsOf (reference l (x.withWorkers k) cases w svc).2.received ∧
        StaysWithin l owner (x.withWorkers k) cases w svc := by
  have hservice := fun svc => runAlone_batch_similar (k := k) ⟨w, []⟩ ⟨w, []⟩ svc hown
    (.refl owner svc hw)
  obtain ⟨b, -, -, -, hrun, -⟩ := hservice ""
  refine ⟨b, hrun, ?_, fun svc => ?_⟩
  · have hnone : ∀ k, ¬Escapes (World.surroundings l.collaborators) x cases ⟨w, []⟩ k := by
      intro k hk
      cases (congrArg Prod.fst hrun).symm.trans (runAlone_batch_error_iff.mpr hk)
    obtain ⟨-, rs, hrs, hreturns⟩ := runAlone_batch_ok hnone
    rw [hrun, List.nil_append] at hrs
    have hsnd : (b.received.map fun e => e.2) = rs := by
      rw [hrs, List.map_map]
      exact List.map_id rs
    exact hsnd ▸ hreturns
  · obtain ⟨b', c, new, newc, hrun', href, hsim, hnew, hnewc, -, hverdict, hin⟩ := hservice svc
    obtain rfl : b = b' := congrArg Prod.snd (hrun.symm.trans hrun')
    rw [List.nil_append] at hnew hnewc
    rw [show reference l (x.withWorkers k) cases w svc = _ from href]
    refine ⟨hsim, ?_, hin⟩
    rw [← hnew] at hverdict
    rw [verdictsFor, verdictsOf, hnewc, ← hverdict, List.zip_map_right, List.filter_map,
      List.map_map]
    rfl

/-! ### Agreement -/

/-- The results of a run by service groups, each with the number of its group, and the book that it
leaves agree with the results of a sequential run of the cases and the book that this one leaves. -/
structure Agrees (cases : List Case) (rs : List Result) (book : PatternBook)
    (received : List (Nat × Result)) (book' : PatternBook) : Prop where
  /-- In both runs every case has the same verdict. -/
  verdicts : ∀ i g, (ServiceGroup.ofCases cases)[i]? = some g →
    (resultsOf i received).map Result.verdict = verdictsFor g.service cases rs
  /-- There are no other verdicts. -/
  perm : ((received.map fun e => e.2).map Result.verdict).Perm (rs.map Result.verdict)
  /-- An execution that is completed with the results of either has the same status and summary. -/
  execution : ∀ (e : Execution) (now now' : Time.Instant),
    (e.complete now (received.map fun e => e.2)).status = (e.complete now' rs).status ∧
      (e.complete now (received.map fun e => e.2)).summary = (e.complete now' rs).summary
  /-- The same patterns and policies are left, up to when patterns were last seen. -/
  book : book'.AgreesOn Set.univ book

/-- Results by service groups have the same verdicts as sequential ones if those of each group
have. -/
lemma perm_verdicts {rs : List Result} {received : List (Nat × Result)}
    (hlen : rs.length = cases.length)
    (hnum : ∀ e ∈ received, e.1 < (ServiceGroup.ofCases cases).length)
    (h : ∀ i g, (ServiceGroup.ofCases cases)[i]? = some g →
      (resultsOf i received).map Result.verdict = verdictsFor g.service cases rs) :
    ((received.map fun e => e.2).map Result.verdict).Perm (rs.map Result.verdict) := by
  have hsorted := ServiceGroup.sorted_ofCases cases
  have hgroups := (perm_flatMap_resultsOf hnum).symm.map Result.verdict
  rw [List.map_flatMap, flatMap_range_length h] at hgroups
  -- The groups together are all cases with their results.
  have hall := (perm_flatMap_filter (fun e : Case × Result => e.1.service) hsorted.nodup
    (l := cases.zip rs) fun e he => hsorted.covers e.1 (List.of_mem_zip he).1).map
      fun e => e.2.verdict
  rw [List.map_flatMap, List.flatMap_map] at hall
  have hzip : (cases.zip rs).map (fun e => e.2.verdict) = rs.map Result.verdict := by
    have hsnd := congrArg (List.map Result.verdict) (List.map_snd_zip hlen.le)
    rwa [List.map_map] at hsnd
  exact hgroups.trans (hzip ▸ hall)

/-- Every finished state of the machine agrees with the sequential run. -/
lemma agrees_of_finished {y : Executor} {b : Batch (World ((String → γ) × δ))}
    (hw : w.store.book.Consistent)
    (hlen : (b.received.map fun e => e.2).length = cases.length)
    (hb : ∀ svc, Similar owner svc b.world (reference l y cases w svc).2.world ∧
      verdictsFor svc cases (b.received.map fun e => e.2) =
        verdictsOf (reference l y cases w svc).2.received ∧
      StaysWithin l owner y cases w svc)
    {bound : Nat} {label : Nat → String} {st : State (World ((String → γ) × δ))}
    (hreach : Reaches (World.surroundings l.collaborators) bound False
      (start y (ServiceGroup.ofCases cases) w) st) (hf : st.Finished) :
    Agrees cases (b.received.map fun e => e.2) b.world.store.book
      (joined (World.surroundings l.collaborators) label (ServiceGroup.ofCases cases) st).received
      (joined (World.surroundings l.collaborators) label
        (ServiceGroup.ofCases cases) st).world.store.book := by
  have hinv := Invariant.reaches hreach
  have hover := fun svc => (follows_reaches hw (fun svc => (hb svc).2.2) hreach
    svc).of_finished hf
  have hjoined : joined (World.surroundings l.collaborators) label (ServiceGroup.ofCases cases) st =
      st.batch := by
    refine joined_eq fun i g t hg ht => ?_
    exact Option.some.inj (ht.symm.trans ((hover g.service).2.2 i g hg rfl).1)
  have hverdicts : ∀ i g, (ServiceGroup.ofCases cases)[i]? = some g →
      (resultsOf i st.sent).map Result.verdict =
        verdictsFor g.service cases (b.received.map fun e => e.2) :=
    fun i g hg => ((hover g.service).2.2 i g hg rfl).2.trans (hb g.service).2.1.symm
  have hperm := perm_verdicts hlen hinv.numbered hverdicts
  rw [hjoined, hinv.received_eq hf]
  refine ⟨hverdicts, hperm, fun e now now' => ?_, ?_⟩
  · exact ⟨Status.ofResults_eq_of_perm hperm, Summary.ofResults_eq_of_perm hperm⟩
  · have hsim := fun svc => (hover svc).1.trans (hb svc).1.symm
    exact ⟨fun id _ => (hsim (owner id)).book.patterns id rfl,
      fun id _ => (hsim (owner id)).book.policies id rfl⟩

namespace Runner

/-- The runner with another number of workers. -/
def withWorkers (r : Runner) (n : Nat) : Runner := { r with executor := r.executor.withWorkers n }

/-- If the cases of different services do not share patterns and every pattern is kept under the id
that it names, then the sequential run of a batch gives a result for each case, and with any number
of workers for which there are permits every schedule agrees with it.  The pool's own schedule is
one of them. -/
theorem agrees_of_keepsApart (r : Runner) (l : Local γ δ) (label : Nat → String)
    (cases : List Case) {k : Nat} (hk : 1 < k) (hpermits : k ≤ maxPermits)
    (w : World ((String → γ) × δ)) (hw : w.store.book.Consistent)
    (hapart : l.KeepsApart (r.withWorkers 1).executor cases w) :
    let s := World.surroundings l.collaborators
    let groups := ServiceGroup.ofCases cases
    let x := (r.withWorkers k).executor
    ∃ rs w₁, (r.withWorkers 1).runCases l.collaborators label cases w = (.ok rs, w₁) ∧
      List.Forall₂ (fun c r => r.testId = c.id) cases rs ∧
      (∀ st, Reaches s (Pool.bound k) False (start x groups w) st → st.Finished →
        Agrees cases rs w₁.store.book (joined s label groups st).received
          (joined s label groups st).world.store.book) ∧
      ∃ st, Reaches s (Pool.bound k) False (start x groups w) st ∧ st.Finished ∧
        (r.withWorkers k).runCases l.collaborators label cases w =
          (.ok ((joined s label groups st).received.map fun e => e.2),
            (joined s label groups st).world) := by
  intro s groups x
  obtain ⟨owner, hown⟩ := hapart.exists_owner
  obtain ⟨b, hrun, hreturns, hb⟩ := exists_sequential (k := k) hw hown
  have hlen := hreturns.length_eq.symm
  refine ⟨_, _, runCases_of_ok _ _ _ _ rfl hrun, hreturns.imp fun c r h => h.testId_eq,
    fun st hreach hf => agrees_of_finished (y := x) hw hlen hb hreach hf, ?_⟩
  have hbound : Pool.bound k ≤ maxPermits := max_le (by decide) hpermits
  obtain ⟨st, hreach, hf, hjoined⟩ := exists_joined_eq_runGroups s label x hbound groups w False
  have hpar : (r.withWorkers k).executor.settings.isParallel = true := decide_eq_true hk
  exact ⟨st, hreach, hf, runCases_of_runGroups_ok _ _ _ _ hpar hjoined⟩

/-! ### A pattern that is kept under a foreign id -/

/-- The failure of the one service. -/
def serverFailure : Failure := .ofMessage "internal server error"

/-- The failure of the other service. -/
def ledgerFailure : Failure := .ofMessage "ledger out of balance"

/-- Cases of the service `A` always fail, after a hundred seconds; those of any other service fail
four times at once and then pass. -/
def unevenServices : Local Nat Unit where
  load _ n := (.ok (), n)
  build _ n := (.ok (), n)
  invoke c n :=
    if c.service = "A" then ((100000, .failed serverFailure), n)
    else if n < 4 then ((0, .failed ledgerFailure), n + 1)
    else ((0, .passed), n)
  teardown _ n := ((0, .done), n)
  release _ n := n
  heal _ _ n := ((0, .ok none), n)
  progress _ _ o := o

/-- A case of each of two services. -/
def unevenCases : List Case := [⟨"a", "ma", "A", []⟩, ⟨"b", "mb", "B", []⟩]

/-- A runner without a healer, as the settings are when nothing is said. -/
def plainRunner : Runner := .new ⟨.default, false⟩ ⟨⟨""⟩⟩

/-- A world with a book, in which nothing has been asked yet. -/
def freshWorld (b : PatternBook) : World ((String → Nat) × Unit) :=
  ⟨⟨none, b⟩, .empty, 0, default, 0, 0, (fun _ => 0, ())⟩

/-- The book in which the pattern of the one service's failure is kept under the id of the other's.
-/
def foreignBook : PatternBook :=
  ⟨Dict.empty.insert ledgerFailure.patternId
    (.first default serverFailure.patternId .unknown "" "b"), Dict.empty⟩

/-- The book in which the pattern of the other service's failure is known. -/
def ledgerBook : PatternBook :=
  ⟨Dict.empty.insert ledgerFailure.patternId
    (.first default ledgerFailure.patternId .unknown "" "b"), Dict.empty⟩

/-- It keeps the pattern under the id it names. -/
lemma consistent_ledgerBook : ledgerBook.Consistent := by
  intro id p hp
  unfold ledgerBook at hp
  generalize ledgerFailure.patternId = known at hp
  by_cases hid : id = known
  · subst hid
    rw [Dict.get?_insert_self] at hp
    cases hp
    rfl
  · rw [Dict.get?_insert_of_ne _ _ hid] at hp
    cases hp

/-- How often the cases are attempted in the sequential run with each of the books. -/
lemma sequential_unevenServices :
    (((plainRunner.withWorkers 1).runCases unevenServices.collaborators (fun _ => "") unevenCases
        (freshWorld ledgerBook)).1.toOption.map fun rs => rs.map Result.attempts) = some [1, 4] ∧
      (((plainRunner.withWorkers 1).runCases unevenServices.collaborators (fun _ => "") unevenCases
        (freshWorld foreignBook)).1.toOption.map fun rs => rs.map Result.attempts) =
          some [1, 5] := by
  decide +kernel

/-- With a book that knows one of the failures the services do not see each other: the theorem
applies to them. -/
theorem agrees_of_keepsApart_unevenServices :
    1 < 2 ∧ 2 ≤ maxPermits ∧ (freshWorld ledgerBook).store.book.Consistent ∧
      unevenServices.KeepsApart (plainRunner.withWorkers 1).executor unevenCases
        (freshWorld ledgerBook) ∧
      ∃ rs w₁ rs' w₂,
        (plainRunner.withWorkers 1).runCases unevenServices.collaborators (fun _ => "") unevenCases
          (freshWorld ledgerBook) = (.ok rs, w₁) ∧
        (plainRunner.withWorkers 2).runCases unevenServices.collaborators (fun _ => "") unevenCases
          (freshWorld ledgerBook) = (.ok rs', w₂) ∧
        rs.map Result.attempts = [1, 4] ∧
        (rs'.map Result.verdict).Perm (rs.map Result.verdict) ∧
        w₂.store.book.AgreesOn Set.univ w₁.store.book := by
  have hw : (freshWorld ledgerBook).store.book.Consistent := consistent_ledgerBook
  have hapart : unevenServices.KeepsApart (plainRunner.withWorkers 1).executor unevenCases
      (freshWorld ledgerBook) := by
    decide +kernel
  obtain ⟨rs, w₁, hseq, -, hall, st, hreach, hf, hpar⟩ :=
    agrees_of_keepsApart plainRunner unevenServices (fun _ => "") unevenCases (k := 2) (by decide)
      (by decide) (freshWorld ledgerBook) hw hapart
  have hattempts := sequential_unevenServices.1
  rw [hseq, Except.toOption, Option.map_some, Option.some.injEq] at hattempts
  have hagrees := hall st hreach hf
  exact ⟨by decide, by decide, hw, hapart, rs, w₁, _, _, hseq, hpar, hattempts, hagrees.perm,
    hagrees.book⟩

/-- A case of the one service, whatever is kept, fails with another pattern than one of the
other. -/
lemma patternId_ne_of_mayFail {c c' : Case} (hc : c ∈ unevenCases) (hc' : c' ∈ unevenCases)
    (hs : c.service ≠ c'.service) {f f' : Failure}
    (hf : unevenServices.MayFail plainRunner.executor.settings.timeoutSecs c f)
    (hf' : unevenServices.MayFail plainRunner.executor.settings.timeoutSecs c' f') :
    f.patternId ≠ f'.patternId := by
  have hne : serverFailure.patternId ≠ ledgerFailure.patternId := by decide +kernel
  have heq : ∀ {c : Case} {f : Failure},
      unevenServices.MayFail plainRunner.executor.settings.timeoutSecs c f →
      f = if c.service = "A" then serverFailure else ledgerFailure := by
    rintro c f (⟨g, crash, h, -⟩ | ⟨n, h⟩)
    · cases h
    · by_cases hc : c.service = "A"
      · rw [if_pos hc]
        simp only [Local.ending, unevenServices, if_pos hc] at h
        exact (Except.error.inj h).symm
      · rw [if_neg hc]
        simp only [Local.ending, unevenServices, if_neg hc] at h
        split at h
        · exact (Except.error.inj h).symm
        · cases h
  rw [heq hf, heq hf']
  simp only [unevenCases, List.mem_cons, List.not_mem_nil, or_false] at hc hc'
  rcases hc with rfl | rfl <;> rcases hc' with rfl | rfl
  · exact absurd rfl hs
  · exact hne
  · exact hne.symm
  · exact absurd rfl hs

/-- The first six moves of the pool with the foreign pattern. -/
def sixMoves : List Task × Batch (World ((String → Nat) × Unit)) :=
  (move (World.surroundings unevenServices.collaborators) 2)^[6]
    ((ServiceGroup.ofCases unevenCases).map fun g =>
      .waiting ((plainRunner.withWorkers 2).executor.batch g.cases), ⟨freshWorld foreignBook, []⟩)

/-- With the foreign pattern the pool's own schedule attempts the case `a` once and `b` four times,
and reports `b` first. -/
lemma exists_runGroups_foreignBook :
    ∃ b, runGroups (World.surroundings unevenServices.collaborators) (fun _ => "")
        (plainRunner.withWorkers 2).executor 2 (ServiceGroup.ofCases unevenCases)
        ⟨freshWorld foreignBook, []⟩ = .ok b ∧
      (b.received.map fun e => e.2.attempts) = [4, 1] := by
  have hmoves : nextMove 2 sixMoves.1 = none ∧
      ((reportDead (World.surroundings unevenServices.collaborators) (fun _ => "")
        (((ServiceGroup.ofCases unevenCases).zip sixMoves.1).zipIdx.map fun e => (e.2, e.1))
        sixMoves.2).received.map fun e => e.2.attempts) = [4, 1] := by
    decide +kernel
  have hloop : runTasks (World.surroundings unevenServices.collaborators) (Pool.bound 2)
      ((ServiceGroup.ofCases unevenCases).map fun g =>
        .waiting ((plainRunner.withWorkers 2).executor.batch g.cases))
      ⟨freshWorld foreignBook, []⟩ = sixMoves := runTasks_of_iterate_move 6 hmoves.1
  have hgroups := runGroups_of_le (World.surroundings unevenServices.collaborators) (fun _ => "")
    (plainRunner.withWorkers 2).executor (ServiceGroup.ofCases unevenCases)
    ⟨freshWorld foreignBook, []⟩ (show Pool.bound 2 ≤ maxPermits by decide)
  rw [hloop] at hgroups
  exact ⟨_, hgroups, hmoves.2⟩

/-- Neither of two things can be left out, even if cases of different services fail with different
patterns whatever is kept for them.  That every pattern is kept under the id it names: with the
foreign pattern the case `b` is retried as the failure of `A` is, five times if this one has been
recorded before, as in the sequential run, and three times if it has not, as in the pool's own
schedule.  And that there are permits for the workers. -/
theorem not_agrees_of_foreignBook_of_manyWorkers :
    (¬∀ (r : Runner) (l : Local Nat Unit) (label : Nat → String) (cases : List Case) (k : Nat)
      (w : World ((String → Nat) × Unit)), 1 < k → k ≤ maxPermits →
      (∀ c ∈ cases, ∀ c' ∈ cases, c.service ≠ c'.service → ∀ f f',
        l.MayFail r.executor.settings.timeoutSecs c f →
        l.MayFail r.executor.settings.timeoutSecs c' f' → f.patternId ≠ f'.patternId) →
      ∃ rs w₁, (r.withWorkers 1).runCases l.collaborators label cases w = (.ok rs, w₁) ∧
        ∀ st, Reaches (World.surroundings l.collaborators) (Pool.bound k) False
            (start (r.withWorkers k).executor (ServiceGroup.ofCases cases) w) st → st.Finished →
          let b := joined (World.surroundings l.collaborators) label (ServiceGroup.ofCases cases) st
          Agrees cases rs w₁.store.book b.received b.world.store.book) ∧
    ¬∀ (r : Runner) (l : Local Nat Unit) (label : Nat → String) (cases : List Case) (k : Nat)
      (w : World ((String → Nat) × Unit)), 1 < k → w.store.book.Consistent →
      (∀ c ∈ cases, ∀ c' ∈ cases, c.service ≠ c'.service → ∀ f f',
        l.MayFail r.executor.settings.timeoutSecs c f →
        l.MayFail r.executor.settings.timeoutSecs c' f' → f.patternId ≠ f'.patternId) →
      ∃ rs w₁ rs' w₂, (r.withWorkers 1).runCases l.collaborators label cases w = (.ok rs, w₁) ∧
        (r.withWorkers k).runCases l.collaborators label cases w = (.ok rs', w₂) ∧
        rs'.length = rs.length := by
  constructor
  · intro h
    obtain ⟨rs, w₁, hseq, hall⟩ := h plainRunner unevenServices (fun _ => "") unevenCases 2
      (freshWorld foreignBook) (by decide) (by decide)
      fun c hc c' hc' hs f f' => patternId_ne_of_mayFail hc hc' hs
    obtain ⟨st, hreach, hf, hjoined⟩ := exists_joined_eq_runGroups
      (World.surroundings unevenServices.collaborators) (fun _ => "")
      (plainRunner.withWorkers 2).executor (show Pool.bound 2 ≤ maxPermits by decide)
      (ServiceGroup.ofCases unevenCases) (freshWorld foreignBook) False
    obtain ⟨b, hb, hparallel⟩ := exists_runGroups_foreignBook
    have hsequential := sequential_unevenServices.2
    rw [hseq, Except.toOption, Option.map_some, Option.some.injEq] at hsequential
    have hverdicts := ((hall st hreach hf).perm.map Verdict.attempts).sum_eq
    rw [← Except.ok.inj (hb.symm.trans hjoined), List.map_map, List.map_map, List.map_map]
      at hverdicts
    change (b.received.map fun e => e.2.attempts).sum = (rs.map Result.attempts).sum at hverdicts
    rw [hsequential, hparallel] at hverdicts
    cases hverdicts
  · intro h
    obtain ⟨rs, w₁, rs', w₂, -, hpar, -⟩ := h plainRunner unevenServices (fun _ => "") unevenCases
      (2 ^ 61) (freshWorld ledgerBook) (by decide) consistent_ledgerBook
      fun c hc c' hc' hs f f' => patternId_ne_of_mayFail hc hc' hs
    have hcrash := runGroups_of_lt (World.surroundings unevenServices.collaborators) (fun _ => "")
      (plainRunner.withWorkers (2 ^ 61)).executor (ServiceGroup.ofCases unevenCases)
      ⟨freshWorld ledgerBook, []⟩ (show maxPermits < Pool.bound (2 ^ 61) by decide)
    cases hpar.symm.trans (runCases_of_runGroups_error _ _ _ _ rfl hcrash)

end Runner

end Retrial
