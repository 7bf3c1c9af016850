import Retrial.Proofs.Pool.Delivery
import Retrial.Proofs.Run.Isolation

/-!
# Schedules do not matter to services that own their patterns

The *reference* of a service is the run of its cases by themselves, one after another.  In any run
of the machine the task of the service follows its reference, if this stays within the service: at
every point there is a point of the reference from which the rest of the run is alike, in a world
that looks the same to the service, and the results handed in so far have the same verdicts
(`Follows`).  A step of the task itself takes the reference one request further; a step of another
task is nothing that the service sees.  So in the end the verdicts, and the patterns that the
service owns, are those of the reference, whatever the schedule was.
-/

namespace Retrial

namespace Pool

open Surroundings

variable {γ δ : Type} {l : Local γ δ} {owner : String → String}
  {groups : List ServiceGroup} {st st' : State (World ((String → γ) × δ))} {svc : String} {i : Nat}
  {t : Task} {p : Proc Unit}
  {ref : Except Crash Unit × Batch (World ((String → γ) × δ))}

/-- The verdicts of results that have been handed in. -/
def verdictsOf (l : List (Nat × Result)) : List Verdict := l.map fun e => e.2.verdict

/-- The task of a service has come to a point of the reference, or is over as the reference is.  A
service without a group is over from the start. -/
inductive Follows (l : Local γ δ) (owner : String → String) (groups : List ServiceGroup)
    (st : State (World ((String → γ) × δ))) (svc : String)
    (ref : Except Crash Unit × Batch (World ((String → γ) × δ))) : Prop
  | going {i : Nat} {g : ServiceGroup} {t : Task} {p p' : Proc Unit}
      {b : Batch (World ((String → γ) × δ))} (hg : groups[i]? = some g) (hs : g.service = svc)
      (ht : st.tasks[i]? = some t) (hp : t.rest = some p)
      (ha : Alike (fun _ _ => True) p p')
      (hw : Similar owner svc st.batch.world b.world)
      (hin : ∀ e ∈ (World.surroundings l.collaborators).logAlone p' b, e.request.Within owner svc)
      (hv : (resultsOf i st.sent).map Result.verdict = verdictsOf b.received)
      (href : (World.surroundings l.collaborators).runAlone p' b = ref)
  | ended (hw : Similar owner svc st.batch.world ref.2.world) (hok : ref.1 = .ok ())
      (hv : ∀ i g, groups[i]? = some g → g.service = svc →
        st.tasks[i]? = some (.ended none) ∧
          (resultsOf i st.sent).map Result.verdict = verdictsOf ref.2.received)

/-- What a service does not see does not matter to it. -/
lemma Follows.of_similar (h : Follows l owner groups st svc ref)
    (hw : Similar owner svc st'.batch.world st.batch.world)
    (hsame : ∀ i g, groups[i]? = some g → g.service = svc →
      st'.tasks[i]? = st.tasks[i]? ∧ resultsOf i st'.sent = resultsOf i st.sent) :
    Follows l owner groups st' svc ref := by
  cases h with
  | going hg hs ht hp ha hw' hin hv href =>
    obtain ⟨htasks, hresults⟩ := hsame _ _ hg hs
    exact .going hg hs (htasks.trans ht) hp ha (hw.trans hw') hin (hresults ▸ hv) href
  | ended hw' hok hv =>
    refine .ended (hw.trans hw') hok fun i g hg hs => ?_
    obtain ⟨htasks, hresults⟩ := hsame i g hg hs
    rw [htasks, hresults]
    exact hv i g hg hs

/-- Groups at different places have different services. -/
lemma eq_of_service_eq (hnd : (groups.map fun g => g.service).Nodup) {i j : Nat}
    {g g' : ServiceGroup} (hg : groups[i]? = some g) (hg' : groups[j]? = some g')
    (hs : g.service = g'.service) : i = j := by
  have hi : (groups.map fun g => g.service)[i]? = some g.service := by
    rw [List.getElem?_map, hg, Option.map_some]
  have hj : (groups.map fun g => g.service)[j]? = some g.service := by
    rw [List.getElem?_map, hg', Option.map_some, hs]
  have hlt : i < (groups.map fun g => g.service).length := (List.getElem?_eq_some_iff.mp hi).1
  exact (List.getElem?_inj hlt hnd).mp (hi.trans hj.symm)

/-- A task that goes on changes its own place among the tasks, and adds to its own results. -/
lemma exists_shape_advance {σ : Type} (s : Surroundings σ) (i : Nat) (p : Proc Unit)
    (st : State σ) :
    ∃ (t : Task) (rs : List Result), (advance s i p st).tasks = st.tasks.set i t ∧
      (advance s i p st).sent = st.sent ++ rs.map fun r => (i, r) := by
  have h := advanced_advance s i p st
  generalize advance s i p st = st' at h ⊢
  cases h with
  | ended => exact ⟨_, [], rfl, (List.append_nil _).symm⟩
  | sent r next => exact ⟨_, [r], rfl, rfl⟩
  | replied next hq ha => exact ⟨_, [], rfl, (List.append_nil _).symm⟩
  | crashed next hq ha => exact ⟨_, [], rfl, (List.append_nil _).symm⟩

/-- A task that follows a process that stays within its service changes nothing that another service
sees of the world. -/
lemma similar_advance {p' : Proc Unit} {b : Batch (World ((String → γ) × δ))} {svc' : String}
    (ha : Alike (fun _ _ => True) p p')
    (hin : ∀ e ∈ (World.surroundings l.collaborators).logAlone p' b, e.request.Within owner svc)
    (hw : st.batch.world.store.book.Consistent) (hne : svc' ≠ svc) :
    Similar owner svc' (advance (World.surroundings l.collaborators) i p st).batch.world
      st.batch.world := by
  have hadv := advanced_advance (World.surroundings l.collaborators) i p st
  generalize advance (World.surroundings l.collaborators) i p st = st' at hadv ⊢
  cases hadv with
  | ended => exact .refl owner svc' hw
  | sent r next => exact .refl owner svc' hw
  | @replied q _ hq _ _ _ hans =>
    obtain ⟨ms, hreply⟩ := l.exists_answer_eq st.batch.world q
    cases hans.symm.trans hreply
    cases ha with
    | report => exact absurd rfl (hq _)
    | @ask _ _ next' _ _ =>
      obtain ⟨ms', -, hlog⟩ := exists_runAlone_ask (l := l) hq next' b
      rw [hlog, List.forall_mem_cons] at hin
      exact Local.similar_after_of_ne hw hin.1 hne
  | @crashed q _ hq _ _ hans =>
    obtain ⟨ms, hreply⟩ := l.exists_answer_eq st.batch.world q
    cases hans.symm.trans hreply

/-- The task of a service that goes on takes the reference one request further. -/
lemma follows_advance_self (hnd : (groups.map fun g => g.service).Nodup) {g : ServiceGroup}
    (hg : groups[i]? = some g) (hlt : i < st.tasks.length) {p' : Proc Unit}
    {b : Batch (World ((String → γ) × δ))}
    (ha : Alike (fun _ _ => True) p p')
    (hw : Similar owner g.service st.batch.world b.world)
    (hin : ∀ e ∈ (World.surroundings l.collaborators).logAlone p' b,
      e.request.Within owner g.service)
    (hv : (resultsOf i st.sent).map Result.verdict = verdictsOf b.received)
    (href : (World.surroundings l.collaborators).runAlone p' b = ref) :
    Follows l owner groups (advance (World.surroundings l.collaborators) i p st) g.service
      ref := by
  have hset : ∀ t', (st.tasks.set i t')[i]? = some t' := fun t' => List.getElem?_set_self hlt
  have hadv := advanced_advance (World.surroundings l.collaborators) i p st
  generalize advance (World.surroundings l.collaborators) i p st = st' at hadv ⊢
  cases hadv with
  | ended =>
    cases ha with
    | done _ =>
      subst href
      refine .ended hw rfl fun j g' hg' hs => ?_
      obtain rfl := eq_of_service_eq hnd hg' hg hs
      exact ⟨hset _, hv⟩
  | sent r next =>
    cases ha with
    | ask hq _ => exact hq.elim
    | @report _ r' _ next' hr hn =>
      refine .going hg rfl (hset _) rfl hn
        (b := handIn (World.surroundings l.collaborators) r' b) ?_ ?_ ?_ href
      · exact hw.trans (.symm (similar_handIn hw.consistent' r'))
      · exact (List.forall_mem_cons.mp hin).2
      · rw [resultsOf_append, List.map_append, hv]
        simp [verdictsOf, handIn, resultsOf, hr]
  | @replied q next hq _ _ _ hans =>
    obtain ⟨ms, hreply⟩ := l.exists_answer_eq st.batch.world q
    cases hans.symm.trans hreply
    cases ha with
    | report => exact absurd rfl (hq _)
    | @ask _ _ next' _ hn =>
      obtain ⟨ms', hstep, hlog⟩ := exists_runAlone_ask (l := l) hq next' b
      rw [hlog, List.forall_mem_cons] at hin
      have hafter := Local.similar_after (l := l) hw hin.1
      exact .going hg rfl (hset _) rfl
        (hn _ _ (Local.names_reply hw.consistent q) (Local.names_reply hw.consistent' q)
          (Local.reply_same hw hin.1)) (b := asked l q ms' b)
        (hafter.moveTo _ _) hin.2 hv (hstep.symm.trans href)
  | @crashed q _ hq _ _ hans =>
    obtain ⟨ms, hreply⟩ := l.exists_answer_eq st.batch.world q
    cases hans.symm.trans hreply

/-- A task that goes on follows its reference, and nothing has happened to other services. -/
lemma follows_advance (hnd : (groups.map fun g => g.service).Nodup)
    (hlen : st.tasks.length = groups.length) {ref : String → _}
    (h : ∀ svc, Follows l owner groups st svc (ref svc)) (ht : st.tasks[i]? = some t)
    (hp : t.rest = some p) (svc : String) :
    Follows l owner groups (advance (World.surroundings l.collaborators) i p st) svc
      (ref svc) := by
  have hlt : i < st.tasks.length := (List.getElem?_eq_some_iff.mp ht).1
  obtain ⟨g, hg⟩ : ∃ g, groups[i]? = some g := ⟨_, List.getElem?_eq_getElem (hlen ▸ hlt)⟩
  have hfollows := h g.service
  generalize href : ref g.service = reference at hfollows
  cases hfollows with
  | ended hw hok hv =>
    have hover := (hv i g hg rfl).1.symm.trans ht
    cases hover
    cases hp
  | @going j g' t' q p' b hg' hs ht' hp' ha hw hin hv hrun =>
    obtain rfl := eq_of_service_eq hnd hg hg' hs.symm
    obtain rfl : t' = t := Option.some.inj (ht'.symm.trans ht)
    obtain rfl : q = p := Option.some.inj (hp'.symm.trans hp)
    by_cases hsvc : svc = g.service
    · subst hsvc
      exact follows_advance_self hnd hg hlt ha hw hin hv (hrun.trans href.symm)
    · obtain ⟨t'', rs, htasks, hsent⟩ :=
        exists_shape_advance (World.surroundings l.collaborators) i q st
      refine (h svc).of_similar (similar_advance ha hin hw.consistent hsvc) fun j g₂ hg₂ hs₂ => ?_
      have hij : i ≠ j := by
        rintro rfl
        exact hsvc (hs₂.symm.trans (congrArg _ (Option.some.inj (hg₂.symm.trans hg))))
      rw [htasks, hsent, resultsOf_append, resultsOf_numbered_of_ne hij, List.append_nil]
      exact ⟨List.getElem?_set_ne hij, rfl⟩

/-! ### Whole runs -/

variable {x : Executor} {cases : List Case} {w : World ((String → γ) × δ)} {bound : Nat}

/-- The reference of a service: its cases by themselves, one after another. -/
def reference (l : Local γ δ) (x : Executor) (cases : List Case) (w : World ((String → γ) × δ))
    (svc : String) : Except Crash Unit × Batch (World ((String → γ) × δ)) :=
  (World.surroundings l.collaborators).runAlone
    (x.batch (cases.filter fun c => c.service == svc)) ⟨w, []⟩

/-- The reference of a service stays within the service. -/
def StaysWithin (l : Local γ δ) (owner : String → String) (x : Executor) (cases : List Case)
    (w : World ((String → γ) × δ)) (svc : String) : Prop :=
  ∀ e ∈ (World.surroundings l.collaborators).logAlone
    (x.batch (cases.filter fun c => c.service == svc)) ⟨w, []⟩, e.request.Within owner svc

/-- Before the first step every service is at the start of its reference. -/
lemma follows_start (hw : w.store.book.Consistent)
    (hin : StaysWithin l owner x cases w svc) :
    Follows l owner (ServiceGroup.ofCases cases) (start x (ServiceGroup.ofCases cases) w) svc
      (reference l x cases w svc) := by
  have hsorted := ServiceGroup.sorted_ofCases cases
  by_cases h : svc ∈ (ServiceGroup.ofCases cases).map fun g => g.service
  · obtain ⟨g, hmem, rfl⟩ := List.mem_map.mp h
    obtain ⟨i, hg⟩ := List.mem_iff_getElem?.mp hmem
    have htask : (start x (ServiceGroup.ofCases cases) w).tasks[i]? =
        some (.waiting (x.batch g.cases)) := by
      simp [start, hg]
    have halike : Alike (fun _ _ => True)
        (x.batch (cases.filter fun c => c.service == g.service))
        ((x.withWorkers x.settings.workers).batch
          (cases.filter fun c => c.service == g.service)) :=
      x.alike_batch _ _
    rw [hsorted.cases_eq g hmem] at htask
    exact .going hg rfl htask rfl halike (.refl owner _ hw) (b := ⟨w, []⟩) hin rfl rfl
  · have hnone : cases.filter (fun c => c.service == svc) = [] := by
      refine List.filter_eq_nil_iff.mpr fun c hc heq => h ?_
      exact beq_iff_eq.mp heq ▸ hsorted.covers c hc
    rw [reference, hnone]
    refine .ended (.refl owner _ hw) rfl fun i g hg hs => ?_
    exact absurd (hs ▸ List.mem_map_of_mem (List.mem_of_getElem? hg)) h

/-- Every step keeps the tasks on their references. -/
lemma follows_step (hnd : (groups.map fun g => g.service).Nodup)
    (hlen : st.tasks.length = groups.length) {ref : String → _}
    (h : ∀ svc, Follows l owner groups st svc (ref svc))
    (hw : st.batch.world.store.book.Consistent)
    (hs : Step (World.surroundings l.collaborators) bound False st st') (svc : String) :
    Follows l owner groups st' svc (ref svc) := by
  cases hs with
  | die hm => exact hm.elim
  | receive hflight =>
    exact (h svc).of_similar ⟨rfl, .refl _ _, hw, hw⟩
      fun i g hg hs => ⟨rfl, rfl⟩
  | work time ht hp room =>
    have hlen' : (st.atTime (World.surroundings l.collaborators) time).tasks.length =
        groups.length := hlen
    refine follows_advance hnd hlen' (fun svc => ?_) ht hp svc
    refine (h svc).of_similar ?_ fun i g hg hs => ⟨rfl, rfl⟩
    cases time with
    | none => exact .refl owner svc hw
    | some time => exact ⟨rfl, .refl _ _, hw, hw⟩

/-- The book of a state whose tasks follow their references is consistent. -/
lemma Follows.consistent (h : Follows l owner groups st svc ref) :
    st.batch.world.store.book.Consistent := by
  cases h with
  | going _ _ _ _ _ hw => exact hw.consistent
  | ended hw => exact hw.consistent

/-- In every state of a run the tasks follow their references, if these stay within the services. -/
theorem follows_reaches (hw : w.store.book.Consistent)
    (hin : ∀ svc, StaysWithin l owner x cases w svc)
    (h : Reaches (World.surroundings l.collaborators) bound False
      (start x (ServiceGroup.ofCases cases) w) st) (svc : String) :
    Follows l owner (ServiceGroup.ofCases cases) st svc (reference l x cases w svc) := by
  induction h generalizing svc with
  | refl => exact follows_start hw (hin svc)
  | tail hreach hs ih =>
    exact follows_step (ServiceGroup.sorted_ofCases cases).nodup
      (Invariant.reaches hreach).length_tasks ih (ih svc).consistent hs svc

/-- In a finished state the references are over. -/
lemma Follows.of_finished (h : Follows l owner groups st svc ref) (hf : st.Finished) :
    Similar owner svc st.batch.world ref.2.world ∧ ref.1 = .ok () ∧
      ∀ i g, groups[i]? = some g → g.service = svc →
        st.tasks[i]? = some (.ended none) ∧
          (resultsOf i st.sent).map Result.verdict = verdictsOf ref.2.received := by
  cases h with
  | ended hw hok hv => exact ⟨hw, hok, hv⟩
  | going hg hs ht hp =>
    have hrest := hf.1 _ (List.mem_of_getElem? ht)
    cases hrest.symm.trans hp

/-- Where no task is dead, nothing is added to what was received. -/
lemma joined_eq {σ : Type} {s : Surroundings σ} {label : Nat → String} {st : State σ}
    (h : ∀ (i : Nat) g t, groups[i]? = some g → st.tasks[i]? = some t → t = Task.ended none) :
    joined s label groups st = st.batch := by
  have hnone : ∀ (es : List (Nat × ServiceGroup × Task)) (b : Batch σ),
      (∀ e ∈ es, e.2.2 = .ended none) → reportDead s label es b = b := by
    intro es b hes
    induction es with
    | nil => rfl
    | cons e es ih =>
      obtain ⟨i, g, t⟩ := e
      obtain rfl : t = .ended none := hes _ List.mem_cons_self
      exact ih fun e he => hes e (List.mem_cons_of_mem _ he)
  refine hnone _ _ ?_
  rintro ⟨i, g, t⟩ he
  obtain ⟨hg, ht⟩ := mem_joined_iff.mp he
  exact h i g t hg ht

end Pool

end Retrial
