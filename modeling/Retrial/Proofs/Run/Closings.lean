import Retrial.Proofs.Run.Alone
import Retrial.Run.World

/-!
# How teardowns end

A case does not look at how the teardown of a context has ended: whatever the reply, it goes on in
the same way (`heedless_execute`).  So of two ways of answering that differ in such replies alone,
both lead a case to the same result, and to the same requests in between (`Heedless.answered`).  And
in two worlds whose collaborators differ in how they end teardowns, and in nothing else that can be
seen of them, a case ends with the same result and leaves the same store and the same disk
(`Heedless.runAlone`).

What cannot be seen is up to a relation between the states of the collaborators, since a script of
what teardowns come to is part of such a state.
-/

namespace Retrial

/-! ### Processes -/

namespace Proc

variable {α β : Type}

/-- However a teardown has ended, the process goes on in the same way. -/
def Heedless : Proc α → Prop
  | .done _ => True
  | .ask q next =>
    (∀ c, q = .teardown c → ∀ r r', next r = next r') ∧ ∀ r, Heedless (next r)

/-- A request for something else may be followed by anything heedless. -/
lemma heedless_ask {q : Request} {next : q.Reply → Proc α} (hq : ∀ c, q ≠ .teardown c)
    (h : ∀ r, Heedless (next r)) : Heedless (.ask q next) :=
  ⟨fun c hc => absurd hc (hq c), h⟩

/-- A sequence of heedless processes is heedless. -/
lemma Heedless.bind {p : Proc α} {f : α → Proc β} (hp : Heedless p) (hf : ∀ a, Heedless (f a)) :
    Heedless (p.bind f) := by
  induction p with
  | done a => exact hf a
  | ask q next ih =>
    exact ⟨fun c hc r r' => congrArg (Proc.bind · f) (hp.1 c hc r r'), fun r => ih r (hp.2 r)⟩

end Proc

/-! ### The run of a case -/

namespace Executor

open Proc

variable {x : Executor} {c : Case}

/-- An attempt comes out as the run of its module has ended, and not its teardown. -/
lemma heedless_attempt : Heedless (x.attempt c) := by
  rw [attempt_eq]
  refine heedless_ask nofun fun built => ?_
  cases built with
  | error k => trivial
  | ok u =>
    refine heedless_ask nofun fun ended => ?_
    exact ⟨fun _ _ _ _ => rfl, fun _ => heedless_ask nofun fun _ => trivial⟩

lemma heedless_feedBack {awaiting : Option String} {outcome : Except Failure Unit} :
    Heedless (feedBack awaiting outcome) := by
  cases awaiting with
  | none => trivial
  | some id => exact heedless_ask nofun fun _ => trivial

lemma heedless_fail {r : Result} {f : Failure} : Heedless (Executor.fail c r f) :=
  heedless_ask nofun fun _ => heedless_ask nofun fun _ => trivial

lemma heedless_afterUngranted {n : Nat} {r : Result} {f : Failure} {healed : String → Proc Result}
    (hh : x.mayHeal n = true → ∀ fix, Heedless (healed fix)) :
    Heedless (x.afterUngranted c n r f healed) := by
  unfold afterUngranted
  split
  next hm =>
    refine heedless_ask nofun fun reply => ?_
    cases acceptedFix reply with
    | none => exact heedless_fail
    | some fix => exact hh hm fix
  next => exact heedless_fail

/-- What follows an attempt is heedless if retries and fixes lead to what is. -/
lemma heedless_afterAttempt {n : Nat} {r : Result} {retried : Bool}
    {again healed : Failure → String → Proc Result} {outcome : Except Failure Unit}
    (ha : ∀ f id (m : UInt32), n ≤ m.toNat → Heedless (again f id))
    (hh : x.mayHeal n = true → ∀ f fix, Heedless (healed f fix)) :
    Heedless (x.afterAttempt c n r retried again healed outcome) := by
  cases outcome with
  | ok u => exact heedless_ask nofun fun _ => trivial
  | error f =>
    have hungranted : Heedless (x.afterUngranted c n (r.withFailure f) f (healed f)) :=
      heedless_afterUngranted fun hm => hh hm f
    refine heedless_ask nofun fun found => ?_
    cases found with
    | none => exact hungranted
    | some p =>
      refine heedless_ask nofun fun policy => ?_
      split
      next hn => exact heedless_ask nofun fun _ => ha f p.patternId _ hn
      next => exact hungranted

/-- The loop is heedless. -/
lemma heedless_attemptFrom {usedUp : Result → Proc Result} {n : Nat} {r : Result}
    {granted retried : Bool} {awaiting : Option String}
    (hopen : n < x.settings.baseAttempts ∨ granted = true) :
    Heedless (x.attemptFrom c usedUp n r granted retried awaiting) := by
  induction hk : x.attemptLimit - n using Nat.strong_induction_on
    generalizing n r granted retried awaiting with
  | h k ih =>
    rw [attemptFrom_of_open hopen]
    refine heedless_attempt.bind fun outcome => heedless_feedBack.bind fun _ => ?_
    refine heedless_afterAttempt (fun f id m hm => ?_) fun hm f fix => ?_
    · have hlt := lt_attemptLimit_of_retry (x := x) hm
      exact ih _ (by omega) (.inr rfl) rfl
    · have hlt := lt_attemptLimit_of_heal hm
      exact ih _ (by omega) (.inl (lt_baseAttempts_of_mayHeal hm)) rfl

/-- The run of a case does not look at how teardowns have ended. -/
theorem heedless_execute (x : Executor) (c : Case) : Heedless (x.execute c) := by
  cases hs : x.settings.skipTags.find? c.hasTag with
  | some tag =>
    rw [execute_of_skipped hs]
    exact heedless_ask nofun fun _ => heedless_ask nofun fun _ => trivial
  | none =>
    rw [execute_of_unskipped hs]
    refine heedless_ask nofun fun start => heedless_ask nofun fun loaded => ?_
    cases loaded with
    | error fault => exact heedless_ask nofun fun _ => trivial
    | ok u => exact heedless_attemptFrom (.inl x.settings.one_le_baseAttempts)

end Executor

/-! ### Ways of answering -/

/-- Exchanges that are the same, up to how a teardown has ended. -/
inductive Exchange.Alike : Exchange → Exchange → Prop
  | same (e : Exchange) : Alike e e
  | closed (c : Case) (how how' : TeardownEnd) : Alike ⟨.teardown c, how⟩ ⟨.teardown c, how'⟩

/-- Two ways of answering differ in how teardowns end, and so far as nothing else has differed they
agree on everything else. -/
def Proc.Answers.DifferInClosings (o o' : Proc.Answers) : Prop :=
  ∀ past past', List.Forall₂ Exchange.Alike past past' → ∀ q, (∀ c, q ≠ .teardown c) →
    o past q = o' past' q

open Proc in
/-- A heedless process ends with the same after the same requests. -/
lemma Proc.Heedless.answered {α : Type} {p : Proc α} (hp : Heedless p) {o o' : Answers}
    (ho : o.DifferInClosings o') {past past' : List Exchange}
    (hpast : List.Forall₂ Exchange.Alike past past') :
    (p.answered o past).2 = (p.answered o' past').2 ∧
      List.Forall₂ Exchange.Alike (p.answered o past).1 (p.answered o' past').1 := by
  induction p generalizing past past' with
  | done a => exact ⟨rfl, .nil⟩
  | ask q next ih =>
    obtain ⟨hclosed, hnext⟩ := hp
    have halike : Exchange.Alike ⟨q, o past q⟩ ⟨q, o' past' q⟩ := by
      by_cases hq : ∃ c, q = .teardown c
      · obtain ⟨c, rfl⟩ := hq
        exact .closed c _ _
      · rw [ho past past' hpast q fun c hc => hq ⟨c, hc⟩]
        exact .same _
    have hgoes : next (o past q) = next (o' past' q) := by
      by_cases hq : ∃ c, q = .teardown c
      · obtain ⟨c, hq⟩ := hq
        exact hclosed c hq _ _
      · rw [ho past past' hpast q fun c hc => hq ⟨c, hc⟩]
    obtain ⟨hres, hlog⟩ := ih (o past q) (hnext _) (List.rel_append hpast (.cons halike .nil))
    change ((next (o past q)).answered o (past ++ [⟨q, o past q⟩])).2 =
        ((next (o' past' q)).answered o' (past' ++ [⟨q, o' past' q⟩])).2 ∧
      List.Forall₂ Exchange.Alike (⟨q, o past q⟩ :: _) (⟨q, o' past' q⟩ :: _)
    rw [← hgoes]
    exact ⟨hres, .cons halike hlog⟩

/-! ### Worlds -/

/-- What can be seen of a teardown however it ends: the time that it takes, or the crash that
nothing contains. -/
def Closing.span : Closing → Except Crash Nat
  | .crashes k => .error k
  | .ends afterMs _ => .ok afterMs

namespace Collaborators

variable {β β' : Type}

/-- What comes back is the same, and the states are related afterwards. -/
def Corresponds {γ : Type} (R : β → β' → Prop) (a : γ × β) (a' : γ × β') : Prop :=
  a.1 = a'.1 ∧ R a.2 a'.2

/-- Two collaborators differ in how teardowns end, and in nothing else that can be seen of them, as
long as their states are related. -/
structure DifferInClosings (others : Collaborators β) (others' : Collaborators β')
    (R : β → β' → Prop) : Prop where
  load : ∀ c s s', R s s' → Corresponds R (others.load c s) (others'.load c s')
  build : ∀ time c s s', R s s' → Corresponds R (others.build time c s) (others'.build time c s')
  invoke : ∀ time c s s', R s s' →
    Corresponds R (others.invoke time c s) (others'.invoke time c s')
  teardown : ∀ time c s s', R s s' →
    (others.teardown time c s).1.span = (others'.teardown time c s').1.span ∧
      R (others.teardown time c s).2 (others'.teardown time c s').2
  release : ∀ time c s s', R s s' →
    Corresponds R (others.release time c s) (others'.release time c s')
  heal : ∀ time c f s s', R s s' →
    Corresponds R (others.heal time c f s) (others'.heal time c f s')
  progress : ∀ time r s s', R s s' → R (others.progress time r s) (others'.progress time r s')

end Collaborators

namespace World

variable {β β' α : Type} {R : β → β' → Prop}

/-- Worlds with the same store, disk and clocks, and collaborators whose states are related. -/
inductive Alike (R : β → β' → Prop) : World β → World β' → Prop
  | intro {store : PatternStore} {disk : Disk} {clock : Nat} {dawn : Time.Instant}
      {pace readings : Nat} {s : β} {s' : β'} (h : R s s') :
      Alike R ⟨store, disk, clock, dawn, pace, readings, s⟩
        ⟨store, disk, clock, dawn, pace, readings, s'⟩

/-- The clocks are moved together. -/
lemma Alike.moveTo {w : World β} {w' : World β'} (h : Alike R w w') (ms : Nat) :
    Alike R { w with clock := w.clock + ms } { w' with clock := w'.clock + ms } := by
  obtain ⟨h⟩ := h
  exact .intro h

/-- Answers that are the same, up to how a teardown has ended. -/
inductive AlikeAnswer : {q : Request} → Answer q → Answer q → Prop
  | same {q : Request} (a : Answer q) : AlikeAnswer a a
  | closed (c : Case) (ms : Nat) (how how' : TeardownEnd) :
      AlikeAnswer (q := .teardown c) (.reply ms how) (.reply ms how')

variable {others : Collaborators β} {others' : Collaborators β'}

/-- A request gets the same answer, up to how a teardown has ended, and leaves the worlds alike. -/
lemma Alike.answer (h : others.DifferInClosings others' R) {w : World β} {w' : World β'}
    (hw : Alike R w w') (q : Request) :
    AlikeAnswer (answer others q w).1 (answer others' q w').1 ∧
      Alike R (answer others q w).2 (answer others' q w').2 := by
  obtain ⟨hR⟩ := hw
  rename_i store disk clock dawn pace readings s s'
  cases q with
  | load c =>
    obtain ⟨hreply, hstates⟩ := h.load c s s' hR
    simp only [World.answer, hreply]
    exact ⟨.same _, .intro hstates⟩
  | build c =>
    obtain ⟨hreply, hstates⟩ := h.build clock c s s' hR
    simp only [World.answer, hreply]
    exact ⟨.same _, .intro hstates⟩
  | invoke c limitSecs =>
    obtain ⟨hreply, hstates⟩ := h.invoke clock c s s' hR
    rcases hs : others.invoke clock c s with ⟨a, t⟩
    rcases hs' : others'.invoke clock c s' with ⟨a', t'⟩
    rw [hs, hs'] at hreply hstates
    obtain rfl : a = a' := hreply
    simp only [World.answer, hs, hs']
    cases a with
    | crashes k => exact ⟨.same _, .intro hstates⟩
    | ends ms how => exact ⟨.same _, .intro hstates⟩
  | teardown c =>
    obtain ⟨hspan, hstates⟩ := h.teardown clock c s s' hR
    rcases hs : others.teardown clock c s with ⟨a, t⟩
    rcases hs' : others'.teardown clock c s' with ⟨a', t'⟩
    rw [hs, hs'] at hspan hstates
    simp only [World.answer, hs, hs']
    rcases a with k | ⟨ms, how⟩ <;> rcases a' with k' | ⟨ms', how'⟩
    · obtain rfl : k = k' := Except.error.inj hspan
      exact ⟨.same _, .intro hstates⟩
    · cases hspan
    · cases hspan
    · obtain rfl : ms = ms' := Except.ok.inj hspan
      exact ⟨.closed c ms how how', .intro hstates⟩
  | release c =>
    obtain ⟨hreply, hstates⟩ := h.release clock c s s' hR
    rcases hs : others.release clock c s with ⟨a, t⟩
    rcases hs' : others'.release clock c s' with ⟨a', t'⟩
    rw [hs, hs'] at hreply hstates
    obtain rfl : a = a' := hreply
    simp only [World.answer, hs, hs']
    cases a with
    | none => exact ⟨.same _, .intro hstates⟩
    | some k => exact ⟨.same _, .intro hstates⟩
  | heal c f =>
    obtain ⟨hreply, hstates⟩ := h.heal clock c f s s' hR
    rcases hs : others.heal clock c f s with ⟨a, t⟩
    rcases hs' : others'.heal clock c f s' with ⟨a', t'⟩
    rw [hs, hs'] at hreply hstates
    obtain rfl : a = a' := hreply
    simp only [World.answer, hs, hs']
    cases a with
    | crashes k => exact ⟨.same _, .intro hstates⟩
    | answers ms fix => exact ⟨.same _, .intro hstates⟩
  | _ => exact ⟨.same _, .intro hR⟩

/-- So it is when results are received. -/
lemma Alike.respond (h : others.DifferInClosings others' R) {b : Batch (World β)}
    {b' : Batch (World β')} (hb : Alike R b.world b'.world) (group : Nat) (q : Request) :
    AlikeAnswer ((surroundings others).respond group q b).1
        ((surroundings others').respond group q b').1 ∧
      Alike R ((surroundings others).respond group q b).2.world
        ((surroundings others').respond group q b').2.world := by
  by_cases hq : ∃ r, q = .report r
  · obtain ⟨r, rfl⟩ := hq
    obtain ⟨w, received⟩ := b
    obtain ⟨w', received'⟩ := b'
    obtain ⟨hR⟩ := hb
    exact ⟨.same _, .intro (h.progress _ r _ _ hR)⟩
  · rw [Surroundings.respond_of_ne_report fun r h => hq ⟨r, h⟩,
      Surroundings.respond_of_ne_report fun r h => hq ⟨r, h⟩]
    exact Alike.answer h hb q

/-- A heedless process that runs alone ends with the same and leaves the worlds alike. -/
lemma Alike.runAlone (h : others.DifferInClosings others' R) {p : Proc α} (hp : p.Heedless)
    {b : Batch (World β)} {b' : Batch (World β')} (hb : Alike R b.world b'.world) :
    ((surroundings others).runAlone p b).1 = ((surroundings others').runAlone p b').1 ∧
      Alike R ((surroundings others).runAlone p b).2.world
        ((surroundings others').runAlone p b').2.world := by
  induction p generalizing b b' with
  | done a => exact ⟨rfl, hb⟩
  | ask q next ih =>
    obtain ⟨hclosed, hnext⟩ := hp
    obtain ⟨hanswer, hworld⟩ := Alike.respond h hb 0 q
    rcases hs : (surroundings others).respond 0 q b with ⟨a, b₁⟩
    rcases hs' : (surroundings others').respond 0 q b' with ⟨a', b₁'⟩
    rw [hs, hs'] at hanswer hworld
    cases hanswer with
    | same a =>
      cases a with
      | crash k =>
        rw [Surroundings.runAlone_ask_of_crash hs, Surroundings.runAlone_ask_of_crash hs']
        exact ⟨rfl, hworld⟩
      | reply ms r =>
        rw [Surroundings.runAlone_ask_of_reply hs, Surroundings.runAlone_ask_of_reply hs']
        exact ih r (hnext r) (hworld.moveTo ms)
    | closed c ms how how' =>
      rw [Surroundings.runAlone_ask_of_reply hs, Surroundings.runAlone_ask_of_reply hs',
        hclosed c rfl how' how]
      exact ih how (hnext how) (hworld.moveTo ms)

end World

end Retrial
