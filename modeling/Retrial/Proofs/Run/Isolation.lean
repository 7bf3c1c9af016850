import Retrial.Proofs.Pattern.Calls
import Retrial.Proofs.Run.Calls
import Retrial.Proofs.Run.Local

/-!
# Services that do not see each other

Two worlds are *similar* to a service if the collaborators keep the same for the service and the
pattern books agree on the patterns that it owns.  A request of the service gets the same reply in
both, up to times, and leaves them similar; a request of another service leaves a world similar to
what it was.  So a service sees nothing of what others do, whenever they do it.

A batch that runs alone, case after case, is therefore to each service like the batch of the cases
of this service by themselves, if every pattern of a failure on the way is owned by the service that
fails with it (`runAlone_batch_similar`).
-/

namespace Retrial

open Surroundings

variable {γ δ α : Type} {l : Local γ δ} {owner : String → String} {svc svc' : String}
  {w w' w'' : World ((String → γ) × δ)}

/-- The patterns that a service owns. -/
def ownedBy (owner : String → String) (svc : String) : Set String := {id | owner id = svc}

/-- Worlds that look the same to a service, and in which every pattern is kept under its id. -/
structure Similar (owner : String → String) (svc : String) (w w' : World ((String → γ) × δ)) :
    Prop where
  kept : w.others.1 svc = w'.others.1 svc
  book : w.store.book.AgreesOn (ownedBy owner svc) w'.store.book
  consistent : w.store.book.Consistent
  consistent' : w'.store.book.Consistent

namespace Similar

/-- A world is similar to itself. -/
lemma refl (owner : String → String) (svc : String) (hw : w.store.book.Consistent) :
    Similar owner svc w w := ⟨rfl, .refl _ _, hw, hw⟩

/-- Similarity is symmetric. -/
lemma symm (h : Similar owner svc w w') : Similar owner svc w' w :=
  ⟨h.kept.symm, h.book.symm, h.consistent', h.consistent⟩

/-- Similarity is transitive. -/
lemma trans (h : Similar owner svc w w') (h' : Similar owner svc w' w'') :
    Similar owner svc w w'' :=
  ⟨h.kept.trans h'.kept, h.book.trans h'.book, h.consistent, h'.consistent'⟩

/-- The clocks do not matter. -/
lemma moveTo (h : Similar owner svc w w') (t t' : Nat) :
    Similar owner svc { w with clock := t } { w' with clock := t' } :=
  ⟨h.kept, h.book, h.consistent, h.consistent'⟩

end Similar

/-! ### Requests to local collaborators -/

namespace Local

/-- The reply to a request. -/
def reply (l : Local γ δ) (w : World ((String → γ) × δ)) : (q : Request) → q.Reply
  | .now => w.now.1
  | .load c => (l.load c (w.others.1 c.service)).1
  | .build c => (l.build c (w.others.1 c.service)).1
  | .invoke c limitSecs => (l.ending limitSecs c (w.others.1 c.service)).2
  | .teardown c => (l.teardown c (w.others.1 c.service)).1.2
  | .release _ => ()
  | .heal c f => (l.heal c f (w.others.1 c.service)).1.2
  | .pause _ => ()
  | .detect f => (w.detect f.message f.trace).1
  | .policy id => w.store.book.policy id
  | .record testId f => (w.record testId f.message f.trace none).1
  | .feedback _ _ => ()
  | .report _ => ()

/-- The world after a request. -/
def after (l : Local γ δ) (w : World ((String → γ) × δ)) : Request → World ((String → γ) × δ)
  | .now => w.now.2
  | .load c => { w with others := keep c (l.load c (w.others.1 c.service)).2 w.others }
  | .build c => { w with others := keep c (l.build c (w.others.1 c.service)).2 w.others }
  | .invoke c _ => { w with others := keep c (l.invoke c (w.others.1 c.service)).2 w.others }
  | .teardown c => { w with others := keep c (l.teardown c (w.others.1 c.service)).2 w.others }
  | .release c => { w with others := keep c (l.release c (w.others.1 c.service)) w.others }
  | .heal c f => { w with others := keep c (l.heal c f (w.others.1 c.service)).2 w.others }
  | .pause _ => w
  | .detect f => (w.detect f.message f.trace).2
  | .policy _ => w
  | .record testId f => (w.record testId f.message f.trace none).2
  | .feedback id success => w.feedback id success
  | .report _ => w

/-- Local collaborators never crash outside of what contains crashes. -/
lemma exists_answer_eq (l : Local γ δ) (w : World ((String → γ) × δ)) (q : Request) :
    ∃ ms, (World.surroundings l.collaborators).answer q w =
      (.reply ms (l.reply w q), l.after w q) := by
  cases q <;> exact ⟨_, rfl⟩

/-- A failure is looked up in the book of the store. -/
lemma reply_detect (f : Failure) :
    l.reply w (.detect f) = (w.store.book.detect w.now.1 f.message f.trace).1 :=
  PatternStore.detect_fst

/-- Looking a failure up leaves the book of the store as it leaves a book. -/
lemma book_after_detect (f : Failure) :
    (l.after w (.detect f)).store.book =
      (w.store.book.detect w.now.1 f.message f.trace).2 := PatternStore.book_detect

/-- So does the outcome of a retry. -/
lemma book_after_feedback (id : String) (success : Bool) :
    (l.after w (.feedback id success)).store.book = w.store.book.feedback id success :=
  PatternStore.book_feedback

/-- What a request leaves of a book is consistent if the book was. -/
lemma consistent_after (hw : w.store.book.Consistent) (q : Request) :
    (l.after w q).store.book.Consistent := by
  cases q with
  | detect f =>
    rw [book_after_detect]
    exact hw.detect
  | record testId f => exact hw.record
  | feedback id success =>
    rw [book_after_feedback]
    exact hw.feedback
  | _ => exact hw

/-- In a consistent world the pattern found for a failure names the failure's id. -/
lemma names_reply (hw : w.store.book.Consistent) (q : Request) : q.Names (l.reply w q) := by
  cases q with
  | detect f =>
    intro p hp
    exact hw.patternId_of_detect ((reply_detect f).symm.trans hp)
  | _ => trivial

/-- A request of a service gets the same reply in worlds that are similar to the service. -/
lemma reply_same (h : Similar owner svc w w') {q : Request} (hq : q.Within owner svc) :
    q.Same (l.reply w q) (l.reply w' q) := by
  cases q with
  | now => trivial
  | record testId f => trivial
  | detect f =>
    have hfound : (w.store.book.detect w.now.1 f.message f.trace).1.map Pattern.unseen =
        (w'.store.book.detect w'.now.1 f.message f.trace).1.map Pattern.unseen :=
      h.book.detect_fst hq
    rw [← reply_detect (l := l), ← reply_detect (l := l)] at hfound
    exact hfound
  | policy id => exact h.book.policy hq
  | load c => exact congrArg (fun g => (l.load c g).1) (hq ▸ h.kept)
  | build c => exact congrArg (fun g => (l.build c g).1) (hq ▸ h.kept)
  | invoke c limitSecs => exact congrArg (fun g => (l.ending limitSecs c g).2) (hq ▸ h.kept)
  | teardown c => exact congrArg (fun g => (l.teardown c g).1.2) (hq ▸ h.kept)
  | heal c f => exact congrArg (fun g => (l.heal c f g).1.2) (hq ▸ h.kept)
  | release c => rfl
  | pause ms => rfl
  | feedback id success => rfl
  | report r => rfl

/-- What is kept for a service after something new for a case. -/
lemma keep_same {c : Case} {g g' : γ} {o o' : (String → γ) × δ} (ho : o.1 svc = o'.1 svc)
    (hg : g = g') : (keep c g o).1 svc = (keep c g' o').1 svc := by
  subst hg
  by_cases hc : svc = c.service
  · subst hc
    simp [keep]
  · simp [keep, Function.update_of_ne hc, ho]

/-- A request of a service leaves worlds similar that were similar to the service. -/
lemma similar_after (h : Similar owner svc w w') {q : Request} (hq : q.Within owner svc) :
    Similar owner svc (l.after w q) (l.after w' q) := by
  have hc := consistent_after (l := l) h.consistent q
  have hc' := consistent_after (l := l) h.consistent' q
  cases q with
  | load c =>
    exact ⟨keep_same h.kept (congrArg (fun g => (l.load c g).2) (hq ▸ h.kept)), h.book, hc, hc'⟩
  | build c =>
    exact ⟨keep_same h.kept (congrArg (fun g => (l.build c g).2) (hq ▸ h.kept)), h.book, hc, hc'⟩
  | invoke c limitSecs =>
    exact ⟨keep_same h.kept (congrArg (fun g => (l.invoke c g).2) (hq ▸ h.kept)), h.book, hc, hc'⟩
  | teardown c =>
    exact ⟨keep_same h.kept (congrArg (fun g => (l.teardown c g).2) (hq ▸ h.kept)), h.book, hc, hc'⟩
  | release c =>
    exact ⟨keep_same h.kept (congrArg (fun g => l.release c g) (hq ▸ h.kept)), h.book, hc, hc'⟩
  | heal c f =>
    exact ⟨keep_same h.kept (congrArg (fun g => (l.heal c f g).2) (hq ▸ h.kept)), h.book, hc, hc'⟩
  | detect f =>
    refine ⟨h.kept, ?_, hc, hc'⟩
    rw [book_after_detect, book_after_detect]
    exact h.book.detect
  | record testId f => exact ⟨h.kept, h.book.record, hc, hc'⟩
  | feedback id success =>
    refine ⟨h.kept, ?_, hc, hc'⟩
    rw [book_after_feedback, book_after_feedback]
    exact h.book.feedback
  | _ => exact ⟨h.kept, h.book, hc, hc'⟩

/-- A request of another service leaves a world similar to what it was. -/
lemma similar_after_of_ne (hw : w.store.book.Consistent) {q : Request}
    (hq : q.Within owner svc) (hne : svc' ≠ svc) : Similar owner svc' (l.after w q) w := by
  have hc := consistent_after (l := l) hw q
  have hkeep : ∀ {c : Case} {g : γ}, c.service = svc →
      (keep c g w.others).1 svc' = w.others.1 svc' :=
    fun hs => Function.update_of_ne (hs ▸ hne) _ _
  have hid : ∀ {id : String}, owner id = svc → id ∉ ownedBy owner svc' :=
    fun ho hmem => hne (hmem.symm.trans ho)
  cases q with
  | load c => exact ⟨hkeep hq, .refl _ _, hc, hw⟩
  | build c => exact ⟨hkeep hq, .refl _ _, hc, hw⟩
  | invoke c limitSecs => exact ⟨hkeep hq, .refl _ _, hc, hw⟩
  | teardown c => exact ⟨hkeep hq, .refl _ _, hc, hw⟩
  | release c => exact ⟨hkeep hq, .refl _ _, hc, hw⟩
  | heal c f => exact ⟨hkeep hq, .refl _ _, hc, hw⟩
  | detect f =>
    refine ⟨rfl, ?_, hc, hw⟩
    rw [book_after_detect]
    exact PatternBook.changesOnly_detect.agreesOn (hid hq)
  | record testId f => exact ⟨rfl, PatternBook.changesOnly_record.agreesOn (hid hq), hc, hw⟩
  | feedback id success =>
    refine ⟨rfl, ?_, hc, hw⟩
    rw [book_after_feedback]
    exact PatternBook.changesOnly_feedback.agreesOn (hid hq)
  | _ => exact ⟨rfl, .refl _ _, hc, hw⟩

end Local

/-! ### Running alone -/

section Alone

variable {same : α → α → Prop} {p p' : Proc α} {b b' : Batch (World ((String → γ) × δ))}

/-- The batch after a request other than the handing in of a result. -/
def asked (l : Local γ δ) (q : Request) (ms : Nat) (b : Batch (World ((String → γ) × δ))) :
    Batch (World ((String → γ) × δ)) :=
  { b with world := { l.after b.world q with clock := (l.after b.world q).clock + ms } }

/-- A request that is answered by local collaborators. -/
lemma exists_runAlone_ask {q : Request} (hq : ∀ r, q ≠ .report r) (next : q.Reply → Proc α)
    (b : Batch (World ((String → γ) × δ))) :
    ∃ ms, (World.surroundings l.collaborators).runAlone (.ask q next) b =
        (World.surroundings l.collaborators).runAlone (next (l.reply b.world q))
          (asked l q ms b) ∧
      (World.surroundings l.collaborators).logAlone (.ask q next) b =
        ⟨q, l.reply b.world q⟩ ::
          (World.surroundings l.collaborators).logAlone (next (l.reply b.world q))
            (asked l q ms b) := by
  obtain ⟨ms, ha⟩ := l.exists_answer_eq b.world q
  have hrespond : (World.surroundings l.collaborators).respond 0 q b =
      (.reply ms (l.reply b.world q), { b with world := l.after b.world q }) := by
    rw [respond_of_ne_report hq, ha]
  exact ⟨ms, runAlone_ask_of_reply hrespond, logAlone_ask_of_reply hrespond⟩

/-- Handing in a result leaves a world similar to what it was. -/
lemma similar_handIn (hw : b.world.store.book.Consistent) (r : Result) :
    Similar owner svc (handIn (World.surroundings l.collaborators) r b).world b.world :=
  ⟨rfl, .refl _ _, hw, hw⟩

/-- Worlds stay similar when results are handed in. -/
lemma Similar.handIn (h : Similar owner svc b.world b'.world) (r r' : Result) :
    Similar owner svc (Surroundings.handIn (World.surroundings l.collaborators) r b).world
      (Surroundings.handIn (World.surroundings l.collaborators) r' b').world :=
  ⟨h.kept, h.book, h.consistent, h.consistent'⟩

/-- A process comes to its end, the book stays consistent, and the patterns that are found on the
way name the ids of their failures. -/
lemma exists_runAlone_eq (p : Proc α) (hw : b.world.store.book.Consistent) :
    ∃ a c, (World.surroundings l.collaborators).runAlone p b = (.ok a, c) ∧
      c.world.store.book.Consistent ∧
      ∀ e ∈ (World.surroundings l.collaborators).logAlone p b, e.request.Names e.reply := by
  induction p generalizing b with
  | done a => exact ⟨a, b, rfl, hw, fun e he => by cases he⟩
  | ask q next ih =>
    by_cases hq : ∃ r, q = .report r
    · obtain ⟨r, rfl⟩ := hq
      obtain ⟨a, c, hrun, hc, hnames⟩ :=
        ih () (b := handIn (World.surroundings l.collaborators) r b) hw
      exact ⟨a, c, hrun, hc, List.forall_mem_cons.mpr ⟨trivial, hnames⟩⟩
    · push Not at hq
      obtain ⟨ms, hstep, hlog⟩ := exists_runAlone_ask (l := l) hq next b
      obtain ⟨a, c, hrun, hc, hnames⟩ :=
        ih _ (b := asked l q ms b) (Local.consistent_after (l := l) hw q)
      exact ⟨a, c, hstep.trans hrun, hc,
        hlog ▸ List.forall_mem_cons.mpr ⟨Local.names_reply hw q, hnames⟩⟩

/-- A process that stays within a service leaves a world similar to other services. -/
lemma similar_runAlone (p : Proc α) (hw : b.world.store.book.Consistent)
    (hin : ∀ e ∈ (World.surroundings l.collaborators).logAlone p b, e.request.Within owner svc)
    (hne : svc' ≠ svc) :
    Similar owner svc' ((World.surroundings l.collaborators).runAlone p b).2.world b.world := by
  induction p generalizing b with
  | done a => exact .refl _ _ hw
  | ask q next ih =>
    by_cases hq : ∃ r, q = .report r
    · obtain ⟨r, rfl⟩ := hq
      have hrest := ih () (b := handIn (World.surroundings l.collaborators) r b) hw
        (List.forall_mem_cons.mp hin).2
      exact hrest.trans (similar_handIn hw r)
    · push Not at hq
      obtain ⟨ms, hstep, hlog⟩ := exists_runAlone_ask (l := l) hq next b
      rw [hlog, List.forall_mem_cons] at hin
      have hrest := ih _ (b := asked l q ms b) (Local.consistent_after (l := l) hw q) hin.2
      rw [hstep]
      exact hrest.trans ((Local.similar_after_of_ne hw hin.1 hne).moveTo _ _)

/-- Processes that are alike run alike in worlds that are similar to a service, as long as one of
them stays within the service; the other one does as well. -/
lemma Alike.runAlone (h : Alike same p p') (hw : Similar owner svc b.world b'.world)
    (hin : ∀ e ∈ (World.surroundings l.collaborators).logAlone p b, e.request.Within owner svc) :
    ∃ a a' c c' new new',
      (World.surroundings l.collaborators).runAlone p b = (.ok a, c) ∧
      (World.surroundings l.collaborators).runAlone p' b' = (.ok a', c') ∧ same a a' ∧
      Similar owner svc c.world c'.world ∧
      c.received = b.received ++ new ∧ c'.received = b'.received ++ new' ∧
      new.map (fun e => e.2.verdict) = new'.map (fun e => e.2.verdict) ∧
      ∀ e ∈ (World.surroundings l.collaborators).logAlone p' b', e.request.Within owner svc := by
  induction h generalizing b b' with
  | @done a a' h =>
    exact ⟨a, a', b, b', [], [], rfl, rfl, h, hw, by simp, by simp, rfl, fun e he => by cases he⟩
  | @report r r' next next' h _ ih =>
    obtain ⟨a, a', c, c', new, new', hrun, hrun', hsame, hsim, hnew, hnew', hverdict, hin'⟩ :=
      ih (hw.handIn r r') (List.forall_mem_cons.mp hin).2
    refine ⟨a, a', c, c', (0, r) :: new, (0, r') :: new', hrun, hrun', hsame, hsim, ?_, ?_, ?_,
      List.forall_mem_cons.mpr ⟨trivial, hin'⟩⟩
    · rw [hnew, handIn, List.append_assoc]
      rfl
    · rw [hnew', handIn, List.append_assoc]
      rfl
    · rw [List.map_cons, List.map_cons, hverdict, h]
  | @ask q next next' hq _ ih =>
    obtain ⟨ms, hstep, hlog⟩ := exists_runAlone_ask (l := l) hq.ne_report next b
    obtain ⟨ms', hstep', hlog'⟩ := exists_runAlone_ask (l := l) hq.ne_report next' b'
    rw [hlog, List.forall_mem_cons] at hin
    rw [hstep, hstep', hlog']
    have hafter : Similar owner svc (asked l q ms b).world (asked l q ms' b').world :=
      (Local.similar_after hw hin.1).moveTo _ _
    obtain ⟨a, a', c, c', new, new', hrun, hrun', hsame, hsim, hnew, hnew', hverdict, hin'⟩ :=
      ih _ _ (Local.names_reply hw.consistent q) (Local.names_reply hw.consistent' q)
        (Local.reply_same hw hin.1) hafter hin.2
    exact ⟨a, a', c, c', new, new', hrun, hrun', hsame, hsim, hnew, hnew', hverdict,
      List.forall_mem_cons.mpr ⟨hin.1, hin'⟩⟩

/-! ### Batches that run alone -/

variable {x : Executor} {k : Nat} {c : Case} {cs : List Case}

/-- Every failure among some exchanges has a pattern that is owned by the service that fails. -/
def OwnsFailures (owner : String → String) (log : List Exchange) : Prop :=
  ∀ e ∈ log.filterMap Exchange.failed?, owner e.2.patternId = e.1.service

/-- The run of a case ends with a result, which has not been handed in, and stays within the
service if the patterns of its failures are owned. -/
lemma exists_runAlone_execute (owner : String → String) (x : Executor) (c : Case)
    (hw : b.world.store.book.Consistent) :
    ∃ r b₁, (World.surroundings l.collaborators).runAlone (x.execute c) b = (.ok r, b₁) ∧
      b₁.received = b.received ∧ b₁.world.store.book.Consistent ∧
      (OwnsFailures owner ((World.surroundings l.collaborators).logAlone (x.execute c) b) →
        ∀ e ∈ (World.surroundings l.collaborators).logAlone (x.execute c) b,
          e.request.Within owner c.service) := by
  obtain ⟨r, b₁, hrun, hc, hnames⟩ := exists_runAlone_eq (l := l) (x.execute c) hw
  have hreceived := (runAlone_cases (s := World.surroundings l.collaborators)
    (x.only_execute c) b).1
  rw [hrun] at hreceived
  have hexecuted := Executor.trace_execute_iff.mp (trace_logAlone (congrArg Prod.fst hrun))
  exact ⟨r, b₁, hrun, hreceived, hc, fun hown => hexecuted.within hown hnames⟩

/-- To a service, the run of a batch is like that of its own cases in the batch: both are completed,
the worlds that are left look the same, the cases of the service get the same verdicts, and the run
of its own cases stays within the service. -/
def SeenByService (l : Local γ δ) (owner : String → String) (svc : String) (x : Executor) (k : Nat)
    (cs : List Case) (b b' : Batch (World ((String → γ) × δ))) : Prop :=
  ∃ c c' new new',
    (World.surroundings l.collaborators).runAlone (x.batch cs) b = (.ok (), c) ∧
    (World.surroundings l.collaborators).runAlone
      ((x.withWorkers k).batch (cs.filter fun c => c.service == svc)) b' = (.ok (), c') ∧
    Similar owner svc c.world c'.world ∧
    c.received = b.received ++ new ∧ c'.received = b'.received ++ new' ∧
    new.length = cs.length ∧
    ((cs.zip new).filter fun e => e.1.service == svc).map (fun e => e.2.2.verdict) =
      new'.map (fun e => e.2.verdict) ∧
    ∀ e ∈ (World.surroundings l.collaborators).logAlone
      ((x.withWorkers k).batch (cs.filter fun c => c.service == svc)) b',
      e.request.Within owner svc

/-- A case of the service is run in both batches. -/
lemma SeenByService.cons_own {r : Result} {b₁ : Batch (World ((String → γ) × δ))}
    (hrun : (World.surroundings l.collaborators).runAlone (x.execute c) b = (.ok r, b₁))
    (hin : ∀ e ∈ (World.surroundings l.collaborators).logAlone (x.execute c) b,
      e.request.Within owner c.service)
    (hw : Similar owner c.service b.world b'.world)
    (hrest : ∀ b', Similar owner c.service
        (handIn (World.surroundings l.collaborators) r b₁).world b'.world →
      SeenByService l owner c.service x k cs
        (handIn (World.surroundings l.collaborators) r b₁) b') :
    SeenByService l owner c.service x k (c :: cs) b b' := by
  obtain ⟨_, r', _, b₁', -, -, hrun₁, hrun', hsame, hsim, -, -, -, hin'⟩ :=
    (x.alike_execute k c).runAlone hw hin
  cases hrun.symm.trans hrun₁
  have hreceived := (runAlone_cases (s := World.surroundings l.collaborators)
    (x.only_execute c) b).1
  have hreceived' := (runAlone_cases (s := World.surroundings l.collaborators)
    ((x.withWorkers k).only_execute c) b').1
  rw [hrun] at hreceived
  rw [hrun'] at hreceived'
  obtain ⟨d, d', new, new', hd, hd', hsim', hnew, hnew', hlen, hverdict, hlater⟩ :=
    hrest _ (hsim.handIn (l := l) r r')
  refine ⟨d, d', (0, r) :: new, (0, r') :: new', ?_, ?_, hsim', ?_, ?_, ?_, ?_, ?_⟩
  · rw [runAlone_batch_of_ok hrun, hd]
  · rw [List.filter_cons_of_pos (by simp), runAlone_batch_of_ok hrun', hd']
  · rw [hnew, handIn, show b₁.received = _ from hreceived, List.append_assoc]
    rfl
  · rw [hnew', handIn, show b₁'.received = _ from hreceived', List.append_assoc]
    rfl
  · rw [List.length_cons, List.length_cons, hlen]
  · rw [List.zip_cons_cons, List.filter_cons_of_pos (by simp), List.map_cons, List.map_cons,
      hverdict, show r.verdict = r'.verdict from hsame]
  · rw [List.filter_cons_of_pos (by simp), logAlone_batch_of_ok hrun', List.forall_mem_append,
      List.forall_mem_cons]
    exact ⟨hin', trivial, hlater⟩

/-- A case of another service is run in the first batch only, and the service sees nothing of it. -/
lemma SeenByService.cons_other {r : Result} {b₁ : Batch (World ((String → γ) × δ))}
    (hne : svc ≠ c.service) (hconsistent : b₁.world.store.book.Consistent)
    (hrun : (World.surroundings l.collaborators).runAlone (x.execute c) b = (.ok r, b₁))
    (hin : ∀ e ∈ (World.surroundings l.collaborators).logAlone (x.execute c) b,
      e.request.Within owner c.service)
    (hw : Similar owner svc b.world b'.world)
    (hrest : ∀ b', Similar owner svc
        (handIn (World.surroundings l.collaborators) r b₁).world b'.world →
      SeenByService l owner svc x k cs (handIn (World.surroundings l.collaborators) r b₁) b') :
    SeenByService l owner svc x k (c :: cs) b b' := by
  have hframe := similar_runAlone (x.execute c) hw.consistent hin hne
  have hreceived := (runAlone_cases (s := World.surroundings l.collaborators)
    (x.only_execute c) b).1
  rw [hrun] at hframe hreceived
  obtain ⟨d, d', new, new', hd, hd', hsim', hnew, hnew', hlen, hverdict, hlater⟩ :=
    hrest _ ((similar_handIn (l := l) hconsistent r).trans (hframe.trans hw))
  have hfilter : (c :: cs).filter (fun c => c.service == svc) =
      cs.filter fun c => c.service == svc := List.filter_cons_of_neg (by simpa using hne.symm)
  refine ⟨d, d', (0, r) :: new, new', ?_, ?_, hsim', ?_, hnew', ?_, ?_, ?_⟩
  · rw [runAlone_batch_of_ok hrun, hd]
  · rw [hfilter, hd']
  · rw [hnew, handIn, show b₁.received = _ from hreceived, List.append_assoc]
    rfl
  · rw [List.length_cons, List.length_cons, hlen]
  · rw [List.zip_cons_cons, List.filter_cons_of_neg (by simpa using hne.symm), hverdict]
  · rwa [hfilter]

/-- To every service a batch that runs alone is like the batch of the service's own cases, if the
patterns of its failures are owned by the services that fail. -/
theorem runAlone_batch_similar (b b' : Batch (World ((String → γ) × δ))) (svc : String)
    (hown : OwnsFailures owner ((World.surroundings l.collaborators).logAlone (x.batch cs) b))
    (hw : Similar owner svc b.world b'.world) : SeenByService l owner svc x k cs b b' := by
  induction cs generalizing b b' with
  | nil => exact ⟨b, b', [], [], rfl, rfl, hw, by simp, by simp, rfl, rfl, fun e he => by cases he⟩
  | cons c cs ih =>
    obtain ⟨r, b₁, hrun, -, hconsistent, hin⟩ :=
      exists_runAlone_execute (l := l) owner x c hw.consistent
    rw [OwnsFailures, logAlone_batch_of_ok hrun, List.filterMap_append,
      List.forall_mem_append] at hown
    have hrest : ∀ b', Similar owner svc
        (handIn (World.surroundings l.collaborators) r b₁).world b'.world →
        SeenByService l owner svc x k cs (handIn (World.surroundings l.collaborators) r b₁) b' :=
      fun b' h => ih _ b' hown.2 h
    by_cases hc : c.service = svc
    · subst hc
      exact .cons_own hrun (hin hown.1) hw hrest
    · exact .cons_other (Ne.symm hc) hconsistent hrun (hin hown.1) hw hrest

end Alone

end Retrial
