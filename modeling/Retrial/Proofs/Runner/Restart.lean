import Retrial.Proofs.Run.Frame
import Retrial.Proofs.Statistics.Counts
import Retrial.Proofs.Storage.Kept

/-!
# A runner that starts again

What a runner remembers of its completed batches is what its storage keeps: each batch runs on a
disk on which nothing happens to the files of the earlier ones, and its own execution is saved
beside them (`Runner.Persists.runStrategy`).  So a fresh runner with the same storage loads exactly
the executions that the first one remembers, and both answer alike (`Runner.restarts`): with
distinct start times they list the same executions in the same order, and their statistics are the
same in any case.
-/

namespace Retrial

/-! ### Batches that are completed -/

/-- The execution of a batch that is completed. -/
def RunOutcome.execution? : RunOutcome → Option Execution
  | .completed e => some e
  | _ => none

/-- A batch with an execution is completed with it. -/
lemma RunOutcome.exists_eq_completed {o : RunOutcome} (h : o.execution?.isSome = true) :
    ∃ e, o = .completed e := by
  cases o with
  | completed e => exact ⟨e, rfl⟩
  | failed problem => cases h
  | crashed k => cases h

namespace Runner

variable {β : Type} {r r' : Runner} {c : Collaborators β} {label : Nat → String}
  {id strategyId : String} {cases : List Case} {w w' : World β} {e : Execution}

/-- How a batch is completed: its cases have been run, and its execution has been saved on the disk
that the run has left. -/
lemma runStrategy_completed
    (h : r.runStrategy c label id strategyId cases w = (.completed e, r', w')) :
    ∃ p, let w₁ := (r.runCases c label cases w.now.2).2
      (r.storage.save e w₁.disk).1 = .ok p ∧ e.id = id ∧
        r' = { r with history := r.history ++ [e], lastRun := some r.history.length } ∧
        w'.disk = (r.storage.save e w₁.disk).2 ∧ w'.store = w₁.store := by
  unfold runStrategy at h
  generalize hcases : r.runCases c label cases w.now.2 = ran at h ⊢
  obtain ⟨_ | results, w₁⟩ := ran
  · simp [hcases] at h
  simp only [hcases] at h
  generalize hdone : (Execution.start w.now.1 id strategyId).complete w₁.now.1 results = done at h
  cases hsaved : (r.storage.save done w₁.now.2.disk).1 with
  | error problem => simp [hsaved, Problem.during] at h
  | ok p =>
    rw [hsaved] at h
    simp only [Problem.during, Prod.mk.injEq, RunOutcome.completed.injEq] at h
    obtain ⟨rfl, rfl, rfl⟩ := h
    exact ⟨p, hsaved, by rw [← hdone]; rfl, rfl, rfl, rfl⟩

/-- What a runner remembers is what its storage has, the disk is a tree, and the world's store has
its file at a path. -/
structure Persists (path : Option Path) (here : Location) (r : Runner) (w : World β) : Prop where
  tree : w.disk.IsTree
  here : w.disk.here = here
  path : w.store.path = path
  has : r.storage.Has w.disk r.history

/-- A batch that is completed leaves it so, if its id is new and no file of an execution is the
store's. -/
lemma Persists.runStrategy {path : Option Path} {here : Location} (h : Persists path here r w)
    {began : Time.Instant} {draws : Nat → Nat}
    (hrun : r.runStrategy c label (ExecutionId.make began draws) strategyId cases w =
      (.completed e, r', w'))
    (hids : (r'.history.map fun e => e.id).Nodup)
    (helse : ∀ p ∈ path, ∀ e ∈ r'.history, w.disk.place p ≠ w.disk.place (r.storage.pathOf e.id)) :
    Persists path here r' w' := by
  obtain ⟨p, hsaved, hid, rfl, hdisk, hstore⟩ := runStrategy_completed hrun
  have hkeeping : (r.runCases c label cases w.now.2).2.Keeping path w.disk :=
    r.footprint_runCases c label cases ⟨h.path, .refl h.tree⟩
  generalize (r.runCases c label cases w.now.2).2 = w₁ at hsaved hdisk hstore hkeeping
  obtain ⟨hpath, hfoot⟩ := hkeeping
  have hbase := h.has.named
  have hkeeps := (h.has.keeps h.tree).of_footprint hfoot hbase
    fun q hq e' he' => helse q hq e' (List.mem_append_left _ he')
  have hfresh : ∀ e' ∈ r.history, e'.id ≠ e.id := by
    intro e' he' heq
    rw [List.map_append, List.map_singleton] at hids
    exact List.disjoint_of_nodup_append hids (List.mem_map_of_mem he') (by simp [heq])
  have hname : Path.IsName (Storage.fileName e.id) :=
    Storage.isName_fileName (hid ▸ ExecutionId.noSlash_make began draws)
  have hrecord : Storage.IsRecordName (Storage.fileName e.id) :=
    Storage.isRecordName_fileName (hid ▸ ExecutionId.make_ne_empty began draws)
  obtain ⟨hkept, hleads⟩ := hkeeps.save hbase hname hrecord hfresh hsaved
  have hhere := (Storage.tree_save hkeeps.tree hsaved).2.here
  rw [← hdisk] at hkept hleads hhere
  exact ⟨hkept.tree, hhere.trans (hfoot.folders.here.trans h.here), hstore ▸ hpath,
    Or.inr ⟨hkept, hleads⟩⟩

/-- `Completes a b`: a runner in a world completes any number of batches, one after another, each
under a generated id and with collaborators of its own. Between batches the world goes on, but for
its disk and the path of its store. -/
inductive Completes (a : Runner × World β) : Runner × World β → Prop
  | start : Completes a a
  | pause {r : Runner} {w w' : World β} (h : Completes a (r, w))
      (hdisk : w'.disk = w.disk) (hpath : w'.store.path = w.store.path) : Completes a (r, w')
  | run {r r' : Runner} {w w' : World β} (h : Completes a (r, w))
      (c : Collaborators β) (label : Nat → String) (began : Time.Instant) (draws : Nat → Nat)
      (strategyId : String) (cases : List Case) {e : Execution}
      (hrun : r.runStrategy c label (ExecutionId.make began draws) strategyId cases w =
        (.completed e, r', w')) : Completes a (r', w')

/-- Completed batches keep the storage. -/
lemma Completes.storage_eq {a b : Runner × World β} (h : Completes a b) :
    b.1.storage = a.1.storage := by
  induction h with
  | start => rfl
  | pause h hdisk hpath ih => exact ih
  | run h c label began draws strategyId cases hrun ih =>
    obtain ⟨p, -, -, rfl, -, -⟩ := runStrategy_completed hrun
    exact ih

/-- After any completed batches the storage has what the runner remembers. -/
theorem Completes.persists {path : Option Path} {here : Location} {a b : Runner × World β}
    (h : Completes a b) (ha : Persists path here a.1 a.2)
    (hids : (b.1.history.map fun e => e.id).Nodup)
    (helse : ∀ p ∈ path, ∀ e ∈ b.1.history,
      a.2.disk.place p ≠ a.2.disk.place (a.1.storage.pathOf e.id)) :
    Persists path here b.1 b.2 := by
  induction h with
  | start => exact ha
  | pause h hdisk hpath ih =>
    obtain ⟨htree, hhere, hpath', hhas⟩ := ih hids helse
    exact ⟨hdisk ▸ htree, (congrArg Disk.here hdisk).trans hhere, hpath.trans hpath', hdisk ▸ hhas⟩
  | @run r r' w w' h c label began draws strategyId cases e hrun ih =>
    have hhistory : r'.history = r.history ++ [e] := by
      obtain ⟨p, -, -, rfl, -, -⟩ := runStrategy_completed hrun
      rfl
    have hfront : r.history <+: r'.history := hhistory ▸ List.prefix_append _ _
    have hbefore := ih (hids.sublist (hfront.sublist.map _))
      fun p hp e' he' => helse p hp e' (hfront.subset he')
    refine hbefore.runStrategy hrun hids ?_
    intro p hp e' he'
    have hhere : w.disk.here = a.2.disk.here := hbefore.here.trans ha.here.symm
    rw [Disk.place_congr hhere, Disk.place_congr hhere, h.storage_eq]
    exact helse p hp e' he'

/-! ### A fresh runner -/

/-- What a runner lists depends on what it remembers and not on the order, if start times are
distinct. -/
lemma executionHistory_perm (hperm : r.history.Perm r'.history)
    (hstarts : (r.history.map fun e => e.startedAt).Nodup) (limit : Option Nat)
    (strategyId : Option String) :
    r.executionHistory limit strategyId = r'.executionHistory limit strategyId := by
  have hsorted := Storage.mergeSort_newerFirst_congr
    (hperm.filter fun e => strategyId.all fun id => e.strategyId == id)
    (hstarts.sublist (List.filter_sublist.map _))
  unfold executionHistory
  simp only [hsorted]

/-- All that is remembered is listed if nothing limits it. -/
lemma executionHistory_none (r : Runner) :
    r.executionHistory none none = r.history.mergeSort Storage.newerFirst := by
  have hall : r.history.filter (fun e => (none : Option String).all fun id => e.strategyId == id) =
      r.history := List.filter_eq_self.mpr fun _ _ => rfl
  unfold executionHistory
  simp only [hall]

/-- A fresh runner whose storage has some executions remembers these once it has loaded them. -/
lemma loadHistory_new {d : Disk} {es : List Execution} {storage : Storage}
    (h : storage.Has d es) (hids : (es.map fun e => e.id).Nodup) (hvalues : ∀ e ∈ es, e.Readable)
    (x : Executor) :
    ((new x storage).loadHistory d).1 = .ok es.length ∧
      ((new x storage).loadHistory d).2.history.Perm es := by
  obtain ⟨loaded, hload, hperm⟩ := h.loadAll hids hvalues
  have hsorted : (loaded.mergeSort Storage.newerFirst).Perm es :=
    (List.mergeSort_perm _ _).trans hperm
  have hnew : (new x storage).newlyLoaded (loaded.mergeSort Storage.newerFirst) =
      loaded.mergeSort Storage.newerFirst := by
    unfold newlyLoaded new
    exact List.filter_eq_self.mpr fun _ _ => rfl
  have hstorage : (new x storage).storage = storage := rfl
  unfold loadHistory
  rw [hstorage, hload]
  simp only [Problem.during, hnew]
  exact ⟨by rw [hsorted.length_eq], hsorted⟩

/-- A runner starts with an empty memory on a disk on which nothing is in the folder of its storage,
and completes any number of batches, under ids that differ from each other and from the name of the
store's file. Then any fresh runner with the same storage loads as many executions as the first one
remembers, and the same ones. If their start times are distinct both list the same history, whatever
the limit and the strategy, and the newest stored execution is its first. And both give the same
statistics, over any number of days. -/
theorem restarts (x x' : Executor) (storage : Storage) {w₀ w : World β} {r : Runner}
    (hruns : Completes (new x storage, w₀) (r, w)) (htree : w₀.disk.IsTree)
    (hempty : storage.Empty w₀.disk) (hids : (r.history.map fun e => e.id).Nodup)
    (helse : ∀ p ∈ w₀.store.path, ∀ e ∈ r.history,
      w₀.disk.place p ≠ w₀.disk.place (storage.pathOf e.id))
    (hvalues : ∀ e ∈ r.history, e.Readable) :
    ∃ fresh, (new x' storage).loadHistory w.disk = (.ok r.history.length, fresh) ∧
      fresh.history.Perm r.history ∧
      ((r.history.map fun e => e.startedAt).Nodup →
        (∀ limit strategyId, fresh.executionHistory limit strategyId =
          r.executionHistory limit strategyId) ∧
        storage.latest w.disk = .ok (r.executionHistory none none).head?) ∧
      ∀ days now, fresh.failureStatistics days now = r.failureStatistics days now := by
  have hstart : Persists w₀.store.path w₀.disk.here (new x storage) w₀ :=
    ⟨htree, rfl, rfl, Or.inl ⟨rfl, hempty⟩⟩
  have hstorage : r.storage = storage := hruns.storage_eq
  have hend : storage.Has w.disk r.history := hstorage ▸ (hruns.persists hstart hids helse).has
  obtain ⟨hok, hperm⟩ := loadHistory_new hend hids hvalues x'
  refine ⟨((new x' storage).loadHistory w.disk).2, Prod.ext hok rfl, hperm, fun hstarts => ⟨?_, ?_⟩,
    fun days now => Statistics.ofHistory_perm hperm days now⟩
  · exact fun limit strategyId => (executionHistory_perm hperm.symm hstarts limit strategyId).symm
  · obtain ⟨loaded, hload, hloaded⟩ := hend.loadAll hids hvalues
    unfold Storage.latest
    rw [hload, executionHistory_none, Storage.mergeSort_newerFirst_congr hloaded.symm hstarts]
    rfl

/-! ### Two batches on an empty disk -/

/-- Collaborators with modules that pass, but for the broken ones. -/
def untroubled : Collaborators Unit where
  load _ o := (.ok (), o)
  build _ _ o := (.ok (), o)
  invoke _ c o :=
    (.ends 5 (if c.moduleRef = "broken" then .failed (.ofMessage "refused") else .passed), o)
  teardown _ _ o := (.ends 0 .done, o)
  release _ _ o := (none, o)
  heal _ _ _ o := (.answers 0 (.ok none), o)
  progress _ _ o := o

/-- An executor that skips slow cases. -/
def hasty : Executor := ⟨EngineSettings.default.withSkipTag "slow", false⟩

/-- A storage with its folder where paths start. -/
def records : Storage := ⟨⟨"history"⟩⟩

/-- A world with an empty disk, and a store with a file of its own. -/
def morning : World Unit :=
  ⟨⟨some ⟨"patterns.json"⟩, .empty⟩, .empty, 0, ⟨0, 0⟩, 1000000, 0, ()⟩

/-- A batch in which one case passes, one fails, and one is skipped. -/
def firstBatch : RunOutcome × Runner × World Unit :=
  (new hasty records).runStrategy untroubled (fun _ => "") (ExecutionId.make ⟨0, 0⟩ fun _ => 0)
    "smoke" [⟨"a", "m", "s", []⟩, ⟨"b", "broken", "s", []⟩, ⟨"c", "m", "t", ["slow"]⟩] morning

/-- The next batch, in which a case passes. -/
def secondBatch : RunOutcome × Runner × World Unit :=
  firstBatch.2.1.runStrategy untroubled (fun _ => "") (ExecutionId.make ⟨1, 0⟩ fun _ => 1)
    "nightly" [⟨"a", "m", "s", []⟩] firstBatch.2.2

/-- Both batches are completed. -/
lemma completes_secondBatch :
    Completes (new hasty records, morning) (secondBatch.2.1, secondBatch.2.2) := by
  have hfirst : firstBatch.1.execution?.isSome = true := by decide +kernel
  have hsecond : secondBatch.1.execution?.isSome = true := by decide +kernel
  obtain ⟨e, he⟩ := RunOutcome.exists_eq_completed hfirst
  obtain ⟨e', he'⟩ := RunOutcome.exists_eq_completed hsecond
  exact .run (.run .start untroubled _ _ _ _ _ (Prod.ext he rfl)) untroubled _ _ _ _ _
    (Prod.ext he' rfl)

/-- Two batches on an empty disk: the theorem applies to them.  The fresh runner lists the second
batch before the first one. -/
theorem restarts_twoBatches :
    Completes (new hasty records, morning) (secondBatch.2.1, secondBatch.2.2) ∧
      (secondBatch.2.1.history.map fun e => e.results.map fun r => r.status) =
        [[.passed, .failed, .skipped], [.passed]] ∧
      ∃ fresh, (new hasty records).loadHistory secondBatch.2.2.disk = (.ok 2, fresh) ∧
        fresh.history.Perm secondBatch.2.1.history ∧
        fresh.executionHistory none none = secondBatch.2.1.history.reverse ∧
        records.latest secondBatch.2.2.disk = .ok secondBatch.2.1.history.getLast? := by
  have hempty : records.Empty morning.disk := ⟨by decide, rfl, fun _ => rfl⟩
  have hids : (secondBatch.2.1.history.map fun e => e.id).Nodup := by decide +kernel
  have hplaces : ∀ e ∈ secondBatch.2.1.history,
      morning.disk.place ⟨"patterns.json"⟩ ≠ morning.disk.place (records.pathOf e.id) := by
    decide +kernel
  have helse : ∀ p ∈ morning.store.path, ∀ e ∈ secondBatch.2.1.history,
      morning.disk.place p ≠ morning.disk.place (records.pathOf e.id) := by
    rintro p ⟨⟩ e he
    exact hplaces e he
  have hvalues : ∀ e ∈ secondBatch.2.1.history, e.Readable := by decide +kernel
  have hstarts : (secondBatch.2.1.history.map fun e => e.startedAt).Nodup := by decide +kernel
  have hsorted : secondBatch.2.1.history.reverse.Pairwise fun a b =>
      Storage.newerFirst a b = true := by
    decide +kernel
  have hlisted : secondBatch.2.1.executionHistory none none =
      secondBatch.2.1.history.reverse := by
    rw [executionHistory_none,
      Storage.mergeSort_newerFirst_congr (List.reverse_perm _).symm hstarts]
    exact List.mergeSort_of_pairwise hsorted
  obtain ⟨fresh, hload, hperm, hlist, -⟩ := restarts hasty hasty records completes_secondBatch
    Disk.isTree_empty hempty hids helse hvalues
  obtain ⟨hsame, hlatest⟩ := hlist hstarts
  have hlength : secondBatch.2.1.history.length = 2 := by decide +kernel
  refine ⟨completes_secondBatch, by decide +kernel, fresh, hlength ▸ hload, hperm,
    (hsame none none).trans hlisted, ?_⟩
  rw [hlatest, hlisted, List.head?_reverse]

end Runner

end Retrial
