import Retrial.Proofs.Runner.Memory
import Retrial.Proofs.Runner.Restart
import Retrial.Proofs.Storage.Changes

/-!
# Executions that are remembered twice

What is loaded is compared with what the runner knows already, but not with itself: if two files of
the folder say executions with the same id, both are added, and both are listed and counted
(`Runner.counts_copies`).  This is the only way in which an id can come twice into the memory: where
ids of new batches are new, all ids in the memory differ exactly if no loading has met two such
files (`Runner.nodup_ids_iff`).  Then each execution is listed and counted once
(`Runner.counts_once`).
-/

namespace Retrial

open Text (glyphs)

namespace Runner

variable {β : Type} {r r' : Runner} {call : Call β} {calls : List (Call β)} {reply : Reply}

/-- The ids in the memory. -/
def ids (r : Runner) : List String := r.history.map fun e => e.id

/-- Something holds of each call, and of the runner as it is when the call is made. -/
def Along (P : Runner → Call β → Prop) (r : Runner) : List (Call β) → Prop
  | [] => True
  | call :: calls => P r call ∧ Along P (call.enter r).2 calls

/-- The id of a new batch is not in the memory. -/
def New (r : Runner) : Call β → Prop
  | .run _ _ id _ _ _ => id ∉ r.ids
  | .load _ => True

/-- No two files in the folder say executions with the same id, unless the id is in the memory
already. -/
def Apart (r : Runner) : Call β → Prop
  | .run _ _ _ _ _ _ => True
  | .load d => ∀ name name' e e', r.storage.found d name = some e →
      r.storage.found d name' = some e' → e.id = e'.id → e.id ∉ r.ids → name = name'

/-! ### Ids in the memory -/

/-- Whether an execution is known is said by its id. -/
lemma not_any_eq_iff (r : Runner) (e : Execution) :
    (!r.history.any fun known => known.id == e.id) = true ↔ e.id ∉ r.ids := by
  unfold ids
  rw [Bool.not_eq_true', Bool.eq_false_iff, ne_eq, List.any_eq_true]
  simp only [beq_iff_eq, List.mem_map]

/-- What is newly loaded is not in the memory. -/
lemma disjoint_newlyLoaded (r : Runner) (es : List Execution) :
    r.ids.Disjoint ((r.newlyLoaded es).map fun e => e.id) := by
  intro id hmem hmem'
  obtain ⟨e, he, rfl⟩ := List.mem_map.mp hmem'
  exact (not_any_eq_iff r e).mp (List.mem_filter.mp he).2 hmem

/-- The ids of what is newly loaded differ from each other exactly if the files of the folder are
apart. -/
lemma nodup_newlyLoaded_iff {d : Disk} {es : List Execution} (h : r.storage.Ready d)
    (hload : r.storage.loadAll d = .ok es) :
    ((r.newlyLoaded es).map fun e => e.id).Nodup ↔ Apart r (.load d : Call β) := by
  obtain ⟨entries, hentries⟩ := h.exists_entries
  let unknown (entry : String × Execution) : Bool :=
    !r.history.any fun known => known.id == entry.2.id
  have hes : es = entries.map Prod.snd :=
    Except.ok.inj (hload.symm.trans hentries.loadAll)
  have hids : (r.newlyLoaded es).map (fun e => e.id) =
      (entries.filter unknown).map fun entry => entry.2.id := by
    rw [hes, newlyLoaded, List.filter_map, List.map_map]
    rfl
  have hmem (name : String) (e : Execution) : (name, e) ∈ entries.filter unknown ↔
      r.storage.found d name = some e ∧ e.id ∉ r.ids := by
    rw [List.mem_filter, hentries.mem_iff]
    exact and_congr_right fun _ => not_any_eq_iff r e
  have hnodup : (entries.filter unknown).Nodup := hentries.nodup.of_map.filter _
  rw [hids, List.nodup_map_iff_inj_on hnodup]
  constructor
  · intro hinj name name' e e' hfound hfound' hid hnew
    have hsame := hinj _ ((hmem name e).mpr ⟨hfound, hnew⟩) _
      ((hmem name' e').mpr ⟨hfound', hid ▸ hnew⟩) hid
    exact congrArg Prod.fst hsame
  · rintro hapart ⟨name, e⟩ hentry ⟨name', e'⟩ hentry' hid
    obtain ⟨hfound, hnew⟩ := (hmem name e).mp hentry
    obtain ⟨hfound', -⟩ := (hmem name' e').mp hentry'
    obtain rfl := hapart name name' e e' hfound hfound' hid hnew
    rw [hfound] at hfound'
    rw [Option.some.inj hfound']

/-- One call leaves ids that differ from each other exactly if they differed before, and the files
from which it loads are apart. -/
lemma nodup_ids_step (h : Answers r call reply r') (hnew : New r call)
    (hready : ∀ d, call = .load d → r.storage.Ready d) :
    r'.ids.Nodup ↔ r.ids.Nodup ∧ Apart r call := by
  cases h with
  | @completed c label id strategyId cases w e hid =>
    have hfresh : e.id ∉ r.ids := hid ▸ hnew
    have hids : ids { r with history := r.history ++ [e], lastRun := some r.history.length } =
        r.ids ++ [e.id] := List.map_append
    rw [hids, List.nodup_append_comm, List.singleton_append, List.nodup_cons]
    constructor
    · intro h
      exact ⟨h.2, trivial⟩
    · intro h
      exact ⟨hfresh, h.1⟩
  | failed problem => exact (and_iff_left trivial).symm
  | crashed k => exact (and_iff_left trivial).symm
  | @loaded d es hload =>
    have hids : ids { r with history := r.history ++ r.newlyLoaded es } =
        r.ids ++ (r.newlyLoaded es).map fun e => e.id := List.map_append
    rw [hids, List.nodup_append', nodup_newlyLoaded_iff (hready d rfl) hload]
    constructor
    · intro h
      exact ⟨h.1, h.2.1⟩
    · intro h
      exact ⟨h.1, h.2, disjoint_newlyLoaded r es⟩
  | @notLoaded d problem cause hload =>
    -- from a folder in order something is always loaded
    obtain ⟨entries, hentries⟩ := (hready d rfl).exists_entries
    rw [hentries.loadAll] at hload
    cases hload

/-- After any calls the ids in the memory differ from each other exactly if they did so at first,
and no loading has met two files with the same new id. -/
lemma nodup_ids_iff (r : Runner) (calls : List (Call β)) (hnew : Along New r calls)
    (hready : ∀ d, .load d ∈ calls → r.storage.Ready d) :
    (r.after calls).ids.Nodup ↔ r.ids.Nodup ∧ Along Apart r calls := by
  induction calls generalizing r with
  | nil => exact (and_iff_left trivial).symm
  | cons call calls ih =>
    have hanswers := call.answers r
    have hstep := nodup_ids_step hanswers hnew.1 fun d hd => hready d (hd ▸ List.mem_cons_self)
    have hlater : ∀ d, .load d ∈ calls → (call.enter r).2.storage.Ready d := by
      intro d hd
      rw [hanswers.storage_eq]
      exact hready d (List.mem_cons_of_mem call hd)
    rw [Along, ← and_assoc, ← hstep]
    exact ih (call.enter r).2 hnew.2 hlater

/-! ### Listings and counts -/

/-- If the ids in the memory differ from each other, so do those of a listing. -/
lemma nodup_executionHistory (h : r.ids.Nodup) (limit : Option Nat) (strategyId : Option String) :
    ((r.executionHistory limit strategyId).map fun e => e.id).Nodup := by
  have hsorted : (((r.history.filter fun e => strategyId.all fun id => e.strategyId == id).mergeSort
      Storage.newerFirst).map fun e => e.id).Nodup := by
    rw [((List.mergeSort_perm _ _).map fun e : Execution => e.id).nodup_iff]
    exact (List.filter_sublist.map fun e : Execution => e.id).nodup h
  unfold executionHistory
  cases limit with
  | none => exact hsorted
  | some n => exact ((List.take_sublist n _).map fun e : Execution => e.id).nodup hsorted

/-- If the ids in the memory differ from each other, the statistics count as many executions as
there are ids in the window. -/
lemma totalExecutions_eq_card (h : r.ids.Nodup) (days : Int) (now : Time.Instant) :
    (r.failureStatistics days now).totalExecutions =
      ((Statistics.window r.history days now).map fun e => e.id).toFinset.card := by
  have hwindow : ((Statistics.window r.history days now).map fun e => e.id).Nodup :=
    (List.filter_sublist.map fun e : Execution => e.id).nodup h
  rw [List.toFinset_card_of_nodup hwindow, List.length_map]
  exact (Statistics.counts_ofHistory r.history days now).1.totalExecutions

/-- **Each execution is remembered once.** Let a new runner run batches and load what is stored, in
any order, where the id of each batch is new and each loading is from a folder in order, with
anything in it. Then the ids in its memory differ from each other exactly if no loading meets two
files that say executions with the same id, one that is not yet in the memory. And if they differ,
each execution is listed once, whatever the limit and the strategy, and the statistics count it
once, whatever the number of days. -/
theorem counts_once (x : Executor) (storage : Storage) (calls : List (Call β))
    (hnew : Along New (new x storage) calls)
    (hready : ∀ d, .load d ∈ calls → storage.Ready d) :
    (((new x storage).after calls).ids.Nodup ↔ Along Apart (new x storage) calls) ∧
      (Along Apart (new x storage) calls →
        (∀ limit strategyId, ((((new x storage).after calls).executionHistory limit strategyId).map
          fun e => e.id).Nodup) ∧
        ∀ days now, (((new x storage).after calls).failureStatistics days now).totalExecutions =
          ((Statistics.window ((new x storage).after calls).history days now).map
            fun e => e.id).toFinset.card) := by
  have hiff := nodup_ids_iff (new x storage) calls hnew hready
  have hempty : (new x storage).ids.Nodup := List.nodup_nil
  constructor
  · exact hiff.trans (and_iff_right hempty)
  · intro hapart
    have hids := hiff.mpr ⟨hempty, hapart⟩
    exact ⟨nodup_executionHistory hids, totalExecutions_eq_card hids⟩

/-! ### Two folders -/

/-- The file of an execution that has just begun. -/
def begunFile (id : String) : Node := .file (glyphs (Storage.fileText (Storage.begun id)))

/-- What is read from it. -/
lemma decode_begun (id : String) :
    (Json.decode Execution.codec.read (glyphs (Storage.fileText (Storage.begun id)))).toOption =
      some (Storage.begun id) := by
  have hread : Json.decode Execution.codec.read (glyphs (Storage.fileText (Storage.begun id))) =
      .ok (Storage.begun id) :=
    Json.decode_prettyText (Execution.reads (Storage.readable_begun id))
  rw [hread]
  rfl

/-- A folder with one record. -/
def shelf : Disk :=
  .holding "history" [("old.json", begunFile "old"), ("notes.txt", .file (glyphs "notes"))]

/-- A batch is run, and the folder is loaded twice. -/
def shelfCalls : List (Call Unit) :=
  [.run untroubled (fun _ => "") (ExecutionId.make ⟨0, 0⟩ fun _ => 0) "smoke"
    [⟨"a", "m", "s", ["slow"]⟩] morning, .load shelf, .load shelf]

/-- A batch, and a folder with one record: the theorem applies. -/
theorem counts_once_shelf :
    ((new hasty records).after shelfCalls).ids.Nodup ∧
      (((new hasty records).after shelfCalls).failureStatistics 1 ⟨0, 0⟩).totalExecutions =
        ((Statistics.window ((new hasty records).after shelfCalls).history 1 ⟨0, 0⟩).map
          fun e => e.id).toFinset.card := by
  have hnew : Along New (new hasty records) shelfCalls :=
    ⟨List.not_mem_nil, trivial, trivial, trivial⟩
  have hshelf : records.Ready shelf :=
    Storage.ready_holding (by decide) (by decide) (by decide)
  have hready : ∀ d, .load d ∈ shelfCalls → records.Ready d := by
    intro d hd
    obtain rfl : d = shelf := by simpa [shelfCalls] using hd
    exact hshelf
  have hname {name : String} {e : Execution} (hfound : records.found shelf name = some e) :
      name = "old.json" := by
    have hmem := Storage.mem_namesIn_of_found hfound
    have hfolder : records.folder shelf = ["history"] := Storage.folder_holding (by decide)
    rw [hfolder, shelf, Disk.namesIn_holding] at hmem
    simp only [List.map_cons, List.map_nil, List.mem_cons, List.not_mem_nil, or_false] at hmem
    rcases hmem with rfl | rfl
    · rfl
    · simp [Storage.found, show ¬Storage.IsRecordName "notes.txt" by decide] at hfound
  have hapart (r : Runner) (hstorage : r.storage = records) :
      Apart r (.load shelf : Call Unit) := by
    intro name name' e e' hfound hfound' _ _
    rw [hstorage] at hfound hfound'
    exact (hname hfound).trans (hname hfound').symm
  have halong : Along Apart (new hasty records) shelfCalls :=
    ⟨trivial, hapart _ (Call.answers _ _).storage_eq,
      hapart _ ((Call.answers _ _).storage_eq.trans (Call.answers _ _).storage_eq), trivial⟩
  obtain ⟨hiff, hcounts⟩ := counts_once hasty records shelfCalls hnew hready
  exact ⟨hiff.mpr halong, (hcounts halong).2 1 ⟨0, 0⟩⟩

/-- A folder with two files of the same execution. -/
def copies : Disk := .holding "history" [("a.json", begunFile "old"), ("b.json", begunFile "old")]

/-- **An execution that is remembered twice.** Two files of the folder say the same execution. A new
runner that loads it adds two, with the same id, and lists and counts both. -/
theorem counts_copies :
    records.Ready copies ∧
      ((new hasty records).loadHistory copies).1 = .ok 2 ∧
      ¬((new hasty records).loadHistory copies).2.ids.Nodup ∧
      ((new hasty records).loadHistory copies).2.executionHistory none none =
        [Storage.begun "old", Storage.begun "old"] ∧
      (((new hasty records).loadHistory copies).2.failureStatistics 1 ⟨0, 0⟩).totalExecutions =
        2 := by
  have hready : records.Ready copies :=
    Storage.ready_holding (by decide) (by decide) (by decide)
  have hfolder : records.folder copies = ["history"] := Storage.folder_holding (by decide)
  have hleads : copies.LeadsTo records.base (records.folder copies) :=
    hfolder.symm ▸ Disk.leadsTo_holding (by decide)
  have hlisted : records.listed copies = ["a.json", "b.json"] := by
    unfold Storage.listed
    rw [hfolder, copies, Disk.namesIn_holding]
    exact List.mergeSort_of_pairwise (by decide)
  have hfound {name : String} (hname : Storage.IsRecordName name)
      (hlookup : [("a.json", begunFile "old"), ("b.json", begunFile "old")].lookup name =
        some (begunFile "old")) :
      records.found copies name = some (Storage.begun "old") :=
    (Storage.found_holding (by decide) hname hlookup).trans (decode_begun "old")
  have hload : records.loadAll copies = .ok [Storage.begun "old", Storage.begun "old"] := by
    rw [Storage.loadAll_of_leadsTo hready.tree hready.tidy hleads, hlisted,
      List.filterMap_cons_some (hfound (by decide) rfl),
      List.filterMap_cons_some (hfound (by decide) rfl), List.filterMap_nil]
    exact congrArg Except.ok (List.mergeSort_of_pairwise (by decide))
  have hloaded : (new hasty records).loadHistory copies = (.ok 2,
      { new hasty records with history := [Storage.begun "old", Storage.begun "old"] }) := by
    unfold loadHistory
    have hstorage : (new hasty records).storage = records := rfl
    rw [hstorage, hload]
    rfl
  rw [hloaded]
  refine ⟨hready, rfl, by decide, ?_, by decide⟩
  rw [executionHistory_none]
  exact List.mergeSort_of_pairwise (by decide)

end Runner

end Retrial
