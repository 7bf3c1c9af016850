import Retrial.Proofs.Storage.Kept

/-!
# A storage as a map from ids to executions

Saving and deleting change what is found under one name of the folder and nothing else
(`Ready.save`, `Ready.delete`), whatever else is in the folder: other records, texts that are none,
files of other kinds, folders.  So after any changes that succeed an id has the execution that was
last saved under it; one that was last deleted has none, and one that was never changed has what
its file said at the start (`found_changes`).

The listing of the folder has one execution for each name that counts and whose file can be read
(`Ready.exists_entries`).
-/

namespace Retrial

open Text (Glyph glyphs)

namespace Storage

variable {s : Storage} {d d' : Disk} {e : Execution} {name : String}

/-! ### Folders in order -/

/-- The storage can be used: its disk is a tree, its folder is tidy, and the path of the folder
leads there or nothing is in it. -/
structure Ready (s : Storage) (d : Disk) : Prop where
  tree : d.IsTree
  tidy : d.Tidy (s.folder d)
  reached : s.Empty d ∨ d.LeadsTo s.base (s.folder d)

/-- An id that can name a file: it is not empty, and is one part of a path. -/
structure IsId (id : String) : Prop where
  ne_empty : id ≠ ""
  noSlash : Path.NoSlash id

instance (id : String) : Decidable (IsId id) :=
  decidable_of_iff (id ≠ "" ∧ '/' ∉ id.toList)
    ⟨fun h => ⟨h.1, h.2⟩, fun h => ⟨h.ne_empty, h.noSlash⟩⟩

/-- Nothing is found in an empty folder. -/
lemma Empty.found_eq_none (h : s.Empty d) (name : String) : s.found d name = none := by
  unfold found Disk.fileAt
  rw [h.bare name]
  split_ifs <;> rfl

namespace Ready

/-- The path of the folder says something. -/
lemma named (h : s.Ready d) : s.base.text ≠ "" := by
  rcases h.reached with hempty | hleads
  · exact hempty.named
  · exact hleads.named

/-- What is loaded under an id is what is found under its file's name. -/
lemma toOption_load {id : String} (h : s.Ready d) (hid : IsId id) :
    (s.load d id).toOption = s.found d (fileName id) := by
  have hname : Path.IsName (fileName id) := isName_fileName hid.noSlash
  unfold load
  rw [pathOf_eq]
  rcases h.reached with hempty | hleads
  · rw [hempty.found_eq_none]
    unfold loadPath
    cases hlookup : d.lookup (s.base.join (fileName id)) with
    | error fault => rfl
    | ok n =>
      have hnode := Disk.node?_of_lookup hlookup
      rw [Disk.place_join d hempty.named hname, hempty.bare] at hnode
      cases hnode
  · rw [toOption_loadPath hleads hname, found, if_pos (isRecordName_fileName hid.ne_empty)]

/-- An execution is loaded under an id if it is found there. -/
lemma load_eq_ok_iff {id : String} (h : s.Ready d) (hid : IsId id) :
    s.load d id = .ok e ↔ s.found d (fileName id) = some e := by
  rw [← h.toOption_load hid]
  cases s.load d id <;> simp [Except.toOption]

/-- Loading fails if nothing is found. -/
lemma exists_load_eq_error_iff {id : String} (h : s.Ready d) (hid : IsId id) :
    (∃ problem, s.load d id = .error problem) ↔ s.found d (fileName id) = none := by
  rw [← h.toOption_load hid]
  cases s.load d id <;> simp [Except.toOption]

end Ready

/-! ### Saving and deleting -/

/-- What is found under a name is said by the file there. -/
lemma found_congr (h : d'.fileAt (s.folder d' ++ [name]) = d.fileAt (s.folder d ++ [name])) :
    s.found d' name = s.found d name := by
  unfold found
  rw [h]

/-- A save that succeeds is found under its own name, and changes no other one. -/
lemma Ready.save {p : Path} (h : s.Ready d) (hid : IsId e.id) (hvalue : e.Readable)
    (hsaved : (s.save e d).1 = .ok p) :
    s.Ready (s.save e d).2 ∧ ∀ name, s.found (s.save e d).2 name =
      if name = fileName e.id then some e else s.found d name := by
  have hfolder : s.folder (s.save e d).2 = s.folder d :=
    Disk.place_congr (tree_save h.tree hsaved).2.here s.base
  refine ⟨⟨(tree_save h.tree hsaved).1, hfolder ▸ tidy_save h.tidy hsaved, Or.inr ?_⟩, ?_⟩
  · exact hfolder ▸ leadsTo_save h.tree h.named hsaved
  · intro name
    have hfile := fileAt_save h.named (isName_fileName hid.noSlash) hsaved name
    rw [← hfolder] at hfile
    split_ifs at hfile ⊢ with hname
    · have hread : Json.decode Execution.codec.read (glyphs (fileText e)) = .ok e :=
        Json.decode_prettyText (Execution.reads hvalue)
      subst hname
      unfold found
      rw [if_pos (isRecordName_fileName hid.ne_empty), hfile, Option.bind_some, hread]
      rfl
    · rw [hfolder] at hfile
      exact found_congr (hfolder.symm ▸ hfile)

/-- Nothing is at the path of an id that the disk does not have. -/
lemma Ready.node?_of_not_exists {id : String} (h : s.Ready d) (hid : IsId id)
    (hnone : ¬d.exists? (s.pathOf id) = true) : d.node? (s.folder d ++ [fileName id]) = none := by
  rcases h.reached with hempty | hleads
  · exact hempty.bare _
  · rw [pathOf_eq] at hnone
    unfold Disk.exists? at hnone
    rw [hleads.lookup_join (isName_fileName hid.noSlash)] at hnone
    cases hnode : d.node? (s.folder d ++ [fileName id]) with
    | none => rfl
    | some n => simp [hnode] at hnone

/-- What removing the file of an id does to the folder. -/
lemma Ready.remove {id : String} (h : s.Ready d) (hid : IsId id)
    (hok : (d.remove (s.pathOf id)).1 = .ok ()) :
    s.Ready (d.remove (s.pathOf id)).2 ∧ ∀ name, s.found (d.remove (s.pathOf id)).2 name =
      if name = fileName id then none else s.found d name := by
  obtain ⟨htree, hfolders⟩ := h.tree.remove (s.pathOf id)
  have hfolder : s.folder (d.remove (s.pathOf id)).2 = s.folder d :=
    Disk.place_congr hfolders.here s.base
  have hplace : d.place (s.pathOf id) = s.folder d ++ [fileName id] := by
    rw [pathOf_eq, Disk.place_join d h.named (isName_fileName hid.noSlash)]
  have hfile (name : String) := h.tree.fileAt_remove hok (s.folder d ++ [name])
  refine ⟨⟨htree, hfolder ▸ h.tidy.remove _, ?_⟩, ?_⟩
  · obtain hempty | hleads := h.reached
    · -- the file that was removed lay in the folder, which is not empty
      rcases Disk.remove_cases d (s.pathOf id) with ⟨e, he, -⟩ | ⟨content, hnode, -, -⟩
      · rw [he] at hok
        cases hok
      · rw [hplace, hempty.bare] at hnode
        cases hnode
    · exact Or.inr (hfolder ▸ hleads.of_keepsFolders hfolders)
  · intro name
    have hname : s.folder d ++ [name] = d.place (s.pathOf id) ↔ name = fileName id := by
      rw [hplace]
      simp
    split_ifs with hsame
    · unfold found
      rw [hfolder, hfile, if_pos (hname.mpr hsame)]
      split_ifs <;> rfl
    · apply found_congr
      rw [hfolder, hfile, if_neg fun heq => hsame (hname.mp heq)]

/-- After a delete that succeeds nothing is found under the name of the id, and no other name has
changed. -/
lemma Ready.delete {id : String} (h : s.Ready d) (hid : IsId id)
    (hok : (s.delete id d).1 = .ok ()) :
    s.Ready (s.delete id d).2 ∧ ∀ name, s.found (s.delete id d).2 name =
      if name = fileName id then none else s.found d name := by
  unfold Storage.delete at hok ⊢
  by_cases hexists : d.exists? (s.pathOf id) = true
  · rw [if_pos hexists] at hok ⊢
    apply h.remove hid
    simp only at hok
    cases hremoved : (d.remove (s.pathOf id)).1 with
    | error fault =>
      rw [hremoved] at hok
      cases hok
    | ok _ => rfl
  · rw [if_neg hexists]
    refine ⟨h, ?_⟩
    intro name
    split_ifs with hsame
    · subst hsame
      unfold found Disk.fileAt
      rw [h.node?_of_not_exists hid hexists]
      split_ifs <;> rfl
    · rfl

/-! ### Changes, one after another -/

/-- A change of what is stored. -/
inductive Change
  | save (e : Execution)
  | delete (id : String)

namespace Change

/-- The id that a change is about. -/
def id : Change → String
  | save e => e.id
  | delete id => id

/-- What an id has after a change. -/
def kept : Change → Option Execution
  | save e => some e
  | delete _ => none

/-- Makes a change. -/
def enter (s : Storage) : Change → Disk → Outcome Unit × Disk
  | save e, d => ((s.save e d).1.map fun _ => (), (s.save e d).2)
  | delete id, d => s.delete id d

/-- The last of some changes that is about an id. -/
def lastOn (id : String) (cs : List Change) : Option Change :=
  (cs.filter fun c => c.id == id).getLast?

/-- One more change is the last one about its own id. -/
lemma lastOn_append_singleton (id : String) (cs : List Change) (c : Change) :
    lastOn id (cs ++ [c]) = if c.id = id then some c else lastOn id cs := by
  unfold lastOn
  rw [List.filter_append, List.filter_singleton]
  by_cases hid : c.id = id
  · simp [hid]
  · have hother : (c.id == id) = false := by simpa using hid
    simp [hid, hother]

/-- The last change about an id is one of the changes, and about this id. -/
lemma mem_of_lastOn {id : String} {cs : List Change} {c : Change} (h : lastOn id cs = some c) :
    c ∈ cs ∧ c.id = id := by
  have hmem := List.mem_filter.mp (List.mem_of_getLast? h)
  exact ⟨hmem.1, by simpa using hmem.2⟩

end Change

/-- Changes that all succeed lead from one disk to another. -/
inductive Made (s : Storage) (d : Disk) : List Change → Disk → Prop
  | none : Made s d [] d
  | after {cs : List Change} {d₁ d₂ : Disk} (h : Made s d cs d₁) (c : Change)
      (hc : c.enter s d₁ = (.ok (), d₂)) : Made s d (cs ++ [c]) d₂

variable {cs : List Change}

/-- What one change does to what is found. -/
lemma Ready.enter (h : s.Ready d) {c : Change} (hid : IsId c.id)
    (hvalue : ∀ e, c = .save e → e.Readable) (hc : c.enter s d = (.ok (), d')) :
    s.Ready d' ∧ ∀ name, s.found d' name =
      if name = fileName c.id then c.kept else s.found d name := by
  cases c with
  | save e =>
    cases hsaved : (s.save e d).1 with
    | error problem => simp [Change.enter, hsaved, Except.map] at hc
    | ok p =>
      obtain rfl : (s.save e d).2 = d' := congrArg Prod.snd hc
      exact h.save hid (hvalue e rfl) hsaved
  | delete id =>
    obtain rfl : (s.delete id d).2 = d' := congrArg Prod.snd hc
    exact h.delete hid (congrArg Prod.fst hc)

/-- After changes that all succeed, an id that has been changed has what the last change left it,
and what is found under any other name is what was found there at the start. -/
lemma found_changes (h : s.Ready d) (hmade : s.Made d cs d') (hids : ∀ c ∈ cs, IsId c.id)
    (hvalues : ∀ e, .save e ∈ cs → e.Readable) :
    s.Ready d' ∧
      (∀ id, s.found d' (fileName id) =
        match Change.lastOn id cs with
        | some c => c.kept
        | none => s.found d (fileName id)) ∧
      ∀ name, (∀ c ∈ cs, name ≠ fileName c.id) → s.found d' name = s.found d name := by
  induction hmade with
  | none => exact ⟨h, fun _ => rfl, fun _ _ => rfl⟩
  | @after cs d₁ d₂ hmade c hc ih =>
    have hbefore : ∀ c' ∈ cs, c' ∈ cs ++ [c] := fun c' hc' => List.mem_append_left _ hc'
    have hlast : c ∈ cs ++ [c] := by simp
    obtain ⟨hready, hchanged, hothers⟩ := ih (fun c' hc' => hids c' (hbefore c' hc'))
      fun e he => hvalues e (hbefore _ he)
    obtain ⟨hready', hfound⟩ := hready.enter (hids c hlast)
      (fun e he => hvalues e (he ▸ hlast)) hc
    refine ⟨hready', ?_, ?_⟩
    · intro id
      rw [hfound, Change.lastOn_append_singleton]
      by_cases hid : c.id = id
      · rw [if_pos hid, if_pos (fileName_inj.mpr hid.symm)]
      · rw [if_neg hid, if_neg fun heq => hid (fileName_inj.mp heq).symm]
        exact hchanged id
    · intro name hname
      rw [hfound, if_neg (hname c hlast)]
      exact hothers name fun c' hc' => hname c' (hbefore c' hc')

/-! ### Listings -/

/-- The listing of the folder, with the names: each name that counts and whose file can be read is
there once, with the execution that its file says, and the newest come first. -/
structure Lists (s : Storage) (d : Disk) (entries : List (String × Execution)) : Prop where
  loadAll : s.loadAll d = .ok (entries.map Prod.snd)
  nodup : (entries.map Prod.fst).Nodup
  mem_iff : ∀ name e, (name, e) ∈ entries ↔ s.found d name = some e
  sorted : entries.Pairwise fun a b => b.2.startedAt.le a.2.startedAt = true

/-- What is found under a name lies in the folder. -/
lemma mem_namesIn_of_found (h : s.found d name = some e) : name ∈ d.namesIn (s.folder d) := by
  unfold found at h
  split_ifs at h
  obtain ⟨content, hfile, -⟩ := Option.bind_eq_some_iff.mp h
  rw [Disk.mem_namesIn]
  unfold Disk.fileAt at hfile
  cases hnode : d.node? (s.folder d ++ [name]) with
  | none => simp [hnode] at hfile
  | some n => rfl

/-- The entries of some names, each with what is found under it. -/
def entriesOf (found : String → Option Execution) (names : List String) :
    List (String × Execution) :=
  names.filterMap fun name => (found name).map fun e => (name, e)

/-- A name has an entry if something is found under it. -/
lemma mem_entriesOf (found : String → Option Execution) (names : List String) :
    (name, e) ∈ entriesOf found names ↔ name ∈ names ∧ found name = some e := by
  simp only [entriesOf, List.mem_filterMap, Option.map_eq_some_iff, Prod.mk.injEq]
  constructor
  · rintro ⟨name', hname', e', hfound, rfl, rfl⟩
    exact ⟨hname', hfound⟩
  · rintro ⟨hname, hfound⟩
    exact ⟨name, hname, e, hfound, rfl, rfl⟩

/-- The executions of the entries are all that is found. -/
lemma map_snd_entriesOf (found : String → Option Execution) (names : List String) :
    (entriesOf found names).map Prod.snd = names.filterMap found := by
  unfold entriesOf
  rw [List.map_filterMap]
  simp only [Option.map_map, Function.comp_def, Option.map_id']

/-- The entries have the names in their order. -/
lemma map_fst_entriesOf_sublist (found : String → Option Execution) (names : List String) :
    ((entriesOf found names).map Prod.fst).Sublist names := by
  unfold entriesOf
  induction names with
  | nil => exact .slnil
  | cons name names ih =>
    rw [List.filterMap_cons]
    cases found name with
    | none => exact ih.cons name
    | some e => exact ih.cons_cons name

/-- A folder in order has a listing. -/
lemma Ready.exists_entries (h : s.Ready d) : ∃ entries, s.Lists d entries := by
  rcases h.reached with hempty | hleads
  · refine ⟨[], ⟨hempty.loadAll, List.nodup_nil, ?_, .nil⟩⟩
    intro name e
    rw [hempty.found_eq_none]
    simp
  · let entries := entriesOf (s.found d) (s.listed d)
    let newer (a b : String × Execution) : Bool := newerFirst a.2 b.2
    have hlisted : (s.listed d).Perm (d.namesIn (s.folder d)) := List.mergeSort_perm _ _
    have hperm : (entries.mergeSort newer).Perm entries := List.mergeSort_perm _ _
    refine ⟨entries.mergeSort newer, ⟨?_, ?_, ?_, ?_⟩⟩
    · rw [loadAll_of_leadsTo h.tree h.tidy hleads, ← map_snd_entriesOf,
        List.map_mergeSort (s := newerFirst) fun a _ b _ => rfl]
    · rw [(hperm.map Prod.fst).nodup_iff]
      exact (map_fst_entriesOf_sublist _ _).nodup (hlisted.nodup_iff.mpr h.tidy.nodup)
    · intro name e
      rw [hperm.mem_iff, mem_entriesOf, hlisted.mem_iff]
      exact ⟨fun hmem => hmem.2, fun hfound => ⟨mem_namesIn_of_found hfound, hfound⟩⟩
    · apply List.pairwise_mergeSort
      · intro a b c hab hbc
        exact newerFirst_trans a.2 b.2 c.2 hab hbc
      · intro a b
        exact newerFirst_total a.2 b.2

/-- An execution that one entry alone has is listed once. -/
lemma count_entries {entries : List (String × Execution)} (hnodup : (entries.map Prod.fst).Nodup)
    (hmem : (name, e) ∈ entries) (hother : ∀ name', (name', e) ∈ entries → name' = name) :
    (entries.map Prod.snd).count e = 1 := by
  have hsame : entries.countP (fun entry => entry.2 == e) = entries.count (name, e) := by
    apply List.countP_congr
    rintro ⟨name', e'⟩ hentry
    simp only [beq_iff_eq, Prod.mk.injEq]
    constructor
    · rintro rfl
      exact ⟨hother name' hentry, rfl⟩
    · intro h
      exact h.2
  have hcount : (entries.map Prod.snd).count e = entries.countP fun entry => entry.2 == e := by
    unfold List.count
    rw [List.countP_map]
    rfl
  rw [hcount, hsame]
  exact List.count_eq_one_of_mem hnodup.of_map hmem

/-- After changes that all succeed, an execution that is found under another name than its own was
found there at the start. -/
lemma found_of_ne_fileName (h : s.Ready d) (hmade : s.Made d cs d') (hids : ∀ c ∈ cs, IsId c.id)
    (hvalues : ∀ e, .save e ∈ cs → e.Readable) (hname : name ≠ fileName e.id)
    (hfound : s.found d' name = some e) : s.found d name = some e := by
  obtain ⟨-, hchanged, hothers⟩ := found_changes h hmade hids hvalues
  by_cases hnone : ∀ c ∈ cs, name ≠ fileName c.id
  · rw [← hothers name hnone]
    exact hfound
  · push Not at hnone
    obtain ⟨c, -, rfl⟩ := hnone
    rw [hchanged] at hfound
    cases hlast : Change.lastOn c.id cs with
    | none =>
      rw [hlast] at hfound
      exact hfound
    | some last =>
      rw [hlast] at hfound
      have hid := (Change.mem_of_lastOn hlast).2
      -- the last change would have saved the execution, which then has this id
      cases last with
      | delete _ => cases hfound
      | save saved =>
        obtain rfl : saved = e := Option.some.inj hfound
        exact absurd (congrArg fileName hid.symm) hname

/-! ### The map -/

/-- **A storage is a map from ids to executions.** Its folder may hold anything at the start:
records, texts that are none, files of other kinds, folders. Then, after any saves and deletes that
succeed, what was last saved under an id is loaded; what was deleted is not; and of an id that was
never changed, loading gives what its file said at the start. The listing does not fail. It has one
execution for each name that counts and whose file can be read, the newest first, so each one that
is stored is there once; and the names that were never changed have in it what they had. -/
theorem refines_map (h : s.Ready d) (hmade : s.Made d cs d') (hids : ∀ c ∈ cs, IsId c.id)
    (hvalues : ∀ e, .save e ∈ cs → e.Readable) :
    (∀ id, IsId id →
      (∀ e, Change.lastOn id cs = some (.save e) → s.load d' id = .ok e) ∧
      (Change.lastOn id cs = some (.delete id) → ∃ problem, s.load d' id = .error problem) ∧
      (Change.lastOn id cs = none → (s.load d' id).toOption = s.found d (fileName id))) ∧
    ∃ entries, s.Lists d' entries ∧
      (∀ id e, Change.lastOn id cs = some (.save e) →
        (fileName id, e) ∈ entries ∧
        ((∀ name, s.found d name = some e → name = fileName id) →
          (entries.map Prod.snd).count e = 1)) ∧
      ∀ name e, (∀ c ∈ cs, name ≠ fileName c.id) →
        ((name, e) ∈ entries ↔ s.found d name = some e) := by
  obtain ⟨hready, hchanged, hothers⟩ := found_changes h hmade hids hvalues
  obtain ⟨entries, hentries⟩ := hready.exists_entries
  refine ⟨?_, entries, hentries, ?_, ?_⟩
  · intro id hid
    refine ⟨?_, ?_, ?_⟩
    · intro e hlast
      rw [hready.load_eq_ok_iff hid, hchanged, hlast]
      rfl
    · intro hlast
      rw [hready.exists_load_eq_error_iff hid, hchanged, hlast]
      rfl
    · intro hlast
      rw [hready.toOption_load hid, hchanged, hlast]
  · intro id e hlast
    have hsaved : s.found d' (fileName id) = some e := by
      rw [hchanged, hlast]
      rfl
    have hmem := (hentries.mem_iff (fileName id) e).mpr hsaved
    refine ⟨hmem, ?_⟩
    intro halone
    apply count_entries hentries.nodup hmem
    intro name hname
    obtain rfl : e.id = id := (Change.mem_of_lastOn hlast).2
    by_contra hne
    have hbefore := found_of_ne_fileName h hmade hids hvalues hne
      ((hentries.mem_iff name e).mp hname)
    exact hne (halone name hbefore)
  · intro name e hname
    rw [hentries.mem_iff, hothers name hname]

/-! ### A folder with everything in it -/

section Holding

variable {folder : String} {content : List (String × Node)}

/-- Where the folder is. -/
lemma folder_holding (hfolder : Path.IsName folder) :
    (Storage.mk ⟨folder⟩).folder (Disk.holding folder content) = [folder] :=
  (Disk.eq_foldl_of_follow (Disk.leadsTo_holding hfolder).follow).symm

/-- What is found in it is said by what has been put there. -/
lemma found_holding (hfolder : Path.IsName folder) (hname : IsRecordName name)
    {text : List Glyph} (hlookup : content.lookup name = some (.file text)) :
    (Storage.mk ⟨folder⟩).found (Disk.holding folder content) name =
      (Json.decode Execution.codec.read text).toOption := by
  unfold found Disk.fileAt
  rw [if_pos hname, folder_holding hfolder, List.singleton_append, Disk.node?_holding_name, hlookup]
  rfl

/-- A storage whose folder lies where paths start is ready, whatever is in the folder. -/
lemma ready_holding (hfolder : Path.IsName folder) (hnodup : (content.map Prod.fst).Nodup)
    (hnames : ∀ entry ∈ content, Path.IsName entry.1) :
    (Storage.mk ⟨folder⟩).Ready (Disk.holding folder content) := by
  refine ⟨Disk.isTree_holding folder content, ?_, Or.inr ?_⟩
  · rw [folder_holding hfolder]
    exact Disk.tidy_holding hnodup hnames
  · rw [folder_holding hfolder]
    exact Disk.leadsTo_holding hfolder

end Holding

/-- A storage with a folder of its own. -/
def archive : Storage := ⟨⟨"archive"⟩⟩

/-- An execution that has just begun. -/
def begun (id : String) : Execution := Execution.start ⟨0, 0⟩ id "smoke"

/-- An execution that has just begun can be read back. -/
lemma readable_begun (id : String) : (begun id).Readable := by
  have hstarted : (⟨0, 0⟩ : Time.Instant).Valid := by decide
  have hsummary : Summary.zero.Readable := by decide
  refine ⟨?_, hstarted, ?_, hsummary⟩
  · rintro r ⟨⟩
  · rintro t ⟨⟩

/-- Whatever is loaded can be read back. -/
lemma readable_of_load {id : String} (h : s.load d id = .ok e) : e.Readable := by
  unfold load loadPath at h
  split at h
  · cases h
  · rename_i node _
    cases hcontent : node.content with
    | error fault =>
      rw [hcontent] at h
      cases h
    | ok content =>
      rw [hcontent] at h
      cases hdecode : Json.decode Execution.codec.read content with
      | error fault =>
        simp only [hdecode] at h
        cases h
      | ok e' =>
        simp only [hdecode] at h
        cases h
        exact Execution.readable_of_decode hdecode

/-- A folder with a record, a text that breaks off, a file of another kind, and a folder. -/
def cluttered : Disk :=
  Disk.holding "archive"
    [("old.json", .file (glyphs (fileText (begun "old")))), ("broken.json", .file (glyphs "\x7b")),
      ("notes.txt", .file (glyphs "notes")), ("folder.json", .folder)]

/-- One execution is saved there, and the old one deleted. -/
def tidying : List Change := [.save (begun "new"), .delete "old"]

/-- The disk after both. -/
def tidied : Disk := (archive.delete "old" (archive.save (begun "new") cluttered).2).2

/-- Saving and deleting in a folder with everything in it: the theorem applies. -/
theorem refines_map_cluttered :
    archive.Ready cluttered ∧ archive.Made cluttered tidying tidied ∧
      archive.load tidied "new" = .ok (begun "new") ∧
      (∃ problem, archive.load tidied "old" = .error problem) ∧
      ∃ es, archive.loadAll tidied = .ok es ∧ begun "new" ∈ es := by
  have hready : archive.Ready cluttered := ready_holding (by decide) (by decide) (by decide)
  have hmade : archive.Made cluttered tidying tidied :=
    .after (.after .none (.save (begun "new")) (Prod.ext rfl rfl)) (.delete "old")
      (Prod.ext rfl rfl)
  have hids : ∀ c ∈ tidying, IsId c.id := by decide
  have hvalues : ∀ e, .save e ∈ tidying → e.Readable := by
    intro e he
    obtain rfl : e = begun "new" := by simpa [tidying] using he
    exact readable_begun "new"
  obtain ⟨hloads, entries, hentries, hsaved, -⟩ := refines_map hready hmade hids hvalues
  have hin := (hsaved "new" (begun "new") rfl).1
  exact ⟨hready, hmade, (hloads "new" (by decide)).1 _ rfl, (hloads "old" (by decide)).2.1 rfl, _,
    hentries.loadAll, List.mem_map_of_mem hin⟩

/-- The map does not hold whatever is saved: an execution that began in a leap second within a
minute is not loaded as it was. -/
theorem not_refines_map_of_leapWithinMinute :
    ¬∀ (s : Storage) (d d' : Disk) (cs : List Change), s.Ready d → s.Made d cs d' →
      (∀ c ∈ cs, IsId c.id) → (∀ e, .save e ∈ cs → e.Representable) →
      ∀ id e, IsId id → Change.lastOn id cs = some (.save e) → s.load d' id = .ok e := by
  intro h
  have hready : archive.Ready cluttered := ready_holding (by decide) (by decide) (by decide)
  have hmade : archive.Made cluttered [.save leapingExecution]
      (archive.save leapingExecution cluttered).2 :=
    .after .none (.save leapingExecution) (Prod.ext rfl rfl)
  have hvalues : ∀ e, .save e ∈ [Change.save leapingExecution] → e.Representable := by
    intro e he
    obtain rfl : e = leapingExecution := by simpa using he
    exact representable_leapingExecution
  have hload := h archive cluttered _ [.save leapingExecution] hready hmade (by decide) hvalues
    "leap" leapingExecution (by decide) rfl
  exact not_readable_leapingExecution (readable_of_load hload)

end Storage

end Retrial
