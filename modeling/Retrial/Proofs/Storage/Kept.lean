import Retrial.ExecutionId
import Retrial.Proofs.Disk.Folder
import Retrial.Proofs.Json.Skipping
import Retrial.Proofs.Pattern.Footprint
import Retrial.Proofs.Result.Record
import Retrial.Proofs.Time.Order
import Retrial.Storage.Basic

/-!
# What is in the folder of a storage

The folder of a storage *keeps* some executions if it is tidy, has the whole text of each of them in
the file with its name, and nothing else in it can be taken for an execution (`Storage.Keeps`).  An
empty folder keeps none, what a pattern store does on the disk changes nothing about it
(`Keeps.of_footprint`), since neither a book nor a file on the way to its place can be taken for an
execution, and one that has been saved is kept along with the others (`Keeps.save`).

Loading gives exactly the executions that are kept, in the order of their times
(`Keeps.loadAll`).
-/

namespace Retrial

open Text (Glyph glyphs)

/-! ### Texts that are no executions -/

/-- The text of a book is no execution: it has no id. -/
lemma PatternStore.decode_fileText (b : PatternBook) :
    Json.decode Execution.codec.read (glyphs (fileText b)) = .error (.missing "id") := by
  have hspells : Json.Spells
      (.record [("patterns", (Dict.codec Pattern.codec).write b.patterns),
        ("strategies", (Dict.codec RetryPolicy.codec).write b.policies)])
      ((PatternBook.codec.write b).prettyAt 0) := Json.spells_prettyAt 0 _
  unfold fileText
  rw [Json.glyphs_prettyText]
  refine Json.decode_foreign rfl ?_ hspells
  simp only [List.forall_mem_cons]
  decide

/-! ### Generated ids -/

namespace ExecutionId

/-- The text of a number has no slash. -/
lemma noSlash_toString (n : Int) : Path.NoSlash (toString n) := by
  have hdigits (m : Nat) : '/' ∉ Nat.toDigits 10 m := by
    intro hmem
    have hdigit : ('/').isDigit = true := Json.digits_toDigits m '/' hmem
    revert hdigit
    decide
  obtain ⟨negative, m, htext⟩ := Json.exists_toList_toString n
  unfold Path.NoSlash
  rw [htext]
  cases negative with
  | true => exact List.not_mem_cons_of_ne_of_not_mem (by decide) (hdigits m)
  | false => exact hdigits m

/-- A generated id has no slash. -/
lemma noSlash_make (now : Time.Instant) (draws : Nat → Nat) : Path.NoSlash (make now draws) := by
  have hletter (n : Nat) : letter n ≠ '/' := by
    have hall : ∀ k < 36, alphabet.getD k '0' ≠ '/' := by decide
    exact hall _ (Nat.mod_lt n (by decide))
  unfold Path.NoSlash make
  simp only [String.toList_append, String.toList_ofList, List.mem_append, not_or]
  refine ⟨⟨⟨by decide, noSlash_toString _⟩, by decide⟩, ?_⟩
  intro hmem
  obtain ⟨i, -, hi⟩ := List.mem_map.mp hmem
  exact hletter _ hi

/-- A generated id says something. -/
lemma make_ne_empty (now : Time.Instant) (draws : Nat → Nat) : make now draws ≠ "" := by
  intro h
  have htext := congrArg String.toList h
  simp [make] at htext

end ExecutionId

namespace Storage

variable {s : Storage} {d d' : Disk} {e e' : Execution} {es : List Execution} {name id : String}

/-! ### Names -/

/-- The name of an execution's file. -/
def fileName (id : String) : String := id ++ "." ++ "json"

/-- The file has this name below the storage's folder. -/
lemma pathOf_eq (s : Storage) (id : String) : s.pathOf id = s.base.join (fileName id) := by
  unfold pathOf fileName
  rw [String.append_assoc]
  rfl

/-- Different executions have files of different names. -/
lemma fileName_inj {id' : String} : fileName id = fileName id' ↔ id = id' := by
  unfold fileName
  rw [String.append_left_inj, String.append_left_inj]

/-- An id without slashes makes a name. -/
lemma isName_fileName (hid : Path.NoSlash id) : Path.IsName (fileName id) := by
  have htext : (fileName id).toList = id.toList ++ ['.', 'j', 's', 'o', 'n'] := by
    unfold fileName
    rw [String.toList_append, String.toList_append, List.append_assoc]
    rfl
  have hlong {short : String} (h : short.toList.length < 5) : fileName id ≠ short := by
    intro heq
    have hlength := congrArg List.length htext
    rw [heq, List.length_append] at hlength
    simp only [List.length_cons, List.length_nil] at hlength
    omega
  refine ⟨⟨hlong (by decide), hlong (by decide)⟩, hlong (by decide), ?_⟩
  unfold Path.NoSlash
  rw [htext, List.mem_append, not_or]
  exact ⟨hid, by decide⟩

/-- Whether a file counts as a record, by its name. -/
def IsRecordName (name : String) : Prop := (Path.splitName name).2 = some "json"

/-- An execution's file counts. -/
lemma isRecordName_fileName (hid : id ≠ "") : IsRecordName (fileName id) := by
  unfold IsRecordName fileName
  rw [Path.splitName_append hid (by decide)]

/-- No file on the way to its place counts. -/
lemma not_inPassing {here : Location} (hname : IsRecordName name) :
    ¬PatternStore.InPassing (here ++ [name]) := by
  rintro ⟨here', stem, heq⟩
  have hname' : name = stem ++ ".json" ++ "." ++ "tmp" := by
    rw [List.singleton_inj.mp (List.append_inj' heq rfl).2, String.append_assoc,
      String.append_assoc, String.append_assoc]
    rfl
  have hstem : stem ++ ".json" ≠ "" := by simp
  unfold IsRecordName at hname
  rw [hname', Path.splitName_append hstem (by decide)] at hname
  simp at hname

/-- The folder of a storage. -/
abbrev folder (s : Storage) (d : Disk) : Location := d.place s.base

/-- What a successful save has done: it has made the folder, and written the file into it. -/
lemma save_ok {p : Path} (h : (s.save e d).1 = .ok p) :
    (d.makeFolders s.base).1 = .ok () ∧
      ((d.makeFolders s.base).2.write (s.pathOf e.id) (glyphs (fileText e))).1 = .ok () ∧
      (s.save e d).2 =
        ((d.makeFolders s.base).2.write (s.pathOf e.id) (glyphs (fileText e))).2 := by
  unfold save at h ⊢
  unfold Disk.write
  generalize hmade : d.makeFolders s.base = made at h ⊢
  obtain ⟨_ | _, d₁⟩ := made
  · cases h
  generalize hcreated : d₁.create (s.pathOf e.id) = created at h ⊢
  obtain ⟨_ | l, d₂⟩ := created
  · simp [hcreated] at h
  simp only [hcreated] at h ⊢
  generalize hfilled : d₂.fill l (glyphs (fileText e)) = filled at h ⊢
  obtain ⟨_ | _, d₃⟩ := filled
  · cases h
  · exact ⟨trivial, rfl, rfl⟩

/-- A successful save leaves a tree, with all its folders. -/
lemma tree_save {p : Path} (htree : d.IsTree) (h : (s.save e d).1 = .ok p) :
    (s.save e d).2.IsTree ∧ d.KeepsFolders (s.save e d).2 := by
  obtain ⟨-, -, hdisk⟩ := save_ok h
  obtain ⟨htree₁, hfolders₁⟩ := htree.makeFolders s.base
  obtain ⟨htree₂, hfolders₂⟩ := htree₁.write (s.pathOf e.id) (glyphs (fileText e))
  rw [hdisk]
  exact ⟨htree₂, hfolders₁.trans hfolders₂⟩

/-- A successful save leaves a tidy folder. -/
lemma tidy_save {p : Path} {here : Location} (htidy : d.Tidy here) (h : (s.save e d).1 = .ok p) :
    (s.save e d).2.Tidy here := by
  obtain ⟨-, -, hdisk⟩ := save_ok h
  rw [hdisk]
  exact (htidy.makeFolders s.base).write _ _

/-- After a successful save the folder is there. -/
lemma leadsTo_save {p : Path} (htree : d.IsTree) (hbase : s.base.text ≠ "")
    (h : (s.save e d).1 = .ok p) : (s.save e d).2.LeadsTo s.base (s.folder d) := by
  obtain ⟨hmade, -, hdisk⟩ := save_ok h
  have htree₁ := (htree.makeFolders s.base).1
  rw [hdisk]
  exact (Disk.leadsTo_makeFolders htree hbase hmade).of_keepsFolders (htree₁.write _ _).2

/-- A successful save gives the execution's file its whole text, and leaves the other files of the
folder. -/
lemma fileAt_save {p : Path} (hbase : s.base.text ≠ "") (hname : Path.IsName (fileName e.id))
    (h : (s.save e d).1 = .ok p) (name : String) :
    (s.save e d).2.fileAt (s.folder d ++ [name]) =
      if name = fileName e.id then some (glyphs (fileText e))
      else d.fileAt (s.folder d ++ [name]) := by
  obtain ⟨-, hwritten, hdisk⟩ := save_ok h
  obtain ⟨hhere₁, hfiles₁⟩ := Disk.makeFolders_frame d s.base
  have hplace : (d.makeFolders s.base).2.place (s.pathOf e.id) = s.folder d ++ [fileName e.id] := by
    rw [pathOf_eq, Disk.place_join _ hbase hname, Disk.place_congr hhere₁]
  rw [hdisk]
  split_ifs with hsame
  · rw [hsame, ← hplace]
    exact Disk.fileAt_write hwritten
  · rw [Disk.fileAt_write_of_ne, hfiles₁]
    rw [hplace]
    simpa using hsame

/-! ### What is kept -/

/-- The folder of a storage keeps some executions, each in a file of its own, and nothing else that
could be taken for one. -/
structure Keeps (s : Storage) (d : Disk) (es : List Execution) : Prop where
  tree : d.IsTree
  tidy : d.Tidy (s.folder d)
  named : ∀ e ∈ es, IsRecordName (fileName e.id)
  kept : ∀ e ∈ es, d.fileAt (s.folder d ++ [fileName e.id]) = some (glyphs (fileText e))
  others : ∀ name content, d.fileAt (s.folder d ++ [name]) = some content → IsRecordName name →
    (∃ e ∈ es, name = fileName e.id) ∨ ∀ e, Json.decode Execution.codec.read content ≠ .ok e

/-- Nothing is in the folder of a storage, which may also not be there yet. An empty path names no
folder. -/
structure Empty (s : Storage) (d : Disk) : Prop where
  named : s.base.text ≠ ""
  noFile : d.fileAt (s.folder d) = none
  bare : ∀ name, d.node? (s.folder d ++ [name]) = none

/-- An empty folder has no names in it. -/
lemma Empty.namesIn (h : s.Empty d) : d.namesIn (s.folder d) = [] := by
  apply List.eq_nil_iff_forall_not_mem.mpr
  intro name hname
  rw [Disk.mem_namesIn, h.bare name] at hname
  cases hname

namespace Keeps

/-- An empty folder keeps nothing. -/
lemma of_empty (h : s.Empty d) (htree : d.IsTree) : s.Keeps d [] where
  tree := htree
  tidy := by
    refine ⟨?_, fun name hname => ?_⟩
    · rw [h.namesIn]
      exact List.nodup_nil
    · rw [h.namesIn] at hname
      cases hname
  named e he := by cases he
  kept e he := by cases he
  others name content hfile _ := by
    unfold Disk.fileAt at hfile
    rw [h.bare name] at hfile
    cases hfile

/-- The file of what is kept is in the folder. -/
lemma mem_namesIn (h : s.Keeps d es) (he : e ∈ es) : fileName e.id ∈ d.namesIn (s.folder d) := by
  rw [Disk.mem_namesIn]
  have hfile := h.kept e he
  unfold Disk.fileAt at hfile
  cases hnode : d.node? (s.folder d ++ [fileName e.id]) with
  | none =>
    rw [hnode] at hfile
    cases hfile
  | some n => rfl

/-- Its path names it there. -/
lemma place_pathOf (h : s.Keeps d es) (hbase : s.base.text ≠ "") (he : e ∈ es) :
    d.place (s.pathOf e.id) = s.folder d ++ [fileName e.id] := by
  rw [pathOf_eq, Disk.place_join d hbase (h.tidy.isName _ (h.mem_namesIn he))]

/-- What a store with its file elsewhere does on the disk changes nothing about what is kept. -/
lemma of_footprint {path : Option Path} (h : s.Keeps d es)
    (hfoot : PatternStore.Footprint path d d')
    (hbase : s.base.text ≠ "") (helse : ∀ p ∈ path, ∀ e ∈ es, d.place p ≠ d.place (s.pathOf e.id)) :
    s.Keeps d' es := by
  have hfolder : s.folder d' = s.folder d := Disk.place_congr hfoot.folders.here s.base
  refine ⟨hfoot.tree, hfolder ▸ hfoot.tidy _ h.tidy, h.named, fun e he => ?_,
    fun name content hfile hname => ?_⟩
  · rw [hfolder]
    obtain hsame | hpassing | ⟨p, b, hpath, hl, -⟩ := hfoot.files (s.folder d ++ [fileName e.id])
    · exact hsame.trans (h.kept e he)
    · exact absurd hpassing (not_inPassing (h.named e he))
    · exact absurd ((h.place_pathOf hbase he).trans hl).symm (helse p hpath e he)
  · rw [hfolder] at hfile
    obtain hsame | hpassing | ⟨p, b, -, -, hbook⟩ := hfoot.files (s.folder d ++ [name])
    · exact h.others name content (hsame.symm.trans hfile) hname
    · exact absurd hpassing (not_inPassing hname)
    · obtain rfl : glyphs (PatternStore.fileText b) = content :=
        Option.some.inj (hbook.symm.trans hfile)
      right
      intro e he
      rw [PatternStore.decode_fileText] at he
      cases he

/-- What has been saved is kept along with what was kept before, and its folder is there. -/
lemma save {p : Path} (h : s.Keeps d es) (hbase : s.base.text ≠ "")
    (hname : Path.IsName (fileName e.id)) (hrecord : IsRecordName (fileName e.id))
    (hfresh : ∀ e' ∈ es, e'.id ≠ e.id) (hsaved : (s.save e d).1 = .ok p) :
    s.Keeps (s.save e d).2 (es ++ [e]) ∧
      (s.save e d).2.LeadsTo s.base (s.folder (s.save e d).2) := by
  obtain ⟨htree, hfolders⟩ := tree_save h.tree hsaved
  have hfolder : s.folder (s.save e d).2 = s.folder d := Disk.place_congr hfolders.here s.base
  have hfiles := fileAt_save hbase hname hsaved
  rw [hfolder]
  refine ⟨⟨htree, hfolder ▸ tidy_save h.tidy hsaved, ?_, ?_, ?_⟩, leadsTo_save h.tree hbase hsaved⟩
  · intro e' he'
    rcases List.mem_append.mp he' with he' | he'
    · exact h.named e' he'
    · exact List.mem_singleton.mp he' ▸ hrecord
  · intro e' he'
    rw [hfolder, hfiles]
    rcases List.mem_append.mp he' with he' | he'
    · rw [if_neg fun heq => hfresh e' he' (fileName_inj.mp heq)]
      exact h.kept e' he'
    · obtain rfl := List.mem_singleton.mp he'
      rw [if_pos rfl]
  · intro name content hfile hrecord'
    rw [hfolder, hfiles] at hfile
    by_cases hne : name = fileName e.id
    · exact Or.inl ⟨e, by simp, hne⟩
    · rw [if_neg hne] at hfile
      obtain ⟨e', he', heq⟩ | hforeign := h.others name content hfile hrecord'
      · exact Or.inl ⟨e', List.mem_append_left _ he', heq⟩
      · exact Or.inr hforeign

end Keeps

/-! ### What is loaded -/

instance (name : String) : Decidable (IsRecordName name) :=
  inferInstanceAs (Decidable ((Path.splitName name).2 = some "json"))

/-- The execution in the folder's file of a name that counts. -/
def found (s : Storage) (d : Disk) (name : String) : Option Execution :=
  if IsRecordName name then
    (d.fileAt (s.folder d ++ [name])).bind fun content =>
      (Json.decode Execution.codec.read content).toOption
  else none

/-- What is loaded from the path of a name in the folder. -/
lemma toOption_loadPath (hleads : d.LeadsTo s.base (s.folder d)) (hname : Path.IsName name) :
    (loadPath d (s.base.join name)).toOption =
      (d.fileAt (s.folder d ++ [name])).bind fun content =>
        (Json.decode Execution.codec.read content).toOption := by
  unfold loadPath Disk.fileAt
  rw [hleads.lookup_join hname]
  cases d.node? (s.folder d ++ [name]) with
  | none => rfl
  | some n =>
    cases n with
    | folder => rfl
    | file content =>
      simp only [Node.content, Option.bind_some]
      cases Json.decode Execution.codec.read content <;> rfl

/-- Whether the path of a name in the folder counts. -/
lemma extension?_join (hbase : s.base.text ≠ "") (hname : Path.IsName name) :
    (s.base.join name).extension? = (Path.splitName name).2 := by
  unfold Path.extension?
  rw [Path.fileName?_join hbase hname]
  rfl

/-- The names in the folder, in the order of the listing. -/
def listed (s : Storage) (d : Disk) : List String :=
  (d.namesIn (s.folder d)).mergeSort fun a b => a ≤ b

/-- Loading from a folder that is there gives what is found under its names, the newest first. -/
lemma loadAll_of_leadsTo (htree : d.IsTree) (htidy : d.Tidy (s.folder d))
    (hleads : d.LeadsTo s.base (s.folder d)) :
    s.loadAll d = .ok (((s.listed d).filterMap (s.found d)).mergeSort newerFirst) := by
  have hname : ∀ name ∈ s.listed d, Path.IsName name := fun name hmem =>
    htidy.isName name ((List.mergeSort_perm _ _).mem_iff.mp hmem)
  unfold Storage.loadAll
  rw [if_pos (hleads.exists? htree), hleads.list htree]
  simp only
  rw [List.filter_map, List.filterMap_map, List.filterMap_filter]
  congr 2
  refine List.filterMap_congr fun name hmem => ?_
  have hrecord : ((s.base.join name).extension? == some "json") = true ↔ IsRecordName name := by
    rw [extension?_join hleads.named (hname name hmem), beq_iff_eq]
    rfl
  simp only [Function.comp_apply]
  rw [toOption_loadPath hleads (hname name hmem)]
  exact if_congr hrecord rfl rfl

namespace Keeps

/-- What is found in the folder is what is kept. -/
lemma found_eq_some_iff (h : s.Keeps d es) (hvalues : ∀ e ∈ es, e.Readable) :
    s.found d name = some e ↔ e ∈ es ∧ name = fileName e.id := by
  have hread {e : Execution} (he : e ∈ es) :
      Json.decode Execution.codec.read (glyphs (fileText e)) = .ok e :=
    Json.decode_prettyText (Execution.reads (hvalues e he))
  unfold found
  constructor
  · intro hfound
    split_ifs at hfound with hrecord
    obtain ⟨content, hfile, hdecode⟩ := Option.bind_eq_some_iff.mp hfound
    obtain ⟨e', he', rfl⟩ | hforeign := h.others name content hfile hrecord
    · rw [h.kept e' he', Option.some.injEq] at hfile
      rw [← hfile, hread he'] at hdecode
      obtain rfl : e' = e := Option.some.inj hdecode
      exact ⟨he', rfl⟩
    · cases hresult : Json.decode Execution.codec.read content with
      | error fault =>
        rw [hresult] at hdecode
        cases hdecode
      | ok e' => exact absurd hresult (hforeign e')
  · rintro ⟨he, rfl⟩
    rw [if_pos (h.named e he), h.kept e he, Option.bind_some, hread he]
    rfl

/-- Loading gives the executions that are kept, the newest first. -/
lemma loadAll (h : s.Keeps d es) (hleads : d.LeadsTo s.base (s.folder d))
    (hids : (es.map fun e => e.id).Nodup) (hvalues : ∀ e ∈ es, e.Readable) :
    ∃ loaded : List Execution, s.loadAll d = .ok (loaded.mergeSort newerFirst) ∧
      loaded.Perm es := by
  refine ⟨_, loadAll_of_leadsTo h.tree h.tidy hleads, ?_⟩
  have hperm : (s.listed d).Perm (d.namesIn (s.folder d)) := List.mergeSort_perm _ _
  have hfound (name : String) (e : Execution) :
      s.found d name = some e ↔ e ∈ es ∧ name = fileName e.id := h.found_eq_some_iff hvalues
  have hnodup : ((s.listed d).filterMap (s.found d)).Nodup := by
    refine (hperm.nodup_iff.mpr h.tidy.nodup).filterMap ?_
    intro name name' e hname hname'
    exact ((hfound _ _).mp hname).2.trans ((hfound _ _).mp hname').2.symm
  refine (List.perm_ext_iff_of_nodup hnodup (List.Nodup.of_map _ hids)).mpr fun e => ?_
  rw [List.mem_filterMap]
  constructor
  · rintro ⟨name, -, hname⟩
    exact ((hfound _ _).mp hname).1
  · intro he
    exact ⟨fileName e.id, hperm.mem_iff.mpr (h.mem_namesIn he), (hfound _ _).mpr ⟨he, rfl⟩⟩

end Keeps

/-- Nothing is loaded from an empty folder. -/
lemma Empty.loadAll (h : s.Empty d) : s.loadAll d = .ok [] := by
  unfold Storage.loadAll
  by_cases hexists : d.exists? s.base = true
  · have hlist : d.list s.base = .ok [] := by
      unfold Disk.exists? Disk.lookup at hexists
      unfold Disk.list
      cases ht : d.resolve s.base with
      | error e => simp [ht] at hexists
      | ok t =>
        have hplace := Disk.location_of_resolve ht
        have hfile := h.noFile
        have hnames := h.namesIn
        unfold Disk.fileAt at hfile
        unfold Disk.namesIn at hnames
        unfold folder at hfile hnames
        rw [← hplace] at hfile hnames
        cases hnode : d.node? t.location with
        | none => simp [ht, hnode] at hexists
        | some n =>
          cases n with
          | file content => simp [hnode] at hfile
          | folder =>
            simp only [hnode]
            rw [hnames, List.mergeSort_nil]
    rw [if_pos hexists, hlist]
    simp only [List.map_nil, List.filter_nil, List.filterMap_nil, List.mergeSort_nil]
  · rw [if_neg hexists]

/-! ### The newest first -/

/-- Standing first is transitive. -/
lemma newerFirst_trans (a b c : Execution) (hab : newerFirst a b = true)
    (hbc : newerFirst b c = true) : newerFirst a c = true := Time.Instant.le_trans hbc hab

/-- Of two executions one stands first. -/
lemma newerFirst_total (a b : Execution) : (newerFirst a b || newerFirst b a) = true := by
  rw [Bool.or_eq_true]
  exact Time.Instant.le_total b.startedAt a.startedAt

/-- Executions with distinct start times have one order in which the newest comes first. -/
lemma mergeSort_newerFirst_congr {es es' : List Execution} (hperm : es.Perm es')
    (hstarts : (es.map fun e => e.startedAt).Nodup) :
    es.mergeSort newerFirst = es'.mergeSort newerFirst := by
  have hsorted (es : List Execution) :=
    List.pairwise_mergeSort newerFirst_trans newerFirst_total es
  have hperm' : (es.mergeSort newerFirst).Perm (es'.mergeSort newerFirst) :=
    (List.mergeSort_perm es _).trans (hperm.trans (List.mergeSort_perm es' _).symm)
  refine hperm'.eq_of_pairwise ?_ (hsorted es) (hsorted es')
  intro a b ha hb hab hba
  have ha' : a ∈ es := (List.mergeSort_perm es _).mem_iff.mp ha
  have hb' : b ∈ es := hperm.mem_iff.mpr ((List.mergeSort_perm es' _).mem_iff.mp hb)
  exact List.inj_on_of_nodup_map hstarts ha' hb' (Time.Instant.le_antisymm hba hab)

/-! ### What a storage has -/

/-- What a storage has on a disk is what has been remembered: nothing yet, or what its folder
keeps. -/
def Has (s : Storage) (d : Disk) (es : List Execution) : Prop :=
  es = [] ∧ s.Empty d ∨ s.Keeps d es ∧ d.LeadsTo s.base (s.folder d)

/-- The path of the folder says something. -/
lemma Has.named (h : s.Has d es) : s.base.text ≠ "" := by
  obtain ⟨-, hempty⟩ | ⟨-, hleads⟩ := h
  · exact hempty.named
  · exact hleads.named

/-- On a tree the folder keeps what the storage has. -/
lemma Has.keeps (h : s.Has d es) (htree : d.IsTree) : s.Keeps d es := by
  obtain ⟨rfl, hempty⟩ | ⟨hkeeps, -⟩ := h
  · exact .of_empty hempty htree
  · exact hkeeps

/-- What a storage has is what it loads, the newest first. -/
lemma Has.loadAll (h : s.Has d es) (hids : (es.map fun e => e.id).Nodup)
    (hvalues : ∀ e ∈ es, e.Readable) :
    ∃ loaded : List Execution, s.loadAll d = .ok (loaded.mergeSort newerFirst) ∧
      loaded.Perm es := by
  obtain ⟨rfl, hempty⟩ | ⟨hkeeps, hleads⟩ := h
  · refine ⟨[], ?_, .refl _⟩
    rw [hempty.loadAll, List.mergeSort_nil]
  · exact hkeeps.loadAll hleads hids hvalues

end Storage

end Retrial
