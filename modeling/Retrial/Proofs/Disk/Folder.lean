import Retrial.Proofs.Disk.Beside
import Retrial.Proofs.Disk.Tree

/-!
# What is in a folder

A path that is followed all the way names a folder that is there (`Disk.LeadsTo`); so does every
path along which folders have just been made.  What is found below it by a single name lies in the
folder under this name (`LeadsTo.lookup_join`), and the listing of the folder has the names of all
that lies in it (`LeadsTo.list`, `Disk.mem_namesIn`).

A folder is *tidy* if it lists each name once, and only names that a path can end in.  What puts
things into a tidy folder by way of paths leaves it tidy.
-/

namespace Retrial

open Text (Glyph)

namespace Path

/-- The text is a name that something in a folder can have: one part of a path, that leads down. -/
structure IsName (name : String) : Prop where
  counts : Counts name
  down : name ≠ ".."
  noSlash : NoSlash name

instance (name : String) : Decidable (IsName name) :=
  decidable_of_iff ((name ≠ "" ∧ name ≠ ".") ∧ name ≠ ".." ∧ '/' ∉ name.toList)
    ⟨fun h => ⟨h.1, h.2.1, h.2.2⟩, fun h => ⟨h.counts, h.down, h.noSlash⟩⟩

/-- A slash ends the parts before it. -/
lemma splitSlashes_append_slash (cs rest : List Char) :
    splitSlashes (cs ++ '/' :: rest) = splitSlashes cs ++ splitSlashes rest := by
  induction cs with
  | nil => exact splitSlashes_slash rest
  | cons c cs ih =>
    rw [List.cons_append, splitSlashes, splitSlashes, ih]
    cases hcs : splitSlashes cs with
    | nil => exact absurd hcs (splitSlashes_ne_nil cs)
    | cons part parts =>
      simp only [List.cons_append]
      split_ifs <;> rfl

/-- A text without slashes is one part. -/
lemma splitSlashes_of_noSlash {cs : List Char} (h : '/' ∉ cs) : splitSlashes cs = [cs] := by
  have hone := splitSlashes_append cs [] h
  simpa [splitSlashes] using hone

/-- A name does not start with a slash. -/
lemma IsName.head?_ne {name : String} (h : IsName name) : name.toList.head? ≠ some '/' :=
  fun heq => h.noSlash (List.mem_of_mem_head? heq)

/-- Nor does it end with one. -/
lemma IsName.getLast?_ne {name : String} (h : IsName name) : name.toList.getLast? ≠ some '/' :=
  fun heq => h.noSlash (List.mem_of_getLast? heq)

/-- The text of a path below another one. -/
lemma toList_join {p : Path} (hp : p.text ≠ "") {name : String} (hname : IsName name) :
    (p.join name).text.toList =
      if p.text.toList.getLast? = some '/' then p.text.toList ++ name.toList
      else p.text.toList ++ '/' :: name.toList := by
  have hslash : ¬(name.toList.head? == some '/') = true := by simpa using hname.head?_ne
  have hempty : (p.text == "") = false := by simpa using hp
  unfold join
  rw [if_neg hslash, hempty, Bool.false_or]
  by_cases hlast : p.text.toList.getLast? = some '/'
  · rw [if_pos (by simpa using hlast), if_pos hlast, String.toList_append]
  · rw [if_neg (by simpa using hlast), if_neg hlast, String.toList_append, String.toList_append,
      List.append_assoc]
    rfl

/-- A path below another one has its parts, but for empty ones, and the name. -/
lemma exists_pieces_join {p : Path} (hp : p.text ≠ "") {name : String} (hname : IsName name) :
    ∃ front, (p.join name).pieces = front ++ [name] ∧
      (front.filter fun s => s != "") = p.pieces.filter fun s => s != "" := by
  have hone : splitSlashes name.toList = [name.toList] := splitSlashes_of_noSlash hname.noSlash
  have hsplit (cs : List Char) : (splitSlashes (cs ++ '/' :: name.toList)).map String.ofList =
      (splitSlashes cs).map String.ofList ++ [name] := by
    rw [splitSlashes_append_slash, hone, List.map_append, List.map_singleton, String.ofList_toList]
  unfold pieces
  rw [toList_join hp hname]
  by_cases hlast : p.text.toList.getLast? = some '/'
  · obtain ⟨front, hfront⟩ := List.getLast?_eq_some_iff.mp hlast
    refine ⟨(splitSlashes front).map String.ofList, ?_, ?_⟩
    · rw [if_pos hlast, hfront, List.append_assoc, List.singleton_append, hsplit]
    · rw [hfront, splitSlashes_append_slash, List.map_append, List.filter_append]
      exact (List.append_nil _).symm
  · exact ⟨(splitSlashes p.text.toList).map String.ofList, by rw [if_neg hlast, hsplit], rfl⟩

/-- A path below another one starts where this one does. -/
lemma isAbsolute_join {p : Path} (hp : p.text ≠ "") {name : String} (hname : IsName name) :
    (p.join name).isAbsolute = p.isAbsolute := by
  have hne : p.text.toList ≠ [] := fun hnil => hp (String.toList_eq_nil_iff.mp hnil)
  obtain ⟨c, cs, hcs⟩ := List.exists_cons_of_ne_nil hne
  unfold isAbsolute
  rw [toList_join hp hname, hcs]
  split_ifs <;> rfl

/-- A path below another one does not say that it is a folder. -/
lemma getLast?_join_ne {p : Path} (hp : p.text ≠ "") {name : String} (hname : IsName name) :
    (p.join name).text.toList.getLast? ≠ some '/' := by
  have hlast : ∃ c, name.toList.getLast? = some c := by
    have hne : name.toList ≠ [] := fun hnil => hname.counts.1 (String.toList_eq_nil_iff.mp hnil)
    exact ⟨_, List.getLast?_eq_some_getLast hne⟩
  obtain ⟨c, hc⟩ := hlast
  have hends (front : List Char) : (front ++ name.toList).getLast? ≠ some '/' := by
    rw [List.getLast?_append, hc, Option.some_or, ← hc]
    exact hname.getLast?_ne
  rw [toList_join hp hname]
  split_ifs
  · exact hends _
  · rw [← List.singleton_append, ← List.append_assoc]
    exact hends _

/-- The name of a path below another one. -/
lemma fileName?_join {p : Path} (hp : p.text ≠ "") {name : String} (hname : IsName name) :
    (p.join name).fileName? = some name := by
  obtain ⟨front, hpieces, -⟩ := exists_pieces_join hp hname
  have hkeep : [name].filter (fun s => s != "" && s != ".") = [name] := by
    simpa [Counts] using hname.counts
  unfold fileName? parts
  rw [hpieces, List.filter_append, hkeep, List.getLast?_concat]
  simpa [Option.filter] using hname.down

/-- A name is cut at a point that no other follows. -/
lemma splitName_append {stem ext : String} (hstem : stem ≠ "") (hext : '.' ∉ ext.toList) :
    splitName (stem ++ "." ++ ext) = (stem, some ext) := by
  have hne : stem.toList.reverse ≠ [] := fun hnil =>
    hstem (String.toList_eq_nil_iff.mp (List.reverse_eq_nil_iff.mp hnil))
  have hback : (stem ++ "." ++ ext).toList.reverse =
      ext.toList.reverse ++ '.' :: stem.toList.reverse := by
    simp [String.toList_append]
  have htake : (ext.toList.reverse ++ '.' :: stem.toList.reverse).takeWhile (fun c => c != '.') =
      ext.toList.reverse := by
    rw [List.takeWhile_append_of_pos]
    · simp
    · intro c hc
      have hne : c ≠ '.' := fun heq => hext (heq ▸ List.mem_reverse.mp hc)
      simpa using hne
  obtain ⟨c, cs, hcs⟩ := List.exists_cons_of_ne_nil hne
  unfold splitName
  simp only [hback, htake]
  rw [List.drop_left, hcs]
  simp only
  rw [← hcs, List.reverse_reverse, List.reverse_reverse, String.ofList_toList, String.ofList_toList]

end Path

namespace Disk

variable {d d' : Disk} {p : Path} {l here : Location} {name : String} {t : Target}

/-! ### Names in a folder -/

/-- The names in the folder at a location, in the order in which the nodes are kept. -/
def namesIn (d : Disk) (here : Location) : List String :=
  d.nodes.filterMap fun e =>
    if e.1.dropLast == here && !e.1.isEmpty then e.1.getLast? else none

/-- A location in a folder is the folder's with a name. -/
lemma eq_append_iff : (l.dropLast == here && !l.isEmpty) = true ∧ l.getLast? = some name ↔
    l = here ++ [name] := by
  constructor
  · rintro ⟨hin, hlast⟩
    simp only [Bool.and_eq_true, beq_iff_eq] at hin
    rw [← hin.1]
    exact (List.dropLast_append_getLast? name hlast).symm
  · rintro rfl
    simp

/-- A node stands for a name in a folder if it is at the folder's location with the name. -/
lemma name_eq_some_iff :
    (if l.dropLast == here && !l.isEmpty then l.getLast? else none) = some name ↔
      l = here ++ [name] := by
  rw [← eq_append_iff]
  split_ifs with hin
  · simp [hin]
  · simp [hin]

/-- The names in a folder are those of what lies in it. -/
lemma mem_namesIn : name ∈ d.namesIn here ↔ (d.node? (here ++ [name])).isSome = true := by
  have hne : here ++ [name] ≠ [] := by simp
  rw [node?_of_ne_nil _ hne, Option.isSome_iff_ne_none, ne_eq, List.lookup_eq_none_iff]
  unfold namesIn
  simp only [List.mem_filterMap, name_eq_some_iff]
  push Not
  refine exists_congr fun e => and_congr_right fun _ => ?_
  rw [ne_eq, bne_iff_ne, ne_eq, not_not]
  exact eq_comm

/-! ### Paths that lead to a folder -/

/-- The path can be followed all the way. -/
structure LeadsTo (d : Disk) (p : Path) (here : Location) : Prop where
  named : p.text ≠ ""
  follow : d.follow (d.startOf p) p.pieces = .ok here

/-- Empty parts are followed to where one is. -/
lemma follow_filter (d : Disk) (here : Location) (parts : List String) :
    d.follow here (parts.filter fun s => s != "") = d.follow here parts := by
  induction parts generalizing here with
  | nil => rfl
  | cons part rest ih =>
    by_cases hpart : part = ""
    · subst hpart
      exact ih here
    · rw [List.filter_cons_of_pos (by simpa using hpart)]
      unfold Disk.follow
      cases d.descend here part with
      | error e => rfl
      | ok next => exact ih next

/-- Parts are followed one after another. -/
lemma follow_append (d : Disk) (here : Location) (front rest : List String) :
    d.follow here (front ++ rest) =
      match d.follow here front with
      | .error e => .error e
      | .ok next => d.follow next rest := by
  induction front generalizing here with
  | nil => rfl
  | cons part front ih =>
    rw [List.cons_append, Disk.follow, Disk.follow]
    cases d.descend here part with
    | error e => rfl
    | ok next => exact ih next

namespace LeadsTo

/-- A path that leads to a folder still does if folders are kept. -/
lemma of_keepsFolders (h : LeadsTo d p here) (hkeeps : KeepsFolders d d') : LeadsTo d' p here := by
  have hstart : d'.startOf p = d.startOf p := by
    unfold startOf
    rw [hkeeps.here]
  exact ⟨h.named, hstart ▸ hkeeps.follow h.follow⟩

/-- There is a folder where it leads. -/
lemma folder (h : LeadsTo d p here) (htree : d.IsTree) : d.node? here = some .folder :=
  htree.folder_of_follow (htree.folder_startOf p) h.follow

/-- Taking the path as a whole leads there, too. -/
lemma resolve (h : LeadsTo d p here) : ∃ t, d.resolve p = .ok t ∧ t.location = here := by
  have hfollow := h.follow
  rw [← follow_filter] at hfollow
  unfold Disk.resolve
  rw [if_neg (by simpa using h.named)]
  simp only
  cases hlast : (p.pieces.filter fun s => s != "").getLast? with
  | none =>
    have hnone := List.getLast?_eq_none_iff.mp hlast
    have habs : p.isAbsolute = true := by
      refine Path.isAbsolute_of_forall_eq h.named fun part hpart => ?_
      simpa using List.filter_eq_nil_iff.mp hnone part hpart
    refine ⟨_, rfl, ?_⟩
    rw [hnone, startOf, if_pos habs] at hfollow
    exact Except.ok.inj hfollow
  | some last =>
    have hsplit := (List.dropLast_append_getLast? last hlast).symm
    rw [hsplit, follow_append] at hfollow
    cases hfront : d.follow (d.startOf p) (p.pieces.filter fun s => s != "").dropLast with
    | error e =>
      rw [hfront] at hfollow
      cases hfollow
    | ok next =>
      rw [hfront] at hfollow
      -- the last part is followed as all others are
      have hstep : here = next.step last := eq_foldl_of_follow hfollow
      have hne : last ≠ "" := by
        simpa using (List.mem_filter.mp (List.mem_of_getLast? hlast)).2
      clear hsplit
      simp only
      unfold Location.step at hstep
      split_ifs at hstep ⊢ <;> simp_all

/-- The listing of the folder. -/
lemma list (h : LeadsTo d p here) (htree : d.IsTree) :
    d.list p = .ok ((d.namesIn here).mergeSort fun a b => a ≤ b) := by
  obtain ⟨t, ht, rfl⟩ := h.resolve
  unfold Disk.list
  rw [ht]
  simp only
  rw [h.folder htree]
  rfl

/-- There is something at the path. -/
lemma exists? (h : LeadsTo d p here) (htree : d.IsTree) : d.exists? p = true := by
  obtain ⟨t, ht, rfl⟩ := h.resolve
  unfold Disk.exists? lookup
  rw [ht]
  simp only
  rw [h.folder htree]

/-- A name below the path leads into the folder. -/
lemma resolve_join (h : LeadsTo d p here) (hname : Path.IsName name) :
    d.resolve (p.join name) = .ok ⟨here ++ [name], false⟩ := by
  obtain ⟨front, hpieces, hfront⟩ := Path.exists_pieces_join h.named hname
  have hkeep : [name].filter (fun s => s != "") = [name] := by simpa using hname.counts.1
  have hstart : d.startOf (p.join name) = d.startOf p := by
    unfold startOf
    rw [Path.isAbsolute_join h.named hname]
  have htext : ¬((p.join name).text == "") = true := by
    have hlast := Path.toList_join h.named hname
    simp only [beq_iff_eq]
    intro hempty
    rw [hempty] at hlast
    have hne : p.text.toList ≠ [] := fun hnil => h.named (String.toList_eq_nil_iff.mp hnil)
    split_ifs at hlast
    · exact hne (List.append_eq_nil_iff.mp hlast.symm).1
    · exact hne (List.append_eq_nil_iff.mp hlast.symm).1
  have hslash : ((p.join name).text.toList.getLast? == some '/') = false := by
    simpa using Path.getLast?_join_ne h.named hname
  have hfollow := h.follow
  rw [← follow_filter, ← hfront] at hfollow
  unfold Disk.resolve
  rw [if_neg htext, hslash, hpieces, List.filter_append, hkeep, hstart]
  simp only
  rw [List.getLast?_concat, List.dropLast_concat]
  simp only
  rw [hfollow]
  simp only
  rw [if_neg (by simpa using hname.counts.2), if_neg (by simpa using hname.down)]

/-- What is found there lies in the folder. -/
lemma lookup_join (h : LeadsTo d p here) (hname : Path.IsName name) :
    d.lookup (p.join name) =
      match d.node? (here ++ [name]) with
      | none => .error .notFound
      | some n => .ok n := by
  unfold Disk.lookup
  rw [h.resolve_join hname]
  simp only
  cases d.node? (here ++ [name]) with
  | none => rfl
  | some n => cases n <;> rfl

end LeadsTo

/-- The place of a name below a path. -/
lemma place_join (d : Disk) (hp : p.text ≠ "") (hname : Path.IsName name) :
    d.place (p.join name) = d.place p ++ [name] := by
  obtain ⟨front, hpieces, hfront⟩ := Path.exists_pieces_join hp hname
  have hstart : d.startOf (p.join name) = d.startOf p := by
    unfold startOf
    rw [Path.isAbsolute_join hp hname]
  unfold place
  rw [hpieces, hstart, List.foldl_append, ← foldl_step_filter _ front, hfront, foldl_step_filter]
  exact step_of_name _ hname.counts hname.down

/-! ### Making folders -/

/-- How folders are made for one part of a path: where there is nothing yet, one is put; then the
part is followed. -/
lemma makeAlong_step {part : String} {parts : List String}
    (h : d.makeAlong here (part :: parts) = .ok d') :
    ∃ d₁, d₁.makeAlong (here.step part) parts = .ok d' ∧
      d₁.follow here [part] = .ok (here.step part) ∧
      (d₁ = d ∨ Path.Counts part ∧ part ≠ ".." ∧ d.node? (here ++ [part]) = none ∧
        d₁ = d.put (here ++ [part]) .folder) := by
  have hfollow {d₁ : Disk} {next : Location} (hnext : d₁.descend here part = .ok next) :
      d₁.follow here [part] = .ok next := by
    rw [follow, hnext]
    rfl
  unfold makeAlong at h
  unfold Location.step
  by_cases hstay : (part == "" || part == ".") = true
  · rw [if_pos hstay] at h ⊢
    exact ⟨d, h, hfollow (if_pos hstay), Or.inl rfl⟩
  rw [if_neg hstay] at h ⊢
  by_cases hup : (part == "..") = true
  · rw [if_pos hup] at h ⊢
    exact ⟨d, h, hfollow ((if_neg hstay).trans (if_pos hup)), Or.inl rfl⟩
  rw [if_neg hup] at h ⊢
  have hdown {d₁ : Disk} (hfolder : d₁.node? (here ++ [part]) = some .folder) :
      d₁.descend here part = .ok (here ++ [part]) := by
    unfold descend
    rw [if_neg hstay, if_neg hup, hfolder]
  split at h
  · rename_i hfolder
    exact ⟨d, h, hfollow (hdown hfolder), Or.inl rfl⟩
  · cases h
  · rename_i hnone
    have hput : (d.put (here ++ [part]) .folder).node? (here ++ [part]) = some .folder :=
      node?_put_self d _ (by simp)
    have hcounts : Path.Counts part := by simpa [Path.Counts] using hstay
    exact ⟨_, h, hfollow (hdown hput), Or.inr ⟨hcounts, by simpa using hup, hnone, rfl⟩⟩

/-- A path along which folders have been made can be followed. -/
lemma follow_of_makeAlong {parts : List String} (htree : d.IsTree)
    (hhere : d.node? here = some .folder) (h : d.makeAlong here parts = .ok d') :
    d'.follow here parts = .ok (parts.foldl Location.step here) := by
  induction parts generalizing d here with
  | nil => rfl
  | cons part parts ih =>
    obtain ⟨d₁, hrest, hstep, hchange⟩ := makeAlong_step h
    obtain ⟨htree₁, hhere₁⟩ : d₁.IsTree ∧ d₁.node? here = some .folder := by
      obtain rfl | ⟨-, -, -, rfl⟩ := hchange
      · exact ⟨htree, hhere⟩
      · have hne : here ++ [part] ≠ [] := by simp
        exact ⟨htree.put hne (by simpa using hhere) (Or.inl rfl),
          (IsTree.keepsFolders_put hne (Or.inl rfl)).folders here hhere⟩
    have hnext : d₁.node? (here.step part) = some .folder := htree₁.folder_of_follow hhere₁ hstep
    have hstep' := (htree₁.makeAlong hnext hrest).2.follow hstep
    rw [← List.singleton_append, follow_append, hstep']
    exact ih htree₁ hnext hrest

/-- So can a path whose folder has been made. -/
lemma leadsTo_makeFolders (htree : d.IsTree) (hp : p.text ≠ "")
    (hok : (d.makeFolders p).1 = .ok ()) : LeadsTo (d.makeFolders p).2 p (d.place p) := by
  have hsame := sameTree_nextRefusal d
  have hhere := (makeFolders_frame d p).1
  refine ⟨hp, ?_⟩
  have hstart : (d.makeFolders p).2.startOf p = d.startOf p := by
    unfold startOf
    rw [hhere]
  rw [hstart]
  unfold makeFolders at hok ⊢
  split at hok
  · cases hok
  · rename_i d₁ hnext
    rw [hnext] at hsame
    have htree₁ := htree.of_sameTree hsame
    have hstart₁ : d₁.startOf p = d.startOf p := hsame.startOf p
    split at hok
    · cases hok
    · rename_i d₂ hmade
      have hfollow := follow_of_makeAlong htree₁ (htree₁.folder_startOf p) hmade
      rw [hstart₁] at hfollow
      exact hfollow

/-! ### Tidy folders -/

/-- Each name in the folder at a location is listed once, and is one that a path can end in. -/
structure Tidy (d : Disk) (here : Location) : Prop where
  nodup : (d.namesIn here).Nodup
  isName : ∀ name ∈ d.namesIn here, Path.IsName name

/-- Where a file can be put by way of a path it has a name. -/
lemma isName_of_resolve (ht : d.resolve p = .ok t) (hfolder : t.asFolder = false)
    (hl : t.location = here ++ [name]) : Path.IsName name := by
  obtain ⟨-, -, rfl⟩ | ⟨front, last, next, hsplit, -, rfl⟩ := resolve_cases ht
  · cases hfolder
  · have hmem : last ∈ p.pieces.filter fun s => s != "" := by simp [hsplit]
    obtain ⟨hpiece, hne⟩ := List.mem_filter.mp hmem
    split_ifs at hfolder hl with hpoint hup
    obtain rfl : last = name := (List.append_inj' hl rfl).2 |> List.singleton_inj.mp
    exact ⟨⟨by simpa using hne, by simpa using hpoint⟩, by simpa using hup,
      Path.noSlash_of_mem_pieces hpiece⟩

namespace Tidy

/-- The same tree has the same names. -/
lemma of_sameTree (h : Tidy d here) (hs : SameTree d d') : Tidy d' here := by
  have hnames : d'.namesIn here = d.namesIn here := by
    unfold namesIn
    rw [hs.nodes]
  exact ⟨hnames ▸ h.nodup, hnames ▸ h.isName⟩

/-- Taking something away takes names away. -/
lemma erase (h : Tidy d here) (l : Location) : Tidy (d.erase l) here := by
  have hsub : ((d.erase l).namesIn here).Sublist (d.namesIn here) :=
    List.filter_sublist.filterMap _
  exact ⟨hsub.nodup h.nodup, fun name hname => h.isName name (hsub.subset hname)⟩

/-- Something put under a name that a path can end in leaves a tidy folder. -/
lemma put (h : Tidy d here) {n : Node} (hl : ∀ name, l = here ++ [name] → Path.IsName name) :
    Tidy (d.put l n) here := by
  let others : Disk := { d with nodes := d.nodes.filter fun e => e.1 != l }
  have hsub : (others.namesIn here).Sublist (d.namesIn here) := List.filter_sublist.filterMap _
  have hothers : Tidy others here :=
    ⟨hsub.nodup h.nodup, fun name hname => h.isName name (hsub.subset hname)⟩
  have hnames : (d.put l n).namesIn here =
      (if l.dropLast == here && !l.isEmpty then l.getLast? else none).toList ++
        others.namesIn here := by
    unfold namesIn Disk.put
    rw [List.filterMap_cons]
    simp only
    cases (if l.dropLast == here && !l.isEmpty then l.getLast? else none) <;> rfl
  cases hname : (if l.dropLast == here && !l.isEmpty then l.getLast? else none) with
  | none =>
    rw [hname] at hnames
    have hsame : (d.put l n).namesIn here = others.namesIn here := hnames
    exact ⟨hsame ▸ hothers.nodup, hsame ▸ hothers.isName⟩
  | some name =>
    rw [hname] at hnames
    have hcons : (d.put l n).namesIn here = name :: others.namesIn here := hnames
    obtain rfl := name_eq_some_iff.mp hname
    have hfresh : name ∉ others.namesIn here := by
      unfold namesIn
      simp only [List.mem_filterMap, name_eq_some_iff, not_exists, not_and]
      intro e he heq
      have hne : e.1 ≠ here ++ [name] := by simpa using (List.mem_filter.mp he).2
      exact hne heq
    exact ⟨hcons ▸ List.nodup_cons.mpr ⟨hfresh, hothers.nodup⟩,
      hcons ▸ List.forall_mem_cons.mpr ⟨hl name rfl, hothers.isName⟩⟩

/-- Making folders along the parts of a path leaves a tidy folder. -/
lemma makeAlong {start : Location} {parts : List String} (h : Tidy d here)
    (hparts : ∀ part ∈ parts, Path.NoSlash part) (hmade : d.makeAlong start parts = .ok d') :
    Tidy d' here := by
  induction parts generalizing d start with
  | nil => exact (Except.ok.inj hmade) ▸ h
  | cons part parts ih =>
    obtain ⟨hpart, hparts⟩ := List.forall_mem_cons.mp hparts
    obtain ⟨d₁, hrest, -, rfl | ⟨hcounts, hup, -, rfl⟩⟩ := makeAlong_step hmade
    · exact ih h hparts hrest
    · refine ih (h.put fun name hname => ?_) hparts hrest
      obtain rfl : part = name := (List.append_inj' hname rfl).2 |> List.singleton_inj.mp
      exact ⟨hcounts, hup, hpart⟩

/-- Making a folder leaves a tidy folder. -/
lemma makeFolders (h : Tidy d here) (p : Path) : Tidy (d.makeFolders p).2 here := by
  have hsame := sameTree_nextRefusal d
  unfold Disk.makeFolders
  split
  · rename_i refusal d₁ hnext
    rw [hnext] at hsame
    exact h.of_sameTree hsame
  · rename_i d₁ hnext
    rw [hnext] at hsame
    split
    · exact h.of_sameTree hsame
    · rename_i d₂ hmade
      exact (h.of_sameTree hsame).makeAlong (fun part hpart => Path.noSlash_of_mem_pieces hpart)
        hmade

/-- Writing a file leaves a tidy folder. -/
lemma write (h : Tidy d here) (p : Path) (content : List Glyph) :
    Tidy (d.write p content).2 here := by
  obtain ⟨e, -, hsame⟩ | ⟨t, written, ht, hfolder, -, -, hsame⟩ := write_cases d p content
  · exact h.of_sameTree hsame
  · exact (h.put fun name hl => isName_of_resolve ht hfolder hl).of_sameTree hsame

/-- Moving a file leaves a tidy folder. -/
lemma rename (h : Tidy d here) (a b : Path) : Tidy (d.rename a b).2 here := by
  obtain ⟨e, -, hsame⟩ | ⟨n, s, t, -, -, ht, hfolder, -, -, hsame⟩ := rename_cases d a b
  · exact h.of_sameTree hsame
  · exact ((h.erase s.location).put fun name hl => isName_of_resolve ht hfolder hl).of_sameTree
      hsame

/-- Removing a file leaves a tidy folder. -/
lemma remove (h : Tidy d here) (p : Path) : Tidy (d.remove p).2 here := by
  obtain ⟨e, -, hsame⟩ | ⟨content, -, -, hsame⟩ := remove_cases d p
  · exact h.of_sameTree hsame
  · exact (h.erase (d.place p)).of_sameTree hsame

end Tidy

/-! ### A folder and what is in it -/

/-- A disk with one folder, which lies where paths start, and with what is in it by name. -/
def holding (folder : String) (content : List (String × Node)) : Disk :=
  ⟨([folder], .folder) :: content.map fun e => ([folder, e.1], e.2), [], []⟩

variable {folder : String} {content : List (String × Node)}

/-- The folder is there. -/
lemma node?_holding (folder : String) (content : List (String × Node)) :
    (holding folder content).node? [folder] = some .folder := by
  simp [holding, node?]

/-- What lies in the folder under a name is what has been put there. -/
lemma node?_holding_name (folder name : String) (content : List (String × Node)) :
    (holding folder content).node? [folder, name] = content.lookup name := by
  have hlookup (content : List (String × Node)) :
      (content.map fun e => ([folder, e.1], e.2)).lookup [folder, name] = content.lookup name := by
    induction content with
    | nil => rfl
    | cons e content ih =>
      obtain ⟨other, n⟩ := e
      have hkey : (([folder, name] : Location) == [folder, other]) = (name == other) := by simp
      rw [List.map_cons, List.lookup_cons, List.lookup_cons, hkey, ih]
  have hne : ([folder, name] == [folder]) = false := by simp
  unfold holding
  rw [node?_of_ne_nil _ (by simp), List.lookup_cons, hne]
  exact hlookup content

/-- The names in the folder. -/
lemma namesIn_holding (folder : String) (content : List (String × Node)) :
    (holding folder content).namesIn [folder] = content.map Prod.fst := by
  have hentry (e : String × Node) : (if ([folder, e.1] : Location).dropLast == [folder] &&
      !([folder, e.1] : Location).isEmpty then ([folder, e.1] : Location).getLast? else none) =
      some e.1 := by simp
  have hfolder : (if ([folder] : Location).dropLast == [folder] && !([folder] : Location).isEmpty
      then ([folder] : Location).getLast? else none) = none := by simp
  unfold namesIn holding
  rw [List.filterMap_cons, hfolder, List.filterMap_map]
  simp only [Function.comp_def, hentry, List.filterMap_eq_map']

/-- The disk is a tree. -/
lemma isTree_holding (folder : String) (content : List (String × Node)) :
    (holding folder content).IsTree := by
  refine ⟨fun l hl hsome => ?_, rfl⟩
  rw [node?_of_ne_nil _ hl, Option.isSome_iff_ne_none, ne_eq, List.lookup_eq_none_iff] at hsome
  push Not at hsome
  obtain ⟨e, he, heq⟩ := hsome
  obtain rfl : l = e.1 := by simpa using heq
  obtain rfl | he := List.mem_cons.mp he
  · rfl
  · obtain ⟨entry, -, rfl⟩ := List.mem_map.mp he
    exact node?_holding folder content

/-- Its folder is tidy if its names differ from each other and are names that a path can end in. -/
lemma tidy_holding (hnodup : (content.map Prod.fst).Nodup)
    (hnames : ∀ e ∈ content, Path.IsName e.1) : Tidy (holding folder content) [folder] := by
  refine ⟨namesIn_holding folder content ▸ hnodup, fun name hname => ?_⟩
  rw [namesIn_holding] at hname
  obtain ⟨e, he, rfl⟩ := List.mem_map.mp hname
  exact hnames e he

/-- Its name leads to the folder. -/
lemma leadsTo_holding (hfolder : Path.IsName folder) :
    LeadsTo (holding folder content) ⟨folder⟩ [folder] := by
  have hpieces : (Path.mk folder).pieces = [folder] := by
    unfold Path.pieces
    rw [Path.splitSlashes_of_noSlash hfolder.noSlash]
    simp
  have hstart : (holding folder content).startOf ⟨folder⟩ = [] := by
    unfold startOf
    split_ifs <;> rfl
  have hdescend : (holding folder content).descend [] folder = .ok [folder] := by
    have hstay : (folder == "" || folder == ".") = false := by
      simpa using ⟨hfolder.counts.1, hfolder.counts.2⟩
    have hup : (folder == "..") = false := by simpa using hfolder.down
    unfold descend
    rw [hstay, hup, List.nil_append, node?_holding]
    rfl
  refine ⟨hfolder.counts.1, ?_⟩
  rw [hpieces, hstart, follow, hdescend]
  rfl

end Disk

end Retrial
