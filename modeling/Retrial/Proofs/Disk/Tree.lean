import Retrial.Proofs.Disk.Change

/-!
# Disks that are trees

A disk is a *tree* if there is a folder above everything on it, and a folder where paths start.
Every change keeps a tree a tree, and keeps each of its folders, so a path that can be followed can
still be followed afterwards, to the same location.  Without this a file could be hidden by what
happens above it.
-/

namespace Retrial

namespace Disk

variable {d d' d'' : Disk} {l here : Location} {p a b : Path} {parts : List String} {t : Target}

/-- There is a folder above everything, and where paths start. -/
structure IsTree (d : Disk) : Prop where
  above : ∀ l, l ≠ [] → (d.node? l).isSome = true → d.node? l.dropLast = some .folder
  here : d.node? d.here = some .folder

/-- An empty disk is a tree. -/
lemma isTree_empty : Disk.empty.IsTree := by
  refine ⟨fun l hl hsome => ?_, rfl⟩
  rw [node?_of_ne_nil _ hl] at hsome
  simp [Disk.empty] at hsome

/-- All folders are still there, and paths start where they did. -/
structure KeepsFolders (d d' : Disk) : Prop where
  here : d'.here = d.here
  folders : ∀ l, d.node? l = some .folder → d'.node? l = some .folder

namespace KeepsFolders

/-- Keeping folders is transitive. -/
lemma trans (h : KeepsFolders d d') (h' : KeepsFolders d' d'') : KeepsFolders d d'' :=
  ⟨h'.here.trans h.here, fun l hl => h'.folders l (h.folders l hl)⟩

/-- The same tree has the same folders. -/
lemma of_sameTree (h : SameTree d d') : KeepsFolders d d' :=
  ⟨h.here, fun l hl => (h.node? l).trans hl⟩

/-- What could be followed still can. -/
lemma follow (h : KeepsFolders d d') (hl : d.follow here parts = .ok l) :
    d'.follow here parts = .ok l := by
  induction parts generalizing here with
  | nil => exact hl
  | cons part rest ih =>
    unfold Disk.follow at hl ⊢
    cases hnext : d.descend here part with
    | error e =>
      rw [hnext] at hl
      cases hl
    | ok next =>
      have hnext' : d'.descend here part = .ok next := by
        unfold descend at hnext ⊢
        split_ifs at hnext ⊢
        · exact hnext
        · exact hnext
        · split at hnext
          · cases hnext
          · cases hnext
          · rename_i hfolder
            rw [h.folders _ hfolder]
            exact hnext
      rw [hnext] at hl
      rw [hnext']
      exact ih hl

/-- A path that led somewhere still leads there. -/
lemma resolve (h : KeepsFolders d d') (ht : d.resolve p = .ok t) : d'.resolve p = .ok t := by
  have hstart : d'.startOf p = d.startOf p := by
    unfold startOf
    rw [h.here]
  unfold Disk.resolve at ht ⊢
  split_ifs at ht ⊢
  simp only [hstart] at ht ⊢
  split at ht
  · exact ht
  · split at ht
    · cases ht
    · rename_i next hnext
      simp only [h.follow hnext]
      exact ht

end KeepsFolders

/-! ### Changes of a tree -/

/-- The same tree is a tree. -/
lemma IsTree.of_sameTree (h : d.IsTree) (hs : SameTree d d') : d'.IsTree := by
  refine ⟨fun l hl hsome => ?_, ?_⟩
  · rw [hs.node?] at hsome ⊢
    exact h.above l hl hsome
  · rw [hs.node?, hs.here]
    exact h.here

namespace IsTree

/-- What has something below it is a folder. -/
lemma folder_of_isPrefixOf (h : d.IsTree) {l' : Location} (hpre : l <+: l') (hne : l ≠ l')
    (hsome : (d.node? l').isSome = true) : d.node? l = some .folder := by
  induction l' using List.reverseRecOn with
  | nil => exact absurd (List.prefix_nil.mp hpre) hne
  | append_singleton front part ih =>
    have hfolder : d.node? front = some .folder := by
      have := h.above (front ++ [part]) (by simp) hsome
      rwa [List.dropLast_concat] at this
    rcases List.prefix_concat_iff.mp hpre with heq | hfront
    · exact absurd heq hne
    · by_cases heq : l = front
      · exact heq ▸ hfolder
      · exact ih hfront heq (by rw [hfolder]; rfl)

/-- Following leads from a folder to a folder. -/
lemma folder_of_follow (h : d.IsTree) (hhere : d.node? here = some .folder)
    (hl : d.follow here parts = .ok l) : d.node? l = some .folder := by
  induction parts generalizing here with
  | nil =>
    obtain rfl : here = l := Except.ok.inj hl
    exact hhere
  | cons part rest ih =>
    unfold Disk.follow at hl
    cases hnext : d.descend here part with
    | error e =>
      rw [hnext] at hl
      cases hl
    | ok next =>
      rw [hnext] at hl
      refine ih ?_ hl
      unfold descend at hnext
      split_ifs at hnext with hstay hup
      · exact (Except.ok.inj hnext) ▸ hhere
      · obtain rfl := Except.ok.inj hnext
        by_cases hroot : here = []
        · subst hroot
          rfl
        · exact h.above here hroot (by rw [hhere]; rfl)
      · split at hnext
        · cases hnext
        · cases hnext
        · rename_i hfolder
          exact (Except.ok.inj hnext) ▸ hfolder

/-- Paths start at a folder. -/
lemma folder_startOf (h : d.IsTree) (p : Path) : d.node? (d.startOf p) = some .folder := by
  unfold startOf
  split
  · rfl
  · exact h.here

/-- The folder that a path leads into is there. -/
lemma folder_of_resolve (h : d.IsTree) (ht : d.resolve p = .ok t) (hfolder : t.asFolder = false) :
    t.location ≠ [] ∧ d.node? t.location.dropLast = some .folder := by
  obtain ⟨-, -, rfl⟩ | ⟨front, last, here, -, hfollow, rfl⟩ := resolve_cases ht
  · cases hfolder
  · split_ifs at hfolder ⊢
    exact ⟨by simp, by simpa using h.folder_of_follow (h.folder_startOf p) hfollow⟩

/-- Something put into a folder keeps the folders, unless it is a file for a folder. -/
lemma keepsFolders_put (hl : l ≠ []) {n : Node} (hn : n = .folder ∨ d.node? l ≠ some .folder) :
    KeepsFolders d (d.put l n) := by
  refine ⟨rfl, fun k hk => ?_⟩
  by_cases heq : k = l
  · subst heq
    rw [node?_put_self d n hl]
    exact congrArg some (hn.resolve_right fun hno => hno hk)
  · rw [node?_put_of_ne d n heq]
    exact hk

/-- Something put into a folder, and not a file for a folder, leaves a tree. -/
lemma put (h : d.IsTree) {n : Node} (hl : l ≠ []) (hup : d.node? l.dropLast = some .folder)
    (hn : n = .folder ∨ d.node? l ≠ some .folder) : (d.put l n).IsTree := by
  have hkeeps := keepsFolders_put hl hn
  refine ⟨fun k hk hsome => ?_, hkeeps.folders _ h.here⟩
  by_cases heq : k = l
  · subst heq
    exact hkeeps.folders _ hup
  · rw [node?_put_of_ne d n heq] at hsome
    exact hkeeps.folders _ (h.above k hk hsome)

/-- Nothing is below a file, so erasing it changes nothing else. -/
lemma node?_erase_file (h : d.IsTree) (hl : d.node? l ≠ some .folder) {k : Location}
    (hk : k ≠ l) : (d.erase l).node? k = d.node? k := by
  by_cases hpre : l.isPrefixOf k = true
  · have hpre' : l <+: k := List.isPrefixOf_iff_prefix.mp hpre
    have hnone : d.node? k = none := by
      by_contra hsome
      exact hl (h.folder_of_isPrefixOf hpre' (Ne.symm hk) (Option.isSome_iff_ne_none.mpr hsome))
    by_cases hroot : k = []
    · subst hroot
      rfl
    · rw [node?_erase_of_isPrefixOf d hroot hpre, hnone]
  · exact node?_erase_of_not_isPrefixOf d (Bool.eq_false_iff.mpr hpre)

/-- Erasing a file leaves a tree. -/
lemma erase (h : d.IsTree) (hl : d.node? l ≠ some .folder) : (d.erase l).IsTree := by
  have hroot : l ≠ [] := fun heq => hl (heq ▸ rfl)
  refine ⟨fun k hk hsome => ?_, ?_⟩
  · by_cases heq : k = l
    · subst heq
      rw [node?_erase_of_isPrefixOf d hroot (by simp)] at hsome
      cases hsome
    · rw [h.node?_erase_file hl heq] at hsome
      have hup := h.above k hk hsome
      rw [h.node?_erase_file hl fun heq' => hl (heq' ▸ hup)]
      exact hup
  · have hhere := h.here
    rw [show (d.erase l).here = d.here from rfl,
      h.node?_erase_file hl fun heq' => hl (heq' ▸ hhere)]
    exact hhere

/-- Erasing a file keeps the folders. -/
lemma keepsFolders_erase (h : d.IsTree) (hl : d.node? l ≠ some .folder) :
    KeepsFolders d (d.erase l) := by
  refine ⟨rfl, fun k hk => ?_⟩
  rw [h.node?_erase_file hl fun heq' => hl (heq' ▸ hk)]
  exact hk

/-- Making folders along a path leaves a tree, with all its folders. -/
lemma makeAlong (h : d.IsTree) (hhere : d.node? here = some .folder)
    (hmade : d.makeAlong here parts = .ok d') : d'.IsTree ∧ KeepsFolders d d' := by
  induction parts generalizing d here with
  | nil =>
    obtain rfl : d = d' := Except.ok.inj hmade
    exact ⟨h, rfl, fun _ hl => hl⟩
  | cons part rest ih =>
    obtain hmade | hmade | ⟨hfolder, hmade⟩ | ⟨hnone, hmade⟩ := makeAlong_cases hmade
    · exact ih h hhere hmade
    · refine ih h ?_ hmade
      by_cases hroot : here = []
      · subst hroot
        rfl
      · exact h.above here hroot (by rw [hhere]; rfl)
    · exact ih h hfolder hmade
    · have hne : here ++ [part] ≠ [] := by simp
      have hput : (d.put (here ++ [part]) .folder).IsTree :=
        h.put hne (by simpa using hhere) (Or.inl rfl)
      obtain ⟨htree, hkeeps⟩ := ih hput (node?_put_self d _ hne) hmade
      exact ⟨htree, (keepsFolders_put hne (Or.inl rfl)).trans hkeeps⟩

/-- Making a folder leaves a tree, with all its folders. -/
lemma makeFolders (h : d.IsTree) (p : Path) :
    (d.makeFolders p).2.IsTree ∧ KeepsFolders d (d.makeFolders p).2 := by
  have hsame := sameTree_nextRefusal d
  unfold Disk.makeFolders
  split
  · rename_i refusal d₁ hnext
    rw [hnext] at hsame
    exact ⟨h.of_sameTree hsame, .of_sameTree hsame⟩
  · rename_i d₁ hnext
    rw [hnext] at hsame
    split
    · exact ⟨h.of_sameTree hsame, .of_sameTree hsame⟩
    · rename_i d₂ hmade
      have htree := h.of_sameTree hsame
      obtain ⟨htree', hkeeps⟩ := htree.makeAlong (htree.folder_startOf p) hmade
      exact ⟨htree', (KeepsFolders.of_sameTree hsame).trans hkeeps⟩

/-- Writing leaves a tree, with all its folders. -/
lemma write (h : d.IsTree) (p : Path) (content : List Text.Glyph) :
    (d.write p content).2.IsTree ∧ KeepsFolders d (d.write p content).2 := by
  obtain ⟨e, -, hsame⟩ | ⟨t, written, ht, hfolder, hnode, -, hsame⟩ := write_cases d p content
  · exact ⟨h.of_sameTree hsame, .of_sameTree hsame⟩
  · obtain ⟨hne, hup⟩ := h.folder_of_resolve ht hfolder
    exact ⟨(h.put hne hup (Or.inr hnode)).of_sameTree hsame,
      (keepsFolders_put hne (Or.inr hnode)).trans (.of_sameTree hsame)⟩

/-- Moving a file leaves a tree, with all its folders. -/
lemma rename (h : d.IsTree) {a b : Path} (ha : d.node? (d.place a) ≠ some .folder) :
    (d.rename a b).2.IsTree ∧ KeepsFolders d (d.rename a b).2 := by
  obtain ⟨e, -, hsame⟩ | ⟨n, s, t, -, hs, ht, hfolder, hnode, -, hsame⟩ := rename_cases d a b
  · exact ⟨h.of_sameTree hsame, .of_sameTree hsame⟩
  · rw [← location_of_resolve hs] at ha
    have herase := h.erase ha
    have hkeeps := h.keepsFolders_erase ha
    obtain ⟨hne, hup⟩ := h.folder_of_resolve ht hfolder
    have hnode' : (d.erase s.location).node? t.location ≠ some .folder := by
      by_cases heq : t.location = s.location
      · rw [heq, node?_erase_of_isPrefixOf d (heq ▸ hne) (by simp)]
        simp
      · rw [h.node?_erase_file ha heq]
        exact hnode
    exact ⟨(herase.put hne (hkeeps.folders _ hup) (Or.inr hnode')).of_sameTree hsame,
      (hkeeps.trans (keepsFolders_put hne (Or.inr hnode'))).trans (.of_sameTree hsame)⟩

/-- Removing a file leaves a tree, with all its folders. -/
lemma remove (h : d.IsTree) (p : Path) : (d.remove p).2.IsTree ∧ KeepsFolders d (d.remove p).2 := by
  obtain ⟨e, -, hsame⟩ | ⟨content, hnode, -, hsame⟩ := remove_cases d p
  · exact ⟨h.of_sameTree hsame, .of_sameTree hsame⟩
  · have hfile : d.node? (d.place p) ≠ some .folder := by simp [hnode]
    exact ⟨(h.erase hfile).of_sameTree hsame,
      (h.keepsFolders_erase hfile).trans (.of_sameTree hsame)⟩

/-- A file that has been removed is gone, and no other one is. -/
lemma fileAt_remove (h : d.IsTree) (hok : (d.remove p).1 = .ok ()) (k : Location) :
    (d.remove p).2.fileAt k = if k = d.place p then none else d.fileAt k := by
  obtain ⟨e, he, -⟩ | ⟨content, hnode, -, hsame⟩ := remove_cases d p
  · rw [he] at hok
    cases hok
  · have hfile : d.node? (d.place p) ≠ some .folder := by simp [hnode]
    rw [hsame.fileAt]
    unfold fileAt
    split_ifs with hk
    · subst hk
      have hroot : d.place p ≠ [] := fun hnil => hfile (hnil ▸ rfl)
      rw [node?_erase_of_isPrefixOf d hroot (by simp)]
    · rw [h.node?_erase_file hfile hk]

end IsTree

/-! ### Reading -/

/-- What is read at a path that can be followed is what the file at its place holds, unless the path
says that it is a folder. -/
lemma toOption_read (ht : d.resolve p = .ok t) :
    (d.read p).toOption = if t.asFolder then none else d.fileAt (d.place p) := by
  unfold read lookup fileAt
  rw [ht, ← location_of_resolve ht]
  simp only
  cases d.node? t.location with
  | none => split_ifs <;> rfl
  | some n => cases n <;> split_ifs <;> simp_all [Node.content, Except.toOption]

/-- A file that has been written can be read: its path is followed as before, since no folder on its
way was replaced. -/
lemma read_write {content : List Text.Glyph} (hok : (d.write p content).1 = .ok ()) :
    (d.write p content).2.read p = .ok content := by
  obtain ⟨e, he, -⟩ | ⟨t, written, ht, hfolder, hnode, hwritten, hsame⟩ := write_cases d p content
  · rw [he] at hok
    cases hok
  · obtain rfl := hwritten hok
    have hroot : t.location ≠ [] := fun hnil => hnode (hnil ▸ rfl)
    have hkeeps := (IsTree.keepsFolders_put hroot (Or.inr hnode)).trans (.of_sameTree hsame)
    have hfile : (d.write p written).2.node? t.location = some (.file written) := by
      rw [hsame.node?, node?_put_self d _ hroot]
    unfold read lookup
    rw [hkeeps.resolve ht]
    simp only [hfile, hfolder]
    rfl

end Disk

end Retrial
