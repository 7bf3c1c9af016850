import Retrial.Proofs.Disk.Folder
import Retrial.Proofs.Pattern.Durability

/-!
# What a pattern store changes on a disk

Keeping a book makes folders, writes a file beside the store's file, and moves it there.  So a store
leaves all files of others alone: a file that it changes is its own, which then holds a whole book,
or one on the way to it, which has the name of no record (`Footprint`).  Folders stay, and tidy
folders stay tidy.
-/

namespace Retrial

open Text (Glyph glyphs)

variable {d d' d'' : Disk} {p : Path} {content : List Glyph}

/-! ### Files elsewhere -/

namespace Disk

variable {l : Location}

/-- Writing a file changes no other one. -/
lemma fileAt_write_of_ne (hl : l ≠ d.place p) :
    (d.write p content).2.fileAt l = d.fileAt l := by
  obtain ⟨e, -, hsame⟩ | ⟨t, written, ht, -, -, -, hsame⟩ := write_cases d p content
  · exact hsame.fileAt l
  · rw [← location_of_resolve ht] at hl
    exact (hsame.fileAt l).trans (fileAt_put_of_ne d _ hl)

/-- Moving a file changes no others than the moved one and the one in its place. -/
lemma fileAt_rename_of_ne {a b : Path} (htree : d.IsTree) (ha : d.node? (d.place a) ≠ some .folder)
    (hla : l ≠ d.place a) (hlb : l ≠ d.place b) : (d.rename a b).2.fileAt l = d.fileAt l := by
  obtain ⟨e, -, hsame⟩ | ⟨n, s, t, -, hs, ht, -, -, -, hsame⟩ := rename_cases d a b
  · exact hsame.fileAt l
  · rw [← location_of_resolve hs] at ha hla
    rw [← location_of_resolve ht] at hlb
    refine (hsame.fileAt l).trans ((fileAt_put_of_ne _ _ hlb).trans ?_)
    unfold fileAt
    rw [htree.node?_erase_file ha hla]

end Disk

namespace PatternStore

/-! ### Keeping a book -/

/-- A file at the location is on the way to the place of a store's file. -/
def InPassing (l : Location) : Prop := ∃ here stem, l = here ++ [stem ++ "." ++ "json.tmp"]

/-- What a store whose file is at a path, if it has one, may have changed on a disk. -/
structure Footprint (path : Option Path) (d d' : Disk) : Prop where
  tree : d'.IsTree
  folders : d.KeepsFolders d'
  tidy : ∀ here, d.Tidy here → d'.Tidy here
  files : ∀ l, d'.fileAt l = d.fileAt l ∨ InPassing l ∨
    ∃ p b, path = some p ∧ l = d.place p ∧ d'.fileAt l = some (glyphs (fileText b))

namespace Footprint

variable {path : Option Path}

/-- Nothing has been changed. -/
lemma refl (h : d.IsTree) : Footprint path d d :=
  ⟨h, .of_sameTree (.refl d), fun _ htidy => htidy, fun _ => Or.inl rfl⟩

/-- One change after another. -/
lemma trans (h : Footprint path d d') (h' : Footprint path d' d'') : Footprint path d d'' := by
  refine ⟨h'.tree, h.folders.trans h'.folders, fun here htidy => h'.tidy here (h.tidy here htidy),
    fun l => ?_⟩
  obtain heq' | hpassing | ⟨p, b, hpath, hl, hfile⟩ := h'.files l
  · obtain heq | hpassing | ⟨p, b, hpath, hl, hfile⟩ := h.files l
    · exact Or.inl (heq'.trans heq)
    · exact Or.inr (Or.inl hpassing)
    · exact Or.inr (Or.inr ⟨p, b, hpath, hl, heq'.trans hfile⟩)
  · exact Or.inr (Or.inl hpassing)
  · rw [Disk.place_congr h.folders.here] at hl
    exact Or.inr (Or.inr ⟨p, b, hpath, hl, hfile⟩)

end Footprint

/-- Making room leaves the files. -/
lemma footprint_makeRoom (h : d.IsTree) (path : Option Path) (p : Path) :
    Footprint path d (makeRoom p d).2 := by
  unfold makeRoom
  split
  · exact .refl h
  · rename_i folder _
    obtain ⟨htree, hfolders⟩ := h.makeFolders folder
    exact ⟨htree, hfolders, fun here htidy => htidy.makeFolders folder,
      fun l => Or.inl ((Disk.makeFolders_frame d folder).2 l)⟩

/-- Writing beside a path changes no file but the one on the way to it. -/
lemma footprint_write (h : d.IsTree) (path : Option Path) (p : Path) (content : List Glyph) :
    Footprint path d (d.write (p.withExtension "json.tmp") content).2 := by
  obtain ⟨htree, hfolders⟩ := h.write (p.withExtension "json.tmp") content
  refine ⟨htree, hfolders, fun here htidy => htidy.write _ content, fun l => ?_⟩
  cases hname : p.fileName? with
  | none =>
    -- such a path stays as it is with any extension, and nothing is written at it
    obtain ⟨e, -, hsame⟩ | ⟨t, written, ht, hfolder, -⟩ :=
      Disk.write_cases d (p.withExtension "json.tmp") content
    · exact Or.inl (hsame.fileAt l)
    · rw [Path.withExtension_of_fileName?_eq_none hname] at ht
      rw [Disk.asFolder_of_fileName?_eq_none ht hname] at hfolder
      cases hfolder
  | some name =>
    obtain ⟨here, stem, -, hbeside, -⟩ :=
      Disk.exists_place_withExtension d hname Path.compound_jsonTmp
    by_cases hl : l = d.place (p.withExtension "json.tmp")
    · exact Or.inr (Or.inl ⟨here, stem, hl.trans hbeside⟩)
    · exact Or.inl (Disk.fileAt_write_of_ne hl)

/-- Moving the text of a book to its place changes no file but the one that has been on the way. -/
lemma footprint_rename (h : d.IsTree) (p : Path) {b : PatternBook}
    (hbeside : d.fileAt (d.place (p.withExtension "json.tmp")) = some (glyphs (fileText b))) :
    Footprint (some p) d (d.rename (p.withExtension "json.tmp") p).2 := by
  have hnode : d.node? (d.place (p.withExtension "json.tmp")) ≠ some .folder := by
    intro hfolder
    unfold Disk.fileAt at hbeside
    simp [hfolder] at hbeside
  obtain ⟨htree, hfolders⟩ := h.rename hnode (b := p)
  refine ⟨htree, hfolders, fun here htidy => htidy.rename _ p, fun l => ?_⟩
  by_cases hp : l = d.place p
  · subst hp
    obtain ⟨-, ⟨e, -, hfile⟩ | ⟨-, hfile⟩⟩ := Disk.rename_to d (p.withExtension "json.tmp") p
    · exact Or.inl hfile
    · exact Or.inr (Or.inr ⟨p, b, rfl, rfl, hfile.trans hbeside⟩)
  by_cases hl : l = d.place (p.withExtension "json.tmp")
  · cases hname : p.fileName? with
    | none =>
      exact absurd (Path.withExtension_of_fileName?_eq_none hname _ ▸ hl) hp
    | some name =>
      obtain ⟨here, stem, -, hplace, -⟩ :=
        Disk.exists_place_withExtension d hname Path.compound_jsonTmp
      exact Or.inr (Or.inl ⟨here, stem, hl.trans hplace⟩)
  · exact Or.inl (Disk.fileAt_rename_of_ne h hnode hl hp)

/-- Replacing a file by the text of a book. -/
lemma footprint_replaceFile (h : d.IsTree) (p : Path) (b : PatternBook) :
    Footprint (some p) d (replaceFile p (glyphs (fileText b)) d).2 := by
  have hwrite := footprint_write h (some p) p (glyphs (fileText b))
  unfold replaceFile
  split
  · rename_i e d₁ heq
    rwa [heq] at hwrite
  · rename_i d₁ heq
    have hbeside := Disk.fileAt_write (congrArg Prod.fst heq)
    have hhere := hwrite.folders.here
    rw [heq] at hwrite hbeside hhere
    rw [← Disk.place_congr hhere] at hbeside
    exact hwrite.trans (footprint_rename hwrite.tree p hbeside)

/-- Keeping a book. -/
lemma footprint_keep (h : d.IsTree) (p : Path) (b : PatternBook) :
    Footprint (some p) d (keep p b d).2 := by
  have hroom := footprint_makeRoom h (some p) p
  rw [keep_eq]
  split
  · rename_i e d₁ heq
    rwa [heq] at hroom
  · rename_i d₁ heq
    rw [heq] at hroom
    exact hroom.trans (footprint_replaceFile hroom.tree p b)

/-! ### What a store does -/

/-- Keeping the store's book. -/
lemma footprint_persist (h : d.IsTree) (s : PatternStore) : Footprint s.path d (s.persist d) := by
  unfold persist
  cases hpath : s.path with
  | none => exact .refl h
  | some p => exact footprint_keep h p s.book

/-- Entering a call leaves the path of the store, and changes the disk as keeping a book does. -/
lemma footprint_run (h : d.IsTree) (s : PatternStore) (c : Call) :
    (c.run s d).2.1.path = s.path ∧ Footprint s.path d (c.run s d).2.2 := by
  rw [Call.run_eq]
  refine ⟨rfl, ?_⟩
  simp only
  split_ifs
  · exact footprint_persist h { s with book := c.enter s.book }
  · exact .refl h

end PatternStore

end Retrial
