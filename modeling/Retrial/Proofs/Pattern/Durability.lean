import Retrial.Proofs.Disk.Beside
import Retrial.Proofs.Disk.Tree
import Retrial.Proofs.Pattern.Calls

/-!
# The file of a pattern store

A store with a file behaves in memory as one without a file, whatever the disk refuses.  Its file is
never seen half written: a book is first written beside it, at another place
(`place_withExtension_ne`), so every change but the last one leaves the file, and the last one puts
the whole text in its place (`keep_cases`).  Hence after each call the file holds what it held
before, or the text of the book in memory, and the latter if the call has changed the book and the
disk has refused nothing (`runCalls_keeps`).
-/

namespace Retrial

open Text (Glyph glyphs)

variable {d d' : Disk} {p : Path} {b : PatternBook} {r : Except DiskFault Unit}

/-! ### Making and moving one file -/

namespace Disk

/-- Nothing is written at a path without a name. -/
lemma asFolder_of_fileName?_eq_none {t : Target} (h : d.resolve p = .ok t)
    (hname : p.fileName? = none) : t.asFolder = true := by
  obtain ⟨-, -, rfl⟩ | ⟨front, last, here, hsplit, -, rfl⟩ := resolve_cases h
  · rfl
  · split_ifs with hpoint hup
    · rfl
    · rfl
    · exfalso
      have hparts : p.parts = (p.pieces.filter fun s => s != "").filter fun s => s != "." := by
        unfold Path.parts
        rw [List.filter_filter]
        congr 1
        funext s
        rw [Bool.and_comm]
      rw [hsplit, List.filter_append] at hparts
      unfold Path.fileName? at hname
      rw [hparts] at hname
      simp_all [Option.filter]

/-- Writing beside a path leaves the file at the path. -/
lemma write_beside {ext : String} (d : Disk) (p : Path) (hext : Path.Compound ext)
    (content : List Glyph) :
    (d.write (p.withExtension ext) content).2.here = d.here ∧
      (d.write (p.withExtension ext) content).2.fileAt (d.place p) = d.fileAt (d.place p) := by
  obtain ⟨e, -, hsame⟩ | ⟨t, written, ht, hfolder, -, -, hsame⟩ :=
    write_cases d (p.withExtension ext) content
  · exact ⟨hsame.here, hsame.fileAt _⟩
  · refine ⟨hsame.here, (hsame.fileAt _).trans (fileAt_put_of_ne d _ ?_)⟩
    rw [location_of_resolve ht]
    cases hname : p.fileName? with
    | none =>
      rw [Path.withExtension_of_fileName?_eq_none hname] at ht
      rw [asFolder_of_fileName?_eq_none ht hname] at hfolder
      cases hfolder
    | some name => exact (place_withExtension_ne d hname hext).symm

/-- A file that has been written is there. -/
lemma fileAt_write {content : List Glyph} (h : (d.write p content).1 = .ok ()) :
    (d.write p content).2.fileAt (d.place p) = some content := by
  obtain ⟨e, he, -⟩ | ⟨t, written, ht, -, hnode, hall, hsame⟩ := write_cases d p content
  · rw [he] at h
    cases h
  · have hroot : t.location ≠ [] := fun hnil => hnode (by rw [hnil]; rfl)
    rw [hall h] at hsame
    rw [hsame.fileAt, ← location_of_resolve ht, fileAt_put_self d hroot]

/-- Moving a file leaves the file it would replace, or puts the moved one there. -/
lemma rename_to (d : Disk) (a b : Path) :
    (d.rename a b).2.here = d.here ∧
      ((∃ e, (d.rename a b).1 = .error e ∧
          (d.rename a b).2.fileAt (d.place b) = d.fileAt (d.place b)) ∨
        (d.rename a b).1 = .ok () ∧
          (d.rename a b).2.fileAt (d.place b) = d.fileAt (d.place a)) := by
  obtain ⟨e, he, hsame⟩ | ⟨n, s, t, hlookup, -, ht, -, hnode, hok, hsame⟩ := rename_cases d a b
  · exact ⟨hsame.here, Or.inl ⟨e, he, hsame.fileAt _⟩⟩
  · refine ⟨hsame.here, Or.inr ⟨hok, ?_⟩⟩
    have hroot : t.location ≠ [] := fun hnil => hnode (by rw [hnil]; rfl)
    rw [hsame.fileAt, ← location_of_resolve ht]
    unfold fileAt
    rw [node?_put_self _ n hroot, node?_of_lookup hlookup]

end Disk

namespace PatternStore

/-! ### Keeping a book -/

/-- The first half of keeping a book: there is a folder for its file. -/
def makeRoom (p : Path) (d : Disk) : Except DiskFault Unit × Disk :=
  match p.parent? with
  | none => (.ok (), d)
  | some folder => d.makeFolders folder

/-- The second half: the file is written beside its place and moved there. -/
def replaceFile (p : Path) (content : List Glyph) (d : Disk) : Except DiskFault Unit × Disk :=
  match d.write (p.withExtension "json.tmp") content with
  | (.error e, d) => (.error e, d)
  | (.ok (), d) => d.rename (p.withExtension "json.tmp") p

/-- Keeping a book is both halves, the second one if the first succeeds. -/
lemma keep_eq (p : Path) (b : PatternBook) (d : Disk) :
    keep p b d = match makeRoom p d with
      | (.error e, d) => (.error e, d)
      | (.ok (), d) => replaceFile p (glyphs (fileText b)) d := by
  unfold keep makeRoom replaceFile
  cases p.parent? with
  | none => rfl
  | some folder =>
    simp only
    rcases d.makeFolders folder with ⟨_ | _, d₁⟩ <;> rfl

/-- Making room leaves where paths start, and every file. -/
lemma makeRoom_frame (p : Path) (d : Disk) :
    (makeRoom p d).2.here = d.here ∧ ∀ l, (makeRoom p d).2.fileAt l = d.fileAt l := by
  unfold makeRoom
  split
  · exact ⟨rfl, fun _ => rfl⟩
  · exact Disk.makeFolders_frame d _

/-- What replacing a file does to it: nothing, or it holds the whole content. -/
lemma replaceFile_cases (p : Path) (content : List Glyph) (d : Disk) :
    (replaceFile p content d).2.here = d.here ∧
      ((∃ e, (replaceFile p content d).1 = .error e ∧
          (replaceFile p content d).2.fileAt (d.place p) = d.fileAt (d.place p)) ∨
        (replaceFile p content d).1 = .ok () ∧
          (replaceFile p content d).2.fileAt (d.place p) = some content) := by
  have hbeside := Disk.write_beside d p Path.compound_jsonTmp content
  unfold replaceFile
  split
  · rename_i e d₁ hwrite
    rw [hwrite] at hbeside
    exact ⟨hbeside.1, Or.inl ⟨e, rfl, hbeside.2⟩⟩
  · rename_i d₁ hwrite
    have hwritten := Disk.fileAt_write (congrArg Prod.fst hwrite)
    rw [hwrite] at hbeside hwritten
    obtain ⟨hhere, hfile⟩ := hbeside
    obtain ⟨hhere', hmoved⟩ := Disk.rename_to d₁ (p.withExtension "json.tmp") p
    rw [Disk.place_congr hhere, Disk.place_congr hhere, hwritten, hfile] at hmoved
    exact ⟨hhere'.trans hhere, hmoved⟩

/-- What keeping a book does to the file at the path: nothing, or it holds the whole text. -/
lemma keep_cases (p : Path) (b : PatternBook) (d : Disk) :
    (keep p b d).2.here = d.here ∧
      ((∃ e, (keep p b d).1 = .error e ∧
          (keep p b d).2.fileAt (d.place p) = d.fileAt (d.place p)) ∨
        (keep p b d).1 = .ok () ∧
          (keep p b d).2.fileAt (d.place p) = some (glyphs (fileText b))) := by
  obtain ⟨hhere, hfile⟩ := makeRoom_frame p d
  rw [keep_eq]
  split
  · rename_i e d₁ hroom
    rw [hroom] at hhere hfile
    exact ⟨hhere, Or.inl ⟨e, rfl, hfile _⟩⟩
  · rename_i d₁ hroom
    rw [hroom] at hhere hfile
    obtain ⟨hhere', hcases⟩ := replaceFile_cases p (glyphs (fileText b)) d₁
    rw [Disk.place_congr hhere, hfile] at hcases
    exact ⟨hhere'.trans hhere, hcases⟩

/-! ### Calls -/

/-- A call that counts something changes the book. -/
lemma Call.enter_ne_of_changes {c : Call} (h : c.changes b = true) : c.enter b ≠ b := by
  intro heq
  cases c with
  | detect now message trace =>
    simp only [changes, enter, PatternBook.detect] at h heq
    cases hp : b.patterns.get? (Signature.patternIdOf message trace) with
    | none => simp [hp] at h
    | some p =>
      have hget := congrArg
        (fun b => b.patterns.get? (Signature.patternIdOf message trace)) heq
      rw [hp] at hget
      have hfrequency := congrArg Pattern.frequency
        (Option.some.inj ((Dict.get?_insert_self ..).symm.trans hget))
      exact Counter.plus_one_ne _ hfrequency
  | record now testId message trace fix =>
    have hget := congrArg (fun b => b.patterns.get? (Signature.patternIdOf message trace)) heq
    simp only [enter, PatternBook.get?_patterns_record, PatternBook.recordedPattern_eq] at hget
    cases hp : b.patterns.get? (Signature.patternIdOf message trace) with
    | none => simp [hp] at hget
    | some p =>
      rw [hp] at hget
      exact Counter.plus_one_ne _ (congrArg Pattern.frequency (Option.some.inj hget))
  | feedback id success =>
    obtain ⟨q, hq⟩ := Option.isSome_iff_exists.mp h
    have hget := congrArg (fun b => b.policies.get? id) heq
    simp only [enter, PatternBook.feedback, Dict.get?_modify, hq] at hget
    have happlied := congrArg (Option.map RetryPolicy.totalApplied) hget
    exact Counter.plus_one_ne _ (Option.some.inj happlied)
  | _ => cases h

/-- One more call after some others. -/
lemma runCalls_append_singleton (s : PatternStore) (d : Disk) (calls : List Call) (c : Call) :
    (runCalls s d (calls ++ [c])).2 =
      (c.run (runCalls s d calls).2.1 (runCalls s d calls).2.2).2 := by
  induction calls generalizing s d with
  | nil => rfl
  | cons first rest ih => exact ih _ _

/-- Without a file the disk does not matter. -/
lemma answers_eq_inMemory (p : Path) (b : PatternBook) (d d' : Disk) (calls : List Call) :
    (runCalls ⟨some p, b⟩ d calls).1 = (runCalls ⟨none, b⟩ d' calls).1 ∧
      (runCalls ⟨some p, b⟩ d calls).2.1.book = (runCalls ⟨none, b⟩ d' calls).2.1.book := by
  rw [runCalls_answers, runCalls_answers, runCalls_store, runCalls_store]
  exact ⟨rfl, rfl⟩

/-- What one more call does to the file of a store, after any other calls and whatever the disk
refuses.  The answers and the book are those of a store without a file.  The file holds what it held
before the call or the text of the book after it; a call that leaves the book leaves the disk, and
one that changes the book keeps it, which puts the whole text in the file or fails and leaves it. -/
theorem runCalls_keeps (p : Path) (b : PatternBook) (d d' : Disk) (calls : List Call) (c : Call) :
    let (_, before, d₁) := runCalls ⟨some p, b⟩ d calls
    let (answers, after, d₂) := runCalls ⟨some p, b⟩ d (calls ++ [c])
    let (answers', memory, _) := runCalls ⟨none, b⟩ d' (calls ++ [c])
    answers = answers' ∧ after.book = memory.book ∧
      (d₂.fileAt (d₂.place p) = d₁.fileAt (d₁.place p) ∨
        d₂.fileAt (d₂.place p) = some (glyphs (fileText after.book))) ∧
      (after.book = before.book → d₂ = d₁) ∧
      (after.book ≠ before.book → ∃ kept, keep p after.book d₁ = (kept, d₂) ∧
        (kept = .ok () → d₂.fileAt (d₂.place p) = some (glyphs (fileText after.book))) ∧
        (kept ≠ .ok () → d₂.fileAt (d₂.place p) = d₁.fileAt (d₁.place p))) := by
  have hmemory := answers_eq_inMemory p b d d' (calls ++ [c])
  have hstore := runCalls_store ⟨some p, b⟩ d calls
  have hlast := runCalls_append_singleton ⟨some p, b⟩ d calls c
  generalize hbefore : runCalls ⟨some p, b⟩ d calls = first at hstore hlast
  generalize runCalls ⟨some p, b⟩ d (calls ++ [c]) = second at hmemory hlast
  generalize runCalls ⟨none, b⟩ d' (calls ++ [c]) = third at hmemory
  obtain ⟨_, before, d₁⟩ := first
  obtain ⟨answers, after, d₂⟩ := second
  obtain ⟨answers', memory, _⟩ := third
  simp only at hstore hlast hmemory ⊢
  rw [Call.run_eq] at hlast
  obtain ⟨rfl, rfl⟩ := Prod.mk.inj hlast
  refine ⟨hmemory.1, hmemory.2, ?_⟩
  obtain ⟨hhere, hcases⟩ := keep_cases p (c.enter before.book) d₁
  have hpath : before.path = some p := by rw [hstore]
  have hpersist : persist { before with book := c.enter before.book } d₁ =
      (keep p (c.enter before.book) d₁).2 := by
    unfold persist
    simp only [hpath]
  by_cases hchanges : c.changes before.book = true
  · rw [if_pos hchanges, hpersist, Disk.place_congr hhere]
    refine ⟨?_, fun heq => absurd heq (Call.enter_ne_of_changes hchanges), fun _ => ?_⟩
    · exact hcases.imp (fun h => h.choose_spec.2) fun h => h.2
    · refine ⟨(keep p (c.enter before.book) d₁).1, rfl, fun hok => ?_, fun hfail => ?_⟩
      · obtain ⟨e, he, -⟩ | ⟨-, hfile⟩ := hcases
        · rw [he] at hok
          cases hok
        · exact hfile
      · obtain ⟨e, -, hfile⟩ | ⟨hok, -⟩ := hcases
        · exact hfile
        · exact absurd hok hfail
  · rw [if_neg hchanges]
    have hstay := Call.enter_of_not_changes (Bool.eq_false_iff.mpr hchanges)
    exact ⟨Or.inl rfl, fun _ => rfl, fun hne => absurd hstay hne⟩

end PatternStore

end Retrial
