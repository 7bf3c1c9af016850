import Retrial.Proofs.Disk.Place

/-!
# What a change does to a disk

Every change first takes a refusal off; then it fails and leaves the tree, or it does one thing to
it.  Making folders leaves all files as they are.  Writing puts a file at the place of its path,
with only a part of the content if it is refused halfway.  Moving a file takes it away from its
place and puts it at the other one.  Removing a file takes it away from its place.

On a disk that is a tree, with a folder above everything, a change keeps folders in place, so a path
that can be followed before a change can be followed after it.
-/

namespace Retrial

open Text (Glyph)

namespace Disk

variable {d d' : Disk} {l l' here : Location} {p a b : Path} {parts : List String}
  {content : List Glyph} {r : Except DiskFault Unit}

namespace SameTree

/-- A disk has its own tree. -/
lemma refl (d : Disk) : SameTree d d := ⟨rfl, rfl⟩

/-- Having the same tree is transitive. -/
lemma trans {d'' : Disk} (h : SameTree d d') (h' : SameTree d' d'') : SameTree d d'' :=
  ⟨h'.nodes.trans h.nodes, h'.here.trans h.here⟩

/-- Putting the same thing at a location of the same tree gives the same tree. -/
lemma put (h : SameTree d d') (l : Location) (n : Node) : SameTree (d.put l n) (d'.put l n) :=
  ⟨by simp only [Disk.put, h.nodes], h.here⟩

/-- Erasing the same location of the same tree gives the same tree. -/
lemma erase (h : SameTree d d') (l : Location) : SameTree (d.erase l) (d'.erase l) :=
  ⟨by simp only [Disk.erase, h.nodes], h.here⟩

/-- Following is said by the tree. -/
lemma follow (h : SameTree d d') (here : Location) (parts : List String) :
    d'.follow here parts = d.follow here parts := by
  induction parts generalizing here with
  | nil => rfl
  | cons part rest ih =>
    have hdescend : d'.descend here part = d.descend here part := by
      unfold Disk.descend
      rw [h.node?]
    unfold Disk.follow
    rw [hdescend]
    cases d.descend here part with
    | error e => rfl
    | ok next => exact ih next

/-- So is where a path leads. -/
lemma resolve (h : SameTree d d') (p : Path) : d'.resolve p = d.resolve p := by
  unfold Disk.resolve
  simp only [h.startOf, h.follow]

/-- So is what is found there. -/
lemma lookup (h : SameTree d d') (p : Path) : d'.lookup p = d.lookup p := by
  unfold Disk.lookup
  simp only [h.resolve, h.node?]

end SameTree

/-- Putting something in the place of what was put before. -/
lemma sameTree_put_put (d : Disk) (l : Location) (n n' : Node) :
    SameTree (d.put l n') ((d.put l n).put l n') := by
  refine ⟨?_, rfl⟩
  simp [put, List.filter_filter]

/-- What was put at a location is found there. -/
lemma fileAt_put_self (d : Disk) (hl : l ≠ []) (content : List Glyph) :
    (d.put l (.file content)).fileAt l = some content := by
  unfold fileAt
  rw [node?_put_self d _ hl]

/-- What is put elsewhere changes no file here. -/
lemma fileAt_put_of_ne (d : Disk) (n : Node) (h : l' ≠ l) :
    (d.put l n).fileAt l' = d.fileAt l' := by
  unfold fileAt
  rw [node?_put_of_ne d n h]

/-! ### Making folders -/

/-- How folders are made along a path: a part that names none is followed, one that names a folder
is entered, and where there is nothing a folder is put. -/
lemma makeAlong_cases {part : String} (h : d.makeAlong here (part :: parts) = .ok d') :
    d.makeAlong here parts = .ok d' ∨ d.makeAlong here.dropLast parts = .ok d' ∨
      d.node? (here ++ [part]) = some .folder ∧
        d.makeAlong (here ++ [part]) parts = .ok d' ∨
      d.node? (here ++ [part]) = none ∧
        (d.put (here ++ [part]) .folder).makeAlong (here ++ [part]) parts = .ok d' := by
  unfold makeAlong at h
  by_cases hstay : (part == "" || part == ".") = true
  · rw [if_pos hstay] at h
    exact Or.inl h
  · rw [if_neg hstay] at h
    by_cases hup : (part == "..") = true
    · rw [if_pos hup] at h
      exact Or.inr (Or.inl h)
    · rw [if_neg hup] at h
      split at h
      · exact Or.inr (Or.inr (Or.inl ⟨by assumption, h⟩))
      · cases h
      · exact Or.inr (Or.inr (Or.inr ⟨by assumption, h⟩))

/-- Making folders along a path leaves where paths start, and every file. -/
lemma makeAlong_frame (h : d.makeAlong here parts = .ok d') :
    d'.here = d.here ∧ ∀ l, d'.fileAt l = d.fileAt l := by
  induction parts generalizing d here with
  | nil =>
    obtain rfl : d = d' := Except.ok.inj h
    exact ⟨rfl, fun _ => rfl⟩
  | cons part rest ih =>
    obtain h | h | ⟨-, h⟩ | ⟨hnone, h⟩ := makeAlong_cases h
    · exact ih h
    · exact ih h
    · exact ih h
    · obtain ⟨hhere, hfile⟩ := ih h
      refine ⟨hhere, fun l => (hfile l).trans ?_⟩
      by_cases hl : l = here ++ [part]
      · subst hl
        unfold fileAt
        rw [node?_put_self d _ (by simp), hnone]
      · exact fileAt_put_of_ne d _ hl

/-- Making a folder leaves where paths start, and every file, whether it succeeds or not. -/
lemma makeFolders_frame (d : Disk) (p : Path) :
    (d.makeFolders p).2.here = d.here ∧ ∀ l, (d.makeFolders p).2.fileAt l = d.fileAt l := by
  have hsame := sameTree_nextRefusal d
  unfold makeFolders
  split
  · rename_i refusal d₁ hnext
    rw [hnext] at hsame
    exact ⟨hsame.here, hsame.fileAt⟩
  · rename_i d₁ hnext
    rw [hnext] at hsame
    split
    · exact ⟨hsame.here, hsame.fileAt⟩
    · rename_i d₂ hmade
      obtain ⟨hhere, hfile⟩ := makeAlong_frame hmade
      exact ⟨hhere.trans hsame.here, fun l => (hfile l).trans (hsame.fileAt l)⟩

/-! ### Writing a file -/

/-- What making an empty file does: nothing, or the file is put at its place. -/
lemma create_cases (d : Disk) (p : Path) :
    (∃ e, (d.create p).1 = .error e ∧ SameTree d (d.create p).2) ∨
      ∃ t, d.resolve p = .ok t ∧ t.asFolder = false ∧ d.node? t.location ≠ some .folder ∧
        (d.create p).1 = .ok t.location ∧
        SameTree (d.put t.location (.file [])) (d.create p).2 := by
  have hsame := sameTree_nextRefusal d
  unfold create
  split
  · rename_i refusal d₁ hnext
    rw [hnext] at hsame
    exact Or.inl ⟨_, rfl, hsame⟩
  · rename_i d₁ hnext
    rw [hnext] at hsame
    simp only [hsame.resolve, hsame.node?]
    split
    · exact Or.inl ⟨_, rfl, hsame⟩
    · rename_i t ht
      split
      · exact Or.inl ⟨_, rfl, hsame⟩
      · rename_i hnode
        split_ifs with hfolder
        · exact Or.inl ⟨_, rfl, hsame⟩
        · exact Or.inr ⟨t, ht, by simpa using hfolder, by simp [hnode], rfl, hsame.put _ _⟩
      · rename_i hnode
        split_ifs with hfolder
        · exact Or.inl ⟨_, rfl, hsame⟩
        · exact Or.inr ⟨t, ht, by simpa using hfolder, by simp [hnode], rfl, hsame.put _ _⟩

/-- What writing does: nothing, or a file with a part of the content is put at its place, and with
all of it if the writing succeeds. -/
lemma write_cases (d : Disk) (p : Path) (content : List Glyph) :
    (∃ e, (d.write p content).1 = .error e ∧ SameTree d (d.write p content).2) ∨
      ∃ t written, d.resolve p = .ok t ∧ t.asFolder = false ∧
        d.node? t.location ≠ some .folder ∧
        ((d.write p content).1 = .ok () → written = content) ∧
        SameTree (d.put t.location (.file written)) (d.write p content).2 := by
  unfold write
  obtain ⟨e, he, hsame⟩ | ⟨t, ht, hfolder, hnode, hok, hsame⟩ := create_cases d p
  · split
    · rename_i e' d₁ hcreate
      rw [hcreate] at hsame
      exact Or.inl ⟨_, rfl, hsame⟩
    · rename_i l d₁ hcreate
      rw [hcreate] at he
      cases he
  · refine Or.inr ?_
    split
    · rename_i e' d₁ hcreate
      rw [hcreate] at hok
      cases hok
    · rename_i l d₁ hcreate
      rw [hcreate] at hok hsame
      obtain rfl : l = t.location := Except.ok.inj hok
      have hnext := hsame.trans (sameTree_nextRefusal d₁)
      unfold fill
      split
      · rename_i refusal d₂ hrefusal
        rw [hrefusal] at hnext
        refine ⟨t, content.take refusal.written, ht, hfolder, hnode, fun h => (by cases h), ?_⟩
        exact (sameTree_put_put d _ _ _).trans (hnext.put _ _)
      · rename_i d₂ hrefusal
        rw [hrefusal] at hnext
        refine ⟨t, content, ht, hfolder, hnode, fun _ => rfl, ?_⟩
        exact (sameTree_put_put d _ _ _).trans (hnext.put _ _)

/-! ### Moving a file -/

/-- What moving does: nothing, or what was found at the one path is taken away and put at the place
of the other. -/
lemma rename_cases (d : Disk) (a b : Path) :
    (∃ e, (d.rename a b).1 = .error e ∧ SameTree d (d.rename a b).2) ∨
      ∃ n s t, d.lookup a = .ok n ∧ d.resolve a = .ok s ∧ d.resolve b = .ok t ∧
        t.asFolder = false ∧ d.node? t.location ≠ some .folder ∧ (d.rename a b).1 = .ok () ∧
        SameTree ((d.erase s.location).put t.location n) (d.rename a b).2 := by
  have hsame := sameTree_nextRefusal d
  unfold rename
  split
  · rename_i refusal d₁ hnext
    rw [hnext] at hsame
    exact Or.inl ⟨_, rfl, hsame⟩
  · rename_i d₁ hnext
    rw [hnext] at hsame
    simp only [hsame.lookup, hsame.resolve, hsame.node?]
    split
    · exact Or.inl ⟨_, rfl, hsame⟩
    · exact Or.inl ⟨_, rfl, hsame⟩
    · exact Or.inl ⟨_, rfl, hsame⟩
    · rename_i n s t hn hs ht
      split
      · exact Or.inl ⟨_, rfl, hsame⟩
      · rename_i hnode
        split_ifs with hfolder
        · exact Or.inl ⟨_, rfl, hsame⟩
        · exact Or.inr ⟨n, s, t, hn, hs, ht, by simpa using hfolder, hnode, rfl,
            (hsame.erase _).put _ _⟩

/-! ### Removing a file -/

/-- What removing does: nothing, or the file that is at the place of the path is taken away. -/
lemma remove_cases (d : Disk) (p : Path) :
    (∃ e, (d.remove p).1 = .error e ∧ SameTree d (d.remove p).2) ∨
      ∃ content, d.node? (d.place p) = some (.file content) ∧ (d.remove p).1 = .ok () ∧
        SameTree (d.erase (d.place p)) (d.remove p).2 := by
  have hsame := sameTree_nextRefusal d
  unfold remove
  split
  · rename_i refusal d₁ hnext
    rw [hnext] at hsame
    exact Or.inl ⟨_, rfl, hsame⟩
  · rename_i d₁ hnext
    rw [hnext] at hsame
    simp only [hsame.lookup, hsame.resolve]
    split
    · exact Or.inl ⟨_, rfl, hsame⟩
    · exact Or.inl ⟨_, rfl, hsame⟩
    · exact Or.inl ⟨_, rfl, hsame⟩
    · rename_i content t hlookup ht
      refine Or.inr ⟨content, node?_of_lookup hlookup, rfl, ?_⟩
      rw [← location_of_resolve ht]
      exact hsame.erase _

end Disk

end Retrial
