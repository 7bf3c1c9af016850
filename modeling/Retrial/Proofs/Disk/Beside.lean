import Retrial.Proofs.Disk.Place

/-!
# A file beside another one

A path with another extension names a file in the same folder under another name.  The text of the
new path is put together from the parts of the old one, so this has to be read off texts: a text
joined from parts splits into these parts again (`Path.pieces_joinPieces`), a path ends in its name
and parts that do not count (`Path.exists_pieces_eq`), and a name is not one that has been cut at
its last point and continued by an extension with a point in it (`Path.ne_of_splitName`).
-/

namespace Retrial

namespace Path

/-! ### Splitting and joining -/

/-- The text has no slash. -/
def NoSlash (part : String) : Prop := '/' ∉ part.toList

/-- Characters before the first slash belong to the first part. -/
lemma splitSlashes_append (cs rest : List Char) (h : '/' ∉ cs) :
    splitSlashes (cs ++ rest) =
      (cs ++ (splitSlashes rest).head!) :: (splitSlashes rest).tail := by
  induction cs with
  | nil =>
    cases hrest : splitSlashes rest with
    | nil => exact absurd hrest (splitSlashes_ne_nil rest)
    | cons part parts => simp [hrest]
  | cons c cs ih =>
    have hc : c ≠ '/' := fun heq => h (by simp [heq])
    have hcs : '/' ∉ cs := fun hmem => h (List.mem_cons_of_mem c hmem)
    rw [List.cons_append, splitSlashes, ih hcs]
    simp [hc]

/-- A slash ends a part. -/
lemma splitSlashes_slash (rest : List Char) :
    splitSlashes ('/' :: rest) = [] :: splitSlashes rest := by
  rw [splitSlashes]
  split
  · rename_i hnil
    exact absurd hnil (splitSlashes_ne_nil rest)
  · rename_i part parts hcons
    simp [hcons]

/-- Parts joined with slashes are split again. -/
lemma splitSlashes_intercalate (part : List Char) (parts : List (List Char))
    (h : ∀ s ∈ part :: parts, '/' ∉ s) :
    splitSlashes (['/'].intercalate (part :: parts)) = part :: parts := by
  induction parts generalizing part with
  | nil =>
    have hpart := splitSlashes_append part [] (h part List.mem_cons_self)
    simpa [splitSlashes] using hpart
  | cons next parts ih =>
    have hnext := ih next fun s hs => h s (List.mem_cons_of_mem part hs)
    have hjoin : ['/'].intercalate (part :: next :: parts) =
        part ++ '/' :: ['/'].intercalate (next :: parts) := by
      simp [List.intercalate, List.intersperse]
    rw [hjoin, splitSlashes_append part _ (h part List.mem_cons_self), splitSlashes_slash, hnext]
    simp

/-- A path joined from parts has these parts. -/
lemma pieces_joinPieces (part : String) (parts : List String)
    (h : ∀ s ∈ part :: parts, NoSlash s) :
    (Path.mk (joinPieces (part :: parts))).pieces = part :: parts := by
  unfold pieces joinPieces
  rw [String.toList_intercalate, List.map_cons]
  have hsplit := splitSlashes_intercalate part.toList (parts.map String.toList) (by
    simpa [NoSlash] using h)
  rw [show ("/" : String).toList = ['/'] from rfl, hsplit]
  simp [Function.comp_def]

/-- No part that a text is split into has a slash. -/
lemma noSlash_of_mem_splitSlashes (cs : List Char) : ∀ part ∈ splitSlashes cs, '/' ∉ part := by
  induction cs with
  | nil => simp [splitSlashes]
  | cons c cs ih =>
    unfold splitSlashes
    split
    · rename_i hnil
      exact absurd hnil (splitSlashes_ne_nil cs)
    · rename_i part parts hcons
      rw [hcons] at ih
      by_cases hc : c = '/'
      · rw [if_pos (by simpa using hc)]
        intro s hs
        rcases List.mem_cons.mp hs with rfl | hs
        · simp
        · exact ih s hs
      · rw [if_neg (by simpa using hc)]
        intro s hs
        rcases List.mem_cons.mp hs with rfl | hs
        · simp only [List.mem_cons, not_or]
          exact ⟨fun heq => hc heq.symm, ih part List.mem_cons_self⟩
        · exact ih s (List.mem_cons_of_mem part hs)

/-- No part of a path has a slash. -/
lemma noSlash_of_mem_pieces {p : Path} {part : String} (h : part ∈ p.pieces) : NoSlash part := by
  obtain ⟨cs, hcs, rfl⟩ := List.mem_map.mp h
  rw [NoSlash, String.toList_ofList]
  exact noSlash_of_mem_splitSlashes _ cs hcs

/-- A path is absolute if something follows an empty first part. -/
lemma isAbsolute_iff {p : Path} :
    p.isAbsolute = true ↔ ∃ part parts, p.pieces = "" :: part :: parts := by
  unfold isAbsolute pieces
  cases hcs : p.text.toList with
  | nil => simp [splitSlashes]
  | cons c cs =>
    by_cases hc : c = '/'
    · subst hc
      rw [splitSlashes_slash]
      cases hrest : splitSlashes cs with
      | nil => exact absurd hrest (splitSlashes_ne_nil cs)
      | cons part parts => simp
    · rw [splitSlashes]
      cases hrest : splitSlashes cs with
      | nil => exact absurd hrest (splitSlashes_ne_nil cs)
      | cons part parts => simp [hc]

/-! ### The name of a path -/

/-- A part that counts: a name, or two points. -/
def Counts (part : String) : Prop := part ≠ "" ∧ part ≠ "."

/-- A list of parts up to its last one that counts, and what follows. -/
lemma exists_eq_dropTail_append (parts : List String) :
    ∃ tail, parts = dropTail parts ++ tail ∧ ∀ s ∈ tail, ¬Counts s := by
  induction parts with
  | nil => exact ⟨[], rfl, by simp⟩
  | cons part rest ih =>
    obtain ⟨tail, htail, hnone⟩ := ih
    unfold dropTail
    simp only
    split_ifs with hdrop
    · simp only [Bool.and_eq_true, List.isEmpty_iff, Bool.or_eq_true, beq_iff_eq] at hdrop
      refine ⟨part :: rest, rfl, fun s hs => ?_⟩
      rcases List.mem_cons.mp hs with rfl | hs
      · rintro ⟨hne, hpoint⟩
        exact hdrop.2.elim hne hpoint
      · rw [htail, hdrop.1] at hs
        exact hnone s hs
    · exact ⟨tail, by rw [List.cons_append, ← htail], hnone⟩

/-- What is left of a list of parts ends in one that counts. -/
lemma counts_getLast_dropTail {parts : List String} {last : String}
    (h : (dropTail parts).getLast? = some last) : Counts last := by
  induction parts with
  | nil => simp [dropTail] at h
  | cons part rest ih =>
    unfold dropTail at h
    simp only at h
    split_ifs at h with hdrop
    · simp at h
    · cases hrest : dropTail rest with
      | nil =>
        rw [hrest] at h hdrop
        simp only [List.getLast?_singleton, Option.some.injEq] at h
        subst h
        simpa [Counts] using hdrop
      | cons next more =>
        rw [hrest, List.getLast?_cons_cons] at h
        rw [hrest] at ih
        exact ih h

/-- A path with a name ends in it, and in parts that do not count. -/
lemma exists_pieces_eq {p : Path} {name : String} (h : p.fileName? = some name) :
    ∃ front tail, p.pieces = front ++ name :: tail ∧ dropTail p.pieces = front ++ [name] ∧
      (∀ s ∈ tail, ¬Counts s) ∧ Counts name ∧ name ≠ ".." := by
  unfold fileName? at h
  obtain ⟨hlast, hup⟩ := Option.filter_eq_some_iff.mp h
  obtain ⟨tail, htail, hnone⟩ := exists_eq_dropTail_append p.pieces
  have hparts : p.parts.getLast? = (dropTail p.pieces).getLast? := by
    have hfilter : p.parts = (dropTail p.pieces).filter fun s => s != "" && s != "." := by
      unfold parts
      conv_lhs => rw [htail]
      rw [List.filter_append]
      have : tail.filter (fun s => s != "" && s != ".") = [] := by
        rw [List.filter_eq_nil_iff]
        intro s hs
        simpa [Counts] using hnone s hs
      rw [this, List.append_nil]
    rw [hfilter]
    cases hdrop : (dropTail p.pieces).getLast? with
    | none => rw [List.getLast?_eq_none_iff.mp hdrop]; rfl
    | some last =>
      have hsplit := (List.dropLast_append_getLast? last hdrop).symm
      have hcounts := counts_getLast_dropTail hdrop
      rw [hsplit, List.filter_append]
      have hkeep : [last].filter (fun s => s != "" && s != ".") = [last] := by
        simpa [Counts] using hcounts
      rw [hkeep, List.getLast?_append]
      simp
  rw [hparts] at hlast
  have hsplit := (List.dropLast_append_getLast? name hlast).symm
  refine ⟨(dropTail p.pieces).dropLast, tail, ?_, hsplit, hnone, counts_getLast_dropTail hlast,
    by simpa using hup⟩
  conv_lhs => rw [htail, hsplit]
  simp

/-- A name cut at its last point is not continued by an extension with a point in it. -/
lemma ne_of_splitName {name stem ext : String} {more : Option String}
    (h : splitName name = (stem, more)) (hext : '.' ∈ ext.toList) : name ≠ stem ++ "." ++ ext := by
  have hlong : name ≠ name ++ "." ++ ext := by
    intro heq
    have hlength := congrArg (fun s => s.toList.length) heq
    simp only [String.toList_append, List.length_append] at hlength
    have : ("." : String).toList.length = 1 := rfl
    omega
  unfold splitName at h
  simp only at h
  split at h
  · exact (Prod.mk.inj h).1 ▸ hlong
  · exact (Prod.mk.inj h).1 ▸ hlong
  · rename_i point back _ hback
    obtain ⟨rfl, -⟩ := Prod.mk.inj h
    intro heq
    -- read backwards, the name is a run without points, one more character, and the stem; but it
    -- is also the extension, a point, and the stem, so the run would be the extension
    obtain ⟨rest, hrest⟩ := List.takeWhile_prefix (l := name.toList.reverse) fun c => c != '.'
    generalize hrun : name.toList.reverse.takeWhile (fun c => c != '.') = run at hback hrest
    have hrun' : name.toList.reverse = run ++ point :: back := by
      rw [← hrest, List.drop_left] at hback
      rw [← hrest, hback]
    have hext' : name.toList.reverse = ext.toList.reverse ++ '.' :: back := by
      conv_lhs => rw [heq]
      simp [String.toList_append]
    have hboth := hrun'.symm.trans hext'
    have hlength : run.length = ext.toList.reverse.length := by
      have := congrArg List.length hboth
      simp only [List.length_append, List.length_cons] at this
      omega
    have hpoint : '.' ∈ run := by
      rw [(List.append_inj hboth hlength).1]
      simpa using hext
    rw [← hrun] at hpoint
    simpa using List.mem_takeWhile_imp hpoint

/-- Cutting a name at its last point adds no character. -/
lemma mem_of_mem_stem {name stem : String} {more : Option String}
    (h : splitName name = (stem, more)) {c : Char} (hc : c ∈ stem.toList) : c ∈ name.toList := by
  unfold splitName at h
  simp only at h
  split at h
  · exact (Prod.mk.inj h).1 ▸ hc
  · exact (Prod.mk.inj h).1 ▸ hc
  · rename_i point back _ hback
    obtain ⟨rfl, -⟩ := Prod.mk.inj h
    have hmem : c ∈ point :: back := List.mem_cons_of_mem point (by simpa using hc)
    rw [← hback] at hmem
    exact List.mem_reverse.mp (List.mem_of_mem_drop hmem)

/-- An extension of two parts. -/
structure Compound (ext : String) : Prop where
  point : '.' ∈ ext.toList
  noSlash : NoSlash ext
  long : 2 ≤ ext.toList.length

/-- The extension of a file that is not in place yet. -/
lemma compound_jsonTmp : Compound "json.tmp" := ⟨by decide, by unfold NoSlash; decide, by decide⟩

/-- A path without a name has no extension to be given. -/
lemma withExtension_of_fileName?_eq_none {p : Path} (h : p.fileName? = none) (ext : String) :
    p.withExtension ext = p := by
  unfold withExtension stem?
  rw [h]
  rfl

/-- A path with another extension has the same parts up to a name that counts and is no other. -/
lemma exists_pieces_withExtension {p : Path} {name ext : String} (h : p.fileName? = some name)
    (hext : Compound ext) :
    ∃ front tail stem, p.pieces = front ++ name :: tail ∧ (∀ s ∈ tail, ¬Counts s) ∧
      (p.withExtension ext).pieces = front ++ [stem ++ "." ++ ext] ∧ Counts name ∧ name ≠ ".." ∧
      Counts (stem ++ "." ++ ext) ∧ stem ++ "." ++ ext ≠ ".." ∧ stem ++ "." ++ ext ≠ name := by
  obtain ⟨front, tail, hpieces, hdrop, htail, hname, hup⟩ := exists_pieces_eq h
  obtain ⟨stem, more, hcut⟩ : ∃ stem more, splitName name = (stem, more) := ⟨_, _, rfl⟩
  have hstem : p.stem? = some stem := by
    rw [stem?, h, Option.map_some, hcut]
  have hother : p.withExtension ext = ⟨joinPieces (front ++ [stem ++ "." ++ ext])⟩ := by
    rw [withExtension, hstem]
    simp only
    rw [hdrop, List.dropLast_concat]
  have hnoslash : ∀ s ∈ front ++ [stem ++ "." ++ ext], NoSlash s := by
    intro s hs
    rcases List.mem_append.mp hs with hs | hs
    · exact noSlash_of_mem_pieces (p := p) (by rw [hpieces]; exact List.mem_append_left _ hs)
    · rw [List.mem_singleton.mp hs]
      have hname' : NoSlash name := noSlash_of_mem_pieces (p := p) (by rw [hpieces]; simp)
      intro hmem
      simp only [String.toList_append, List.mem_append] at hmem
      rcases hmem with (hmem | hmem) | hmem
      · exact hname' (mem_of_mem_stem hcut hmem)
      · simp at hmem
      · exact hext.noSlash hmem
  have hlong : 3 ≤ (stem ++ "." ++ ext).toList.length := by
    have hext' := hext.long
    simp only [String.toList_append, List.length_append]
    have : ("." : String).toList.length = 1 := rfl
    omega
  refine ⟨front, tail, stem, hpieces, htail, ?_, hname, hup, ?_, ?_,
    (ne_of_splitName hcut hext.point).symm⟩
  · rw [hother]
    cases front with
    | nil => exact pieces_joinPieces _ _ hnoslash
    | cons part parts => exact pieces_joinPieces _ _ hnoslash
  · constructor <;> intro heq <;> rw [heq] at hlong <;> simp at hlong
  · intro heq
    rw [heq] at hlong
    simp at hlong

end Path

namespace Disk

variable {d : Disk} {p : Path}

/-- Parts that do not count lead nowhere. -/
lemma foldl_step_of_not_counts (here : Location) {tail : List String}
    (h : ∀ s ∈ tail, ¬Path.Counts s) : tail.foldl Location.step here = here := by
  induction tail with
  | nil => rfl
  | cons s tail ih =>
    obtain ⟨hs, htail⟩ := List.forall_mem_cons.mp h
    have hstay : here.step s = here := by
      unfold Location.step
      rw [if_pos (by simpa [Path.Counts, or_iff_not_imp_left] using hs)]
    rw [List.foldl_cons, hstay, ih htail]

/-- A name leads down. -/
lemma step_of_name (here : Location) {name : String} (h : Path.Counts name) (hup : name ≠ "..") :
    here.step name = here ++ [name] := by
  unfold Location.step
  rw [if_neg (by simpa [Path.Counts] using h), if_neg (by simpa using hup)]

/-- A path with another extension, one with a point in it, names a place in the same folder, under
another name. -/
lemma exists_place_withExtension {name ext : String} (d : Disk) (h : p.fileName? = some name)
    (hext : Path.Compound ext) :
    ∃ here stem, d.place p = here ++ [name] ∧
      d.place (p.withExtension ext) = here ++ [stem ++ "." ++ ext] ∧ stem ++ "." ++ ext ≠ name := by
  obtain ⟨front, tail, stem, hpieces, htail, hpieces', hname, hup, hother, hup', hne⟩ :=
    Path.exists_pieces_withExtension h hext
  have hstart : d.startOf (p.withExtension ext) = d.startOf p := by
    have habs : (p.withExtension ext).isAbsolute = p.isAbsolute := by
      rw [Bool.eq_iff_iff, Path.isAbsolute_iff, Path.isAbsolute_iff, hpieces, hpieces']
      cases front with
      | nil => simp [hother.1, hname.1]
      | cons part parts => cases parts <;> simp
    unfold startOf
    rw [habs]
  refine ⟨front.foldl Location.step (d.startOf p), stem, ?_, ?_, hne⟩
  · rw [place, hpieces, List.foldl_append, List.foldl_cons, step_of_name _ hname hup,
      foldl_step_of_not_counts _ htail]
  · rw [place, hpieces', hstart, List.foldl_append, List.foldl_cons, List.foldl_nil,
      step_of_name _ hother hup']

/-- A path with another extension, one with a point in it, names another place. -/
lemma place_withExtension_ne {name ext : String} (d : Disk) (h : p.fileName? = some name)
    (hext : Path.Compound ext) :
    d.place (p.withExtension ext) ≠ d.place p := by
  obtain ⟨here, stem, hplace, hplace', hne⟩ := exists_place_withExtension d h hext
  rw [hplace, hplace']
  intro heq
  exact hne (by simpa using heq)

end Disk

end Retrial
