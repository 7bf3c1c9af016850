import Mathlib
import Retrial.Disk.Basic

/-!
# The place that a path names

Following a path can fail, but the location that it would lead to is known without looking at the
disk: each part goes down by its name, a lone point stays, and two points go up (`Disk.place`).  A
path that can be followed leads to its place (`Disk.location_of_resolve`).

What a file holds is said by location (`Disk.fileAt`), so that folders may appear on the way to it
without a change to its content.  A disk is compared with another one by its *tree*: its nodes and
the location where paths start, that is all but the refusals still to come.
-/

namespace Retrial

open Text (Glyph)

/-- One part of a path further. -/
def Location.step (here : Location) (part : String) : Location :=
  if part == "" || part == "." then here
  else if part == ".." then here.dropLast
  else here ++ [part]

namespace Disk

variable {d d' : Disk} {l l' here : Location} {p : Path} {parts : List String}

/-- The location that a path leads to. -/
def place (d : Disk) (p : Path) : Location := p.pieces.foldl Location.step (d.startOf p)

/-- The content of the file at a location. -/
def fileAt (d : Disk) (l : Location) : Option (List Glyph) :=
  match d.node? l with
  | some (.file c) => some c
  | _ => none

/-- The disks have the same nodes, and paths start at the same location. -/
structure SameTree (d d' : Disk) : Prop where
  nodes : d'.nodes = d.nodes
  here : d'.here = d.here

/-- Taking a refusal off leaves the tree. -/
lemma sameTree_nextRefusal (d : Disk) : SameTree d d.nextRefusal.2 := by
  unfold nextRefusal
  split <;> exact ⟨rfl, rfl⟩

/-! ### Nodes -/

/-- What lies at a location is said by the nodes. -/
lemma SameTree.node? (h : SameTree d d') (l : Location) : d'.node? l = d.node? l := by
  unfold Disk.node?
  rw [h.nodes]

/-- The root is a folder. -/
@[simp] lemma node?_nil (d : Disk) : d.node? [] = some .folder := rfl

/-- Below the root, what lies at a location is looked up. -/
lemma node?_of_ne_nil (d : Disk) (h : l ≠ []) : d.node? l = d.nodes.lookup l := by
  unfold node?
  rw [if_neg (by simpa using h)]

/-- Looking up passes over entries that have been dropped for another reason. -/
lemma lookup_filter_of {α : Type} (es : List (Location × α)) (keep : Location → Bool)
    (h : keep l = true) : (es.filter fun e => keep e.1).lookup l = es.lookup l := by
  induction es with
  | nil => rfl
  | cons e es ih =>
    obtain ⟨k, v⟩ := e
    by_cases hk : keep k = true
    · rw [List.filter_cons_of_pos (by exact hk), List.lookup_cons, List.lookup_cons, ih]
    · have hne : (l == k) = false := by
        simp only [beq_eq_false_iff_ne, ne_eq]
        rintro rfl
        exact hk h
      rw [List.filter_cons_of_neg (by exact hk), ih, List.lookup_cons, hne]

/-- Entries that have all been dropped are not found. -/
lemma lookup_filter_eq_none {α : Type} (es : List (Location × α)) (keep : Location → Bool)
    (h : keep l = false) : (es.filter fun e => keep e.1).lookup l = none := by
  rw [List.lookup_eq_none_iff]
  intro e he
  simp only [List.mem_filter] at he
  simp only [bne_iff_ne, ne_eq]
  rintro rfl
  rw [h] at he
  exact Bool.false_ne_true he.2

/-- Putting something at a location changes nothing elsewhere. -/
lemma node?_put_of_ne (d : Disk) (n : Node) (h : l' ≠ l) : (d.put l n).node? l' = d.node? l' := by
  by_cases hl' : l' = []
  · subst hl'
    rfl
  · have hne : (l' == l) = false := by simpa using h
    rw [node?_of_ne_nil _ hl', node?_of_ne_nil _ hl', put, List.lookup_cons, hne]
    exact lookup_filter_of d.nodes (fun k => k != l) (by simpa using h)

/-- Erasing leaves what is not below. -/
lemma node?_erase_of_not_isPrefixOf (d : Disk) (h : l.isPrefixOf l' = false) :
    (d.erase l).node? l' = d.node? l' := by
  by_cases hl' : l' = []
  · subst hl'
    rfl
  · rw [node?_of_ne_nil _ hl', node?_of_ne_nil _ hl', erase]
    exact lookup_filter_of d.nodes (fun k => !l.isPrefixOf k) (by simp [h])

/-- Erasing leaves nothing at the location or below, the root apart. -/
lemma node?_erase_of_isPrefixOf (d : Disk) (hl' : l' ≠ []) (h : l.isPrefixOf l' = true) :
    (d.erase l).node? l' = none := by
  rw [node?_of_ne_nil _ hl', erase]
  exact lookup_filter_eq_none d.nodes (fun k => !l.isPrefixOf k) (by simp [h])

/-! ### Following a path -/

/-- Where a path starts is said by the tree. -/
lemma SameTree.startOf (h : SameTree d d') (p : Path) : d'.startOf p = d.startOf p := by
  unfold Disk.startOf
  rw [h.here]

/-- The place of a path is said by where paths start. -/
lemma place_congr (h : d'.here = d.here) (p : Path) : d'.place p = d.place p := by
  unfold place startOf
  rw [h]

/-- What a file holds is said by the tree. -/
lemma SameTree.fileAt (h : SameTree d d') (l : Location) : d'.fileAt l = d.fileAt l := by
  unfold Disk.fileAt
  rw [h.node?]

/-- Following one part is a step. -/
lemma eq_step_of_descend {part : String} (h : d.descend here part = .ok l) :
    l = here.step part := by
  unfold descend at h
  unfold Location.step
  split_ifs at h ⊢ with hstay hup
  · exact (Except.ok.inj h).symm
  · exact (Except.ok.inj h).symm
  · split at h
    · cases h
    · cases h
    · exact (Except.ok.inj h).symm

/-- Following parts of a path goes step by step. -/
lemma eq_foldl_of_follow (h : d.follow here parts = .ok l) :
    l = parts.foldl Location.step here := by
  induction parts generalizing here with
  | nil => exact (Except.ok.inj h).symm
  | cons part rest ih =>
    unfold follow at h
    cases hnext : d.descend here part with
    | error e =>
      rw [hnext] at h
      cases h
    | ok next =>
      rw [hnext] at h
      rw [List.foldl_cons, ← eq_step_of_descend hnext]
      exact ih h

/-- Empty parts do not count. -/
lemma foldl_step_filter (here : Location) (parts : List String) :
    (parts.filter fun s => s != "").foldl Location.step here = parts.foldl Location.step here := by
  induction parts generalizing here with
  | nil => rfl
  | cons part rest ih =>
    by_cases hpart : part = ""
    · subst hpart
      exact ih here
    · rw [List.filter_cons_of_pos (by simpa using hpart), List.foldl_cons, List.foldl_cons, ih]

end Disk

/-- The parts of a text are never none. -/
lemma Path.splitSlashes_ne_nil (cs : List Char) : Path.splitSlashes cs ≠ [] := by
  cases cs with
  | nil => simp [Path.splitSlashes]
  | cons c cs =>
    unfold Path.splitSlashes
    split
    · simp
    · split <;> simp

/-- Only a text of slashes has no parts but empty ones. -/
lemma Path.isAbsolute_of_forall_eq {p : Path} (hp : p.text ≠ "")
    (h : ∀ part ∈ p.pieces, part = "") : p.isAbsolute = true := by
  unfold Path.isAbsolute
  unfold Path.pieces at h
  cases hcs : p.text.toList with
  | nil => exact absurd (String.toList_eq_nil_iff.mp hcs) hp
  | cons c cs =>
    rw [hcs, Path.splitSlashes] at h
    split at h
    · simp at h
    · by_cases hc : c = '/'
      · simp [hc]
      · rw [if_neg (by simpa using hc)] at h
        simp at h

namespace Disk

variable {d d' : Disk} {p : Path} {t : Target}

/-- How a path is followed: a path of slashes leads to the root; any other one is followed up to its
last part, which is then looked at apart. -/
lemma resolve_cases (h : d.resolve p = .ok t) :
    p.isAbsolute = true ∧ (p.pieces.filter fun s => s != "") = [] ∧ t = ⟨[], true⟩ ∨
      ∃ front last here, (p.pieces.filter fun s => s != "") = front ++ [last] ∧
        d.follow (d.startOf p) front = .ok here ∧
        t = if last == "." then ⟨here, true⟩ else if last == ".." then ⟨here.dropLast, true⟩
          else ⟨here ++ [last], p.text.toList.getLast? == some '/'⟩ := by
  unfold resolve at h
  split_ifs at h with htext
  simp only at h
  split at h
  · rename_i hlast
    have hnone : (p.pieces.filter fun s => s != "") = [] := List.getLast?_eq_none_iff.mp hlast
    refine Or.inl ⟨?_, hnone, (Except.ok.inj h).symm⟩
    refine Path.isAbsolute_of_forall_eq (by simpa using htext) fun part hpart => ?_
    simpa using List.filter_eq_nil_iff.mp hnone part hpart
  · rename_i last hlast
    split at h
    · cases h
    · rename_i here hhere
      have hsplit := (List.dropLast_append_getLast? last hlast).symm
      refine Or.inr ⟨_, last, here, hsplit, hhere, ?_⟩
      split_ifs at h ⊢ <;> exact (Except.ok.inj h).symm

/-- A path that can be followed leads to its place. -/
lemma location_of_resolve (h : d.resolve p = .ok t) : t.location = d.place p := by
  unfold place
  rw [← foldl_step_filter]
  obtain ⟨habs, hnone, rfl⟩ | ⟨front, last, here, hsplit, hfollow, rfl⟩ := resolve_cases h
  · rw [hnone]
    simp [startOf, habs]
  · have hne : last ≠ "" := by
      have hmem : last ∈ p.pieces.filter fun s => s != "" := by simp [hsplit]
      simpa using (List.mem_filter.mp hmem).2
    rw [hsplit, List.foldl_append, List.foldl_cons, List.foldl_nil, ← eq_foldl_of_follow hfollow]
    unfold Location.step
    split_ifs <;> simp_all

/-- What has been found at a path is what is at its place. -/
lemma node?_of_lookup {n : Node} (h : d.lookup p = .ok n) : d.node? (d.place p) = some n := by
  unfold lookup at h
  split at h
  · cases h
  · rename_i t ht
    rw [← location_of_resolve ht]
    split at h
    · cases h
    · split_ifs at h
      rename_i hnode _
      rw [hnode, Except.ok.inj h]
    · rename_i hnode
      rw [hnode, Except.ok.inj h]

end Disk

end Retrial
