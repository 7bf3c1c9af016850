import Retrial.Proofs.Json.Brackets

/-!
# Where values that have been read come from

Whatever the content, a value that has been read is one that its reader gives (`Gives`), and so are
its parts: the items of a list come from the reader of the items, the values of a record from the
readers of its fields or from their stand-ins (`RowGiven`).  So what each single reader makes sure
of holds throughout a whole document that has been read.
-/

namespace Retrial.Json

open Text (Glyph)

variable {α β σ : Type}

/-- The value is one that the reader gives for some content. -/
def Gives (r : Reader α) (a : α) : Prop := ∃ s rest, r s = .ok (a, rest)

/-- A whole document is something that its reader gives. -/
lemma gives_of_decode {r : Reader α} {content : List Glyph} {a : α}
    (h : decode r content = .ok a) : Gives r a := by
  unfold decode at h
  split at h
  · cases h
  · rename_i b rest hread
    split_ifs at h
    cases h
    exact ⟨content, rest, hread⟩

/-- What is put differently has been read first. -/
lemma exists_of_map_eq_ok {e : Except Fault α} {f : α → β} {b : β} (h : e.map f = .ok b) :
    ∃ a, e = .ok a ∧ f a = b := by
  cases e with
  | error => cases h
  | ok a => exact ⟨a, rfl, Except.ok.inj h⟩

/-! ### Single values -/

/-- A number that has been read fits into its bits. -/
lemma lt_of_gives_readNat {bits n : Nat} (h : Gives (readNat bits) n) : n < 2 ^ bits := by
  obtain ⟨s, rest, h⟩ := h
  unfold readNat at h
  split at h
  · cases h
  · split_ifs at h with hlt
    cases h
    exact hlt
  · cases h

/-- Something optional that is there has been read by the reader of what is optional. -/
lemma gives_of_gives_readOptional {r : Reader α} {a : α} (h : Gives (readOptional r) (some a)) :
    Gives r a := by
  obtain ⟨s, rest, h⟩ := h
  unfold readOptional at h
  split at h
  · obtain ⟨p, -, hp⟩ := exists_of_map_eq_ok h
    cases hp
  · obtain ⟨⟨b, rest'⟩, hread, hp⟩ := exists_of_map_eq_ok h
    cases hp
    exact ⟨_, _, hread⟩

/-! ### Lists -/

/-- Each of the elements that have been read has been read by the reader of the elements. -/
lemma elements_gives {item : Reader α} {fuel : Nat} {first : Bool} {acc as : List α}
    {s rest : List Glyph}
    (h : elements item (fun acc a => a :: acc) fuel first acc s = .ok (as, rest))
    (hacc : ∀ a ∈ acc, Gives item a) : ∀ a ∈ as, Gives item a := by
  induction fuel generalizing first acc s with
  | zero => cases h
  | succ fuel ih =>
    unfold elements at h
    split at h
    · cases h
    · cases h
      exact hacc
    · split at h
      · cases h
      · rename_i a more hread
        exact ih h (List.forall_mem_cons.mpr ⟨⟨_, _, hread⟩, hacc⟩)

/-- Each item of a list that has been read has been read by the reader of the items. -/
lemma gives_of_gives_readList {item : Reader α} {as : List α} (h : Gives (readList item) as) :
    ∀ a ∈ as, Gives item a := by
  obtain ⟨s, rest, h⟩ := h
  obtain ⟨⟨bs, rest'⟩, hfold, hp⟩ := exists_of_map_eq_ok h
  cases hp
  unfold readFold at hfold
  split at hfold
  · cases hfold
  · split at hfold
    · cases hfold
    · rename_i cs more helements
      obtain ⟨_, _, hq⟩ := exists_of_map_eq_ok hfold
      cases hq
      intro a ha
      exact elements_gives helements (fun _ h => nomatch h) a (List.mem_reverse.mp ha)
  · cases hfold

/-! ### Records of named fields -/

variable {ts : List Type} {fs : Fields ts}

/-- A value of a field has been read by the field's reader, or is one that stands in for it. -/
def Field.Gives (f : Field α) (a : α) : Prop :=
  Json.Gives f.codec.read a ∨ f.missing = some a ∨ f.omitted = some a

/-- Each value of the row is one of its field. -/
def RowGiven : (ts : List Type) → Fields ts → Row ts → Prop
  | [], _, _ => True
  | _ :: ts, (f, fs), (a, row) => f.Gives a ∧ RowGiven ts fs row

/-- Each value in the draft has been read by its field's reader. -/
def DraftGiven : (ts : List Type) → Fields ts → Draft ts → Prop
  | [], _, _ => True
  | _ :: ts, (f, fs), (slot, draft) =>
    (∀ a ∈ slot, Json.Gives f.codec.read a) ∧ DraftGiven ts fs draft

/-- A draft of nothing has nothing to account for. -/
lemma draftGiven_empty : ∀ (ts : List Type) (fs : Fields ts), DraftGiven ts fs (Draft.empty ts)
  | [], _ => trivial
  | _ :: ts, (_, fs) => And.intro (fun _ h => nomatch h) (draftGiven_empty ts fs)

/-- A field's value goes into the draft as its reader gives it. -/
lemma DraftGiven.readField {name : String} {draft draft' : Draft ts} {s rest : List Glyph}
    (hdraft : DraftGiven ts fs draft) (h : readField ts fs name draft s = .ok (draft', rest)) :
    DraftGiven ts fs draft' := by
  induction ts with
  | nil => trivial
  | cons α ts ih =>
    obtain ⟨f, fs⟩ := fs
    obtain ⟨slot, draft⟩ := draft
    obtain ⟨hslot, hdraft⟩ := hdraft
    by_cases hname : f.name = name
    · subst hname
      cases slot with
      | some a =>
        have hfail : readField (α :: ts) (f, fs) f.name (some a, draft) s =
            .error (.duplicate f.name) := congrFun ((if_pos (by simp)).trans (if_pos (by simp))) s
        rw [hfail] at h
        cases h
      | none =>
        rw [readField_self] at h
        split at h
        · cases h
        · obtain ⟨⟨a, more⟩, hread, hp⟩ := exists_of_map_eq_ok h
          cases hp
          refine And.intro (fun b hb => ?_) hdraft
          cases hb
          exact ⟨_, _, hread⟩
    · rw [readField_of_ne hname] at h
      obtain ⟨⟨draft'', more⟩, hread, hp⟩ := exists_of_map_eq_ok h
      cases hp
      exact And.intro hslot (ih hdraft hread)

/-- Named fields are read into the draft as their readers give them. -/
lemma DraftGiven.namedFields {fuel : Nat} {first : Bool} {draft draft' : Draft ts}
    {s rest : List Glyph} (hdraft : DraftGiven ts fs draft)
    (h : namedFields ts fs fuel first draft s = .ok (draft', rest)) :
    DraftGiven ts fs draft' := by
  induction fuel generalizing first draft s with
  | zero => cases h
  | succ fuel ih =>
    unfold Json.namedFields at h
    split at h
    · cases h
    · cases h
      exact hdraft
    · split at h
      · cases h
      · split at h
        · cases h
        · rename_i hfield
          exact ih (hdraft.readField hfield) h

/-- The record of a draft has its values, and stand-ins. -/
lemma DraftGiven.finish {draft : Draft ts} {row : Row ts} (hdraft : DraftGiven ts fs draft)
    (h : finish ts fs draft = .ok row) : RowGiven ts fs row := by
  induction ts with
  | nil => trivial
  | cons α ts ih =>
    obtain ⟨f, fs⟩ := fs
    obtain ⟨slot, draft⟩ := draft
    obtain ⟨hslot, hdraft⟩ := hdraft
    rw [finish_cons] at h
    split at h
    · cases h
    · rename_i a ha
      obtain ⟨more, hmore, hrow⟩ := exists_of_map_eq_ok h
      cases hrow
      refine And.intro ?_ (ih hdraft hmore)
      cases slot with
      | none => exact Or.inr (Or.inl ha)
      | some b =>
        obtain rfl : b = a := Option.some.inj ha
        exact Or.inl (hslot b rfl)

/-- Values in order are read from the first field on. -/
lemma positionalFields_cons (f : Field α) (first : Bool) (s : List Glyph) :
    positionalFields (α :: ts) (f, fs) first s =
      match nextElement first s with
      | .error e => .error e
      | .ok (false, rest) =>
        match f.omitted with
        | none => .error .mismatch
        | some a => (positionalFields ts fs first rest).map fun p => ((a, p.1), p.2)
      | .ok (true, rest) =>
        match f.codec.read rest with
        | .error e => .error e
        | .ok (a, rest) => (positionalFields ts fs false rest).map fun p => ((a, p.1), p.2) := rfl

/-- Values in order are read as their fields' readers give them, up to stand-ins. -/
lemma rowGiven_of_positionalFields {first : Bool} {row : Row ts} {s rest : List Glyph}
    (h : positionalFields ts fs first s = .ok (row, rest)) : RowGiven ts fs row := by
  induction ts generalizing first s with
  | nil => trivial
  | cons α ts ih =>
    obtain ⟨f, fs⟩ := fs
    rw [positionalFields_cons] at h
    split at h
    · cases h
    · split at h
      · cases h
      · rename_i a ha
        obtain ⟨⟨more, rest'⟩, hmore, hrow⟩ := exists_of_map_eq_ok h
        cases hrow
        exact And.intro (Or.inr (Or.inr ha)) (ih hmore)
    · split at h
      · cases h
      · rename_i a more hread
        obtain ⟨⟨row', rest'⟩, hmore, hrow⟩ := exists_of_map_eq_ok h
        cases hrow
        exact And.intro (Or.inl ⟨_, _, hread⟩) (ih hmore)

/-- The values of a record that has been read are values of its fields. -/
lemma rowGiven_of_gives {row : Row ts} (h : Gives (readRecord ts fs) row) :
    RowGiven ts fs row := by
  obtain ⟨s, rest, h⟩ := h
  unfold readRecord at h
  split at h
  · cases h
  · split at h
    · cases h
    · rename_i row' more hread
      obtain ⟨_, _, hp⟩ := exists_of_map_eq_ok h
      cases hp
      exact rowGiven_of_positionalFields hread
  · split at h
    · cases h
    · rename_i draft more hread
      obtain ⟨row', hfinish, hp⟩ := exists_of_map_eq_ok h
      cases hp
      exact ((draftGiven_empty ts fs).namedFields hread).finish hfinish
  · cases h

/-- A structure that has been read comes from a row of values of its fields. -/
lemma exists_rowGiven {toRow : α → Row ts} {ofRow : Row ts → α} {a : α}
    (h : Gives (Codec.record ts fs toRow ofRow).read a) :
    ∃ row, RowGiven ts fs row ∧ ofRow row = a := by
  obtain ⟨s, rest, h⟩ := h
  obtain ⟨⟨row, rest'⟩, hread, hp⟩ := exists_of_map_eq_ok h
  cases hp
  exact ⟨row, rowGiven_of_gives ⟨_, _, hread⟩, rfl⟩

/-- A field that must be there has no stand-ins. -/
lemma gives_of_required {name : String} {c : Codec α} {a : α}
    (h : (required name c).Gives a) : Gives c.read a := by
  obtain h | h | h := h
  · exact h
  · cases h
  · cases h

/-- The stand-in of an optional field is nothing. -/
lemma gives_of_optionalField {name : String} {c : Codec α} {a : α}
    (h : (optionalField name c).Gives (some a)) : Gives c.read a := by
  obtain h | h | h := h
  · exact gives_of_gives_readOptional h
  · cases h
  · cases h

end Retrial.Json
