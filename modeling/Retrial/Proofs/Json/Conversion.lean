import Retrial.Proofs.Json.Origins

/-!
# Records read by two descriptions

Two descriptions of a record may have fields of the same names, such that what the second one reads
for a field is what the first one reads, converted, and so are its stand-ins (`FieldsConvert`).
Then a document is read by the second description exactly if it is read by the first one, and as
what this reads, converted field by field (`read_record_convert`).  So a description with stand-ins
can be taken apart into one that says which fields are there, and the stand-ins for the others.
-/

namespace Retrial.Json

open Text (Glyph)

variable {α β : Type}

/-- A field of the same name has the converted values. -/
structure Field.Converts (f : Field α) (f' : Field β) (g : α → β) : Prop where
  name : f'.name = f.name
  read : ∀ s, f'.codec.read s = (f.codec.read s).map fun p => (g p.1, p.2)
  missing : f'.missing = f.missing.map g
  omitted : f'.omitted = f.omitted.map g

/-- Each field of a record converts to the one in its place, so that drafts and rows of the one
record convert to those of the other. -/
inductive FieldsConvert : (ts us : List Type) → Fields ts → Fields us → (Draft ts → Draft us) →
    (Row ts → Row us) → Prop
  | nil : FieldsConvert [] [] () () id id
  | cons {ts us : List Type} {fs : Fields ts} {fs' : Fields us} {onDraft : Draft ts → Draft us}
      {onRow : Row ts → Row us} {α β : Type} {f : Field α} {f' : Field β} {g : α → β}
      (first : f.Converts f' g) (rest : FieldsConvert ts us fs fs' onDraft onRow) :
      FieldsConvert (α :: ts) (β :: us) (f, fs) (f', fs') (fun d => (d.1.map g, onDraft d.2))
        (fun r => (g r.1, onRow r.2))

variable {ts us : List Type} {fs : Fields ts} {fs' : Fields us} {onDraft : Draft ts → Draft us}
  {onRow : Row ts → Row us}

/-- A field that has been read already is not read again. -/
lemma readField_duplicate (f : Field α) (a : α) (draft : Draft ts) (s : List Glyph) :
    readField (α :: ts) (f, fs) f.name (some a, draft) s = .error (.duplicate f.name) :=
  congrFun ((if_pos (by simp)).trans (if_pos (by simp))) s

/-- A draft of nothing is one after conversion. -/
lemma convert_empty (h : FieldsConvert ts us fs fs' onDraft onRow) :
    onDraft (Draft.empty ts) = Draft.empty us := by
  induction h with
  | nil => rfl
  | cons first rest ih => exact congrArg (Prod.mk none) ih

/-- The value of a field goes into the draft converted. -/
lemma readField_convert (h : FieldsConvert ts us fs fs' onDraft onRow) (name : String)
    (draft : Draft ts) (s : List Glyph) :
    readField us fs' name (onDraft draft) s =
      (readField ts fs name draft s).map fun p => (onDraft p.1, p.2) := by
  induction h with
  | nil =>
    change readField [] () name draft s = (readField [] () name draft s).map id
    cases readField [] () name draft s <;> rfl
  | @cons ts us fs fs' onDraft onRow α β f f' g first rest ih =>
    obtain ⟨slot, draft⟩ := draft
    by_cases hname : f.name = name
    · subst hname
      rw [← first.name]
      cases slot with
      | some a =>
        refine (readField_duplicate f' (g a) (onDraft draft) s).trans ?_
        rw [first.name, readField_duplicate f a draft s]
        rfl
      | none =>
        refine (readField_self f' (onDraft draft) s).trans ?_
        rw [first.name, readField_self f draft s]
        cases readColon s with
        | error e => rfl
        | ok p =>
          simp only [first.read]
          cases f.codec.read p.2 <;> rfl
    · refine (readField_of_ne (first.name ▸ hname) (slot.map g) (onDraft draft) s).trans ?_
      rw [ih draft, readField_of_ne hname]
      cases readField ts fs name draft s <;> rfl

/-- So do the values of all names. -/
lemma namedFields_convert (h : FieldsConvert ts us fs fs' onDraft onRow) (fuel : Nat)
    (first : Bool) (draft : Draft ts) (s : List Glyph) :
    namedFields us fs' fuel first (onDraft draft) s =
      (namedFields ts fs fuel first draft s).map fun p => (onDraft p.1, p.2) := by
  induction fuel generalizing first draft s with
  | zero => rfl
  | succ fuel ih =>
    unfold namedFields
    cases nextField first s with
    | error e => rfl
    | ok p =>
      obtain ⟨_ | _, rest⟩ := p
      · rfl
      · simp only
        cases stringRest rest with
        | error e => rfl
        | ok q =>
          simp only [readField_convert h]
          cases readField ts fs q.1 draft q.2 with
          | error e => rfl
          | ok d => exact ih false d.1 d.2

/-- What stands in for fields that are missing is converted, too. -/
lemma finish_convert (h : FieldsConvert ts us fs fs' onDraft onRow) (draft : Draft ts) :
    finish us fs' (onDraft draft) = (finish ts fs draft).map onRow := by
  induction h with
  | nil => rfl
  | @cons ts us fs fs' onDraft onRow α β f f' g first rest ih =>
    obtain ⟨slot, draft⟩ := draft
    have hslot : (slot.map g).or f'.missing = (slot.or f.missing).map g := by
      rw [first.missing]
      cases slot <;> rfl
    refine (finish_cons f' (slot.map g) (onDraft draft)).trans ?_
    rw [finish_cons, hslot, first.name]
    cases slot.or f.missing with
    | none => rfl
    | some a =>
      simp only [Option.map_some]
      rw [ih draft]
      cases finish ts fs draft <;> rfl

/-- Values in order are converted one by one. -/
lemma positionalFields_convert (h : FieldsConvert ts us fs fs' onDraft onRow) (start : Bool)
    (s : List Glyph) :
    positionalFields us fs' start s =
      (positionalFields ts fs start s).map fun p => (onRow p.1, p.2) := by
  induction h generalizing start s with
  | nil => rfl
  | @cons ts us fs fs' onDraft onRow α β f f' g first rest ih =>
    rw [positionalFields_cons, positionalFields_cons]
    cases nextElement start s with
    | error e => rfl
    | ok p =>
      obtain ⟨_ | _, more⟩ := p
      · simp only [first.omitted]
        cases f.omitted with
        | none => rfl
        | some a =>
          simp only [Option.map_some]
          rw [ih]
          cases positionalFields ts fs start more <;> rfl
      · simp only [first.read]
        cases f.codec.read more with
        | error e => rfl
        | ok q =>
          simp only [Except.map]
          rw [ih]
          cases positionalFields ts fs false q.2 <;> rfl

/-- A record is read by the second description as what the first one reads, converted. -/
lemma readRecord_convert (h : FieldsConvert ts us fs fs' onDraft onRow) (s : List Glyph) :
    readRecord us fs' s = (readRecord ts fs s).map fun p => (onRow p.1, p.2) := by
  unfold readRecord
  split
  · rfl
  · rw [positionalFields_convert h]
    cases positionalFields ts fs true _ with
    | error e => rfl
    | ok p =>
      simp only [Except.map]
      cases listEnd p.2 <;> rfl
  · rw [← convert_empty h, namedFields_convert h]
    cases namedFields ts fs _ true (Draft.empty ts) _ with
    | error e => rfl
    | ok p =>
      simp only [Except.map]
      rw [finish_convert h]
      cases finish ts fs p.1 <;> rfl
  · rfl

/-- A structure is read by the second description as what the first one reads, converted. -/
theorem read_record_convert (h : FieldsConvert ts us fs fs' onDraft onRow)
    {toRow : α → Row ts} {ofRow : Row ts → α} {toRow' : β → Row us} {ofRow' : Row us → β}
    {g : α → β} (hrow : ∀ row, ofRow' (onRow row) = g (ofRow row)) (s : List Glyph) :
    (Codec.record us fs' toRow' ofRow').read s =
      ((Codec.record ts fs toRow ofRow).read s).map fun p => (g p.1, p.2) := by
  unfold Codec.record
  simp only [readRecord_convert h]
  cases readRecord ts fs s with
  | error e => rfl
  | ok p =>
    simp only [Except.map, hrow]

/-- A whole document is read as converted if its value is. -/
lemma decode_convert {r : Reader α} {r' : Reader β} {g : α → β}
    (h : ∀ s, r' s = (r s).map fun p => (g p.1, p.2)) (content : List Glyph) :
    decode r' content = (decode r content).map g := by
  unfold decode
  rw [h]
  cases r content with
  | error e => rfl
  | ok p =>
    simp only [Except.map]
    split_ifs <;> rfl

end Retrial.Json
