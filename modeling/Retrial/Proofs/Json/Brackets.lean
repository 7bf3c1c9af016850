import Retrial.Json.Record
import Retrial.Proofs.Decimal.Text
import Retrial.Proofs.Json.Leaves

/-!
# Reading lists and records back

Lists and records are read item by item.  If each item is read back, so is the whole: lists and
records whose names are data give the fold over what their items are read as (`reads_fold`,
`reads_entries`), and records of named fields give the row of what their fields are read as
(`reads_record`).

A record of named fields is read into a draft.  Reading the fields in the order in which they are
written fills the draft from the front; a field is never taken for another one, since the names are
distinct (`Fills`).
-/

namespace Retrial.Json

open Text (Glyph)

variable {α β σ : Type}

/-! ### Between items -/

/-- The character starts a part of a document other than a closing bracket. -/
def Opening (c : Char) : Prop := isSpace (.char c) = false ∧ c ≠ ']'

/-- Digits open a number. -/
lemma opening_of_isDigit {c : Char} (hc : c.isDigit = true) : Opening c := by
  refine ⟨Bool.eq_false_iff.mpr fun hspace => ?_, ?_⟩
  · have hnone := (stops_space hspace []).noDigit
    unfold NoDigit at hnone
    rw [digit?_cons hc] at hnone
    cases hnone
  · rintro rfl
    exact absurd hc (by decide)

/-- The text of a double starts with a digit, a minus sign or the first letter of `null`. -/
lemma exists_realText_eq (x : Float) : ∃ c more, realText x = c :: more ∧ Opening c := by
  unfold realText Decimal.shortestText?
  split
  · rename_i v _
    obtain ⟨c, more, hbody, hc⟩ : ∃ c more, (if v.mantissa == 0 then "0.0"
        else (Decimal.shortest v.mantissa v.exponent).text).toList = c :: more ∧ Opening c := by
      split_ifs
      · exact ⟨'0', ['.', '0'], rfl, by decide, by decide⟩
      · obtain ⟨c, more, htext, hc⟩ :=
          (Decimal.shortest v.mantissa v.exponent).exists_text_eq
        exact ⟨c, more, htext, opening_of_isDigit hc⟩
    cases v.negative
    · exact ⟨c, more, by simpa using hbody, hc⟩
    · refine ⟨'-', c :: more, ?_, by decide, by decide⟩
      simp only [Option.getD_some, if_true, String.toList_append, hbody]
      rfl
  · exact ⟨'n', ['u', 'l', 'l'], rfl, by decide, by decide⟩

/-- The text of an integer starts with a digit or a minus sign. -/
lemma exists_toString_eq (n : Int) :
    ∃ c more, (toString n).toList = c :: more ∧ Opening c := by
  obtain ⟨negative, m, htext⟩ := exists_toList_toString n
  rw [htext]
  cases negative with
  | true => exact ⟨'-', _, rfl, by decide, by decide⟩
  | false =>
    obtain ⟨c, ds, hdigits, hc⟩ := exists_toDigits_cons m
    exact ⟨c, ds, hdigits, opening_of_isDigit hc⟩

/-- The spelling of a value starts with a part of it. -/
lemma Spells.exists_eq {v : Value} {cs : List Char} (h : Spells v cs) :
    ∃ c more, cs = c :: more ∧ Opening c := by
  cases v with
  | null =>
    unfold Spells at h
    exact ⟨_, _, h, by decide, by decide⟩
  | bool b =>
    unfold Spells at h
    cases b
    · exact ⟨_, _, h, by decide, by decide⟩
    · exact ⟨_, _, h, by decide, by decide⟩
  | int n =>
    unfold Spells at h
    rw [h]
    exact exists_toString_eq n
  | real x =>
    unfold Spells at h
    rw [h]
    exact exists_realText_eq x
  | text t =>
    unfold Spells at h
    exact ⟨_, _, h, by decide, by decide⟩
  | list items =>
    unfold Spells at h
    obtain ⟨more, -, h⟩ := h
    exact ⟨_, _, h, by decide, by decide⟩
  | record fields =>
    unfold Spells at h
    obtain ⟨more, -, h⟩ := h
    exact ⟨_, _, h, by decide, by decide⟩

/-- What leads to an item is passed over. -/
lemma nextElement_lead {first : Bool} {lead : List Char} (hlead : Lead first lead) {c : Char}
    (hc : Opening c) (s : List Glyph) :
    nextElement first (chars lead ++ .char c :: s) = .ok (true, .char c :: s) := by
  obtain ⟨hspace, hend⟩ := hc
  have hne : Glyph.char c ≠ .char ']' := by simpa using hend
  have hskip := skipSpace_cons hspace s
  cases first with
  | true =>
    have hlead : Blank lead := hlead
    unfold nextElement
    rw [skipSpace_blank hlead, hskip]
    split <;> simp_all
  | false =>
    obtain ⟨bs, bs', hbs, hbs', rfl⟩ : ∃ bs bs', Blank bs ∧ Blank bs' ∧ lead = bs ++ ',' :: bs' :=
      hlead
    have hcomma : skipSpace (chars (bs ++ ',' :: bs') ++ .char c :: s) =
        .char ',' :: (chars bs' ++ .char c :: s) := by
      rw [chars_append, List.append_assoc, skipSpace_blank hbs]
      exact skipSpace_cons (by decide) _
    have hnext : skipSpace (chars bs' ++ .char c :: s) = .char c :: s := by
      rw [skipSpace_blank hbs', hskip]
    unfold nextElement
    rw [hcomma]
    simp only [Bool.false_eq_true, if_false]
    split <;> simp_all

/-- The end of a list is found. -/
lemma nextElement_end (first : Bool) {bs : List Char} (hbs : Blank bs) (s : List Glyph) :
    nextElement first (chars bs ++ .char ']' :: s) = .ok (false, .char ']' :: s) := by
  have hskip := skipSpace_cons (g := .char ']') (by decide) s
  unfold nextElement
  rw [skipSpace_blank hbs, hskip]
  rfl

/-- What leads to a later item ends the one before. -/
lemma stops_lead {lead : List Char} (hlead : Lead false lead) (s : List Glyph) :
    Stops (chars lead ++ s) := by
  obtain ⟨bs, bs', hbs, -, rfl⟩ : ∃ bs bs', Blank bs ∧ Blank bs' ∧ lead = bs ++ ',' :: bs' := hlead
  rw [chars_append, List.append_assoc]
  exact stops_blank hbs (stops_comma _)

/-- What follows an item ends it. -/
lemma SpellsItems.stops {vs : List Value} {cs : List Char} (h : SpellsItems false vs cs)
    (s : List Glyph) : Stops (chars cs ++ s) := by
  cases vs with
  | nil =>
    unfold SpellsItems at h
    obtain ⟨bs, hbs, rfl⟩ := h
    rw [chars_append, List.append_assoc]
    exact stops_blank hbs (stops_bracket _)
  | cons v vs =>
    unfold SpellsItems at h
    obtain ⟨lead, item, more, hlead, -, -, rfl⟩ := h
    rw [List.append_assoc, chars_append, List.append_assoc]
    exact stops_lead hlead _

/-- What follows a field ends its value. -/
lemma SpellsFields.stops {fs : List (String × Value)} {cs : List Char}
    (h : SpellsFields false fs cs) (s : List Glyph) : Stops (chars cs ++ s) := by
  cases fs with
  | nil =>
    unfold SpellsFields at h
    obtain ⟨bs, hbs, rfl⟩ := h
    rw [chars_append, List.append_assoc]
    exact stops_blank hbs (stops_brace _)
  | cons f fs =>
    obtain ⟨k, v⟩ := f
    unfold SpellsFields at h
    obtain ⟨lead, bs, bs', item, more, hlead, -, -, -, -, rfl⟩ := h
    simp only [List.append_assoc]
    rw [chars_append, List.append_assoc]
    exact stops_lead hlead _

/-! ### Lists -/

/-- The items of a list are read one after another. -/
lemma elements_spelled {item : Reader α} {add : σ → α → σ} {vs : List Value} {as : List α}
    (h : List.Forall₂ (Reads item) vs as) {first : Bool} {cs : List Char}
    (hcs : SpellsItems first vs cs) {fuel : Nat} (hfuel : cs.length < fuel) (acc : σ)
    (s : List Glyph) :
    elements item add fuel first acc (chars cs ++ s) = .ok (as.foldl add acc, .char ']' :: s) := by
  induction h generalizing first cs fuel acc with
  | nil =>
    unfold SpellsItems at hcs
    obtain ⟨bs, hbs, rfl⟩ := hcs
    cases fuel with
    | zero => cases hfuel
    | succ fuel =>
      rw [chars_append, List.append_assoc]
      unfold elements
      simp only [chars_cons, chars_nil, List.cons_append, List.nil_append]
      rw [nextElement_end first hbs]
      rfl
  | @cons v a vs as hv _ ih =>
    unfold SpellsItems at hcs
    obtain ⟨lead, text, more, hlead, htext, hmore, rfl⟩ := hcs
    cases fuel with
    | zero => cases hfuel
    | succ fuel =>
      obtain ⟨c, rest, rfl, hc⟩ := htext.exists_eq
      have hitem : item (chars (c :: rest) ++ (chars more ++ s)) = .ok (a, chars more ++ s) :=
        hv _ _ _ htext (hmore.stops s) (skipSpace_cons hc.1 _)
      have hnext := nextElement_lead hlead hc (chars rest ++ (chars more ++ s))
      have hlen : more.length < fuel := by
        simp only [List.length_append, List.length_cons] at hfuel
        omega
      have hmoved : chars (lead ++ c :: rest ++ more) ++ s =
          chars lead ++ .char c :: (chars rest ++ (chars more ++ s)) := by simp
      rw [hmoved]
      unfold elements
      simp only [hnext]
      rw [chars_cons, List.cons_append] at hitem
      simp only [hitem]
      exact ih hmore hlen (add acc a)

/-- A list is read back as the fold over what its items are read as. -/
lemma reads_fold {item : Reader α} {add : σ → α → σ} {start : σ} {vs : List Value} {as : List α}
    (h : List.Forall₂ (Reads item) vs as) :
    Reads (readFold item add start) (.list vs) (as.foldl add start) := by
  intro cs rest s hcs _ hs
  unfold Spells at hcs
  obtain ⟨more, hmore, rfl⟩ := hcs
  have hread : elements item add ((chars more ++ rest).length + 1) true start (chars more ++ rest) =
      .ok (as.foldl add start, .char ']' :: rest) :=
    elements_spelled h hmore (by simp) start rest
  have hend : listEnd (.char ']' :: rest) = .ok ((), rest) := by
    unfold listEnd
    rw [skipSpace_cons (by decide)]
    rfl
  unfold readFold
  rw [hs, chars_cons, List.cons_append]
  simp only [hread, hend]
  rfl

/-- Lists are read back. -/
lemma reads_list {item : Reader α} {vs : List Value} {as : List α}
    (h : List.Forall₂ (Reads item) vs as) : Reads (readList item) (.list vs) as := by
  have hfold : Reads (readFold item (fun (acc : List α) a => a :: acc) []) (.list vs)
      (as.foldl (fun acc a => a :: acc) []) := reads_fold h
  have hreverse : (as.foldl (fun acc a => a :: acc) []).reverse = as := by
    rw [List.foldl_flip_cons_eq_append', List.append_nil, List.reverse_reverse]
  have hlist := hfold.map List.reverse
  rw [hreverse] at hlist
  exact hlist

/-! ### Fields -/

/-- What leads to a field is passed over, with the quote that opens its name. -/
lemma nextField_lead {first : Bool} {lead : List Char} (hlead : Lead first lead) (s : List Glyph) :
    nextField first (chars lead ++ .char '"' :: s) = .ok (true, s) := by
  have hskip := skipSpace_cons (g := .char '"') (by decide) s
  cases first with
  | true =>
    have hlead : Blank lead := hlead
    unfold nextField
    rw [skipSpace_blank hlead, hskip]
    rfl
  | false =>
    obtain ⟨bs, bs', hbs, hbs', rfl⟩ : ∃ bs bs', Blank bs ∧ Blank bs' ∧ lead = bs ++ ',' :: bs' :=
      hlead
    have hcomma : skipSpace (chars (bs ++ ',' :: bs') ++ .char '"' :: s) =
        .char ',' :: (chars bs' ++ .char '"' :: s) := by
      rw [chars_append, List.append_assoc, skipSpace_blank hbs]
      exact skipSpace_cons (by decide) _
    have hnext : skipSpace (chars bs' ++ .char '"' :: s) = .char '"' :: s := by
      rw [skipSpace_blank hbs', hskip]
    unfold nextField
    rw [hcomma]
    simp only [Bool.false_eq_true, if_false]
    split <;> simp_all

/-- The end of a record is found. -/
lemma nextField_end (first : Bool) {bs : List Char} (hbs : Blank bs) (s : List Glyph) :
    nextField first (chars bs ++ .char '}' :: s) = .ok (false, .char '}' :: s) := by
  have hskip := skipSpace_cons (g := .char '}') (by decide) s
  unfold nextField
  rw [skipSpace_blank hbs, hskip]
  rfl

/-- The colon after a name is taken off. -/
lemma readColon_spelled {bs : List Char} (hbs : Blank bs) (s : List Glyph) :
    readColon (chars bs ++ .char ':' :: s) = .ok ((), s) := by
  have hskip := skipSpace_cons (g := .char ':') (by decide) s
  unfold readColon
  rw [skipSpace_blank hbs, hskip]
  rfl

/-- A value after a colon is read as it would be by itself. -/
lemma Reads.after_colon {r : Reader α} {v : Value} {a : α} (h : Reads r v a) {bs item : List Char}
    (hbs : Blank bs) (hitem : Spells v item) {rest : List Glyph} (hrest : Stops rest) :
    r (chars bs ++ (chars item ++ rest)) = .ok (a, rest) := by
  obtain ⟨c, more, rfl, hc⟩ := hitem.exists_eq
  refine h _ _ _ hitem hrest ?_
  rw [skipSpace_blank hbs]
  exact skipSpace_cons hc.1 _

/-- The content that a field makes up, part by part. -/
lemma chars_field (lead bs bs' item more : List Char) (k : String) (s : List Glyph) :
    chars (lead ++ quoted k ++ bs ++ ':' :: bs' ++ item ++ more) ++ s =
      chars lead ++ .char '"' :: (chars (k.toList.flatMap escapeChar) ++ .char '"' ::
        (chars bs ++ .char ':' :: (chars bs' ++ (chars item ++ (chars more ++ s))))) := by
  simp [quoted]

/-- The entries of a record are read one after another. -/
lemma entries_spelled {item : Reader α} {add : σ → String → α → σ}
    {fs : List (String × Value)} {es : List (String × α)}
    (h : List.Forall₂ (fun f e => e.1 = f.1 ∧ Reads item f.2 e.2) fs es) {first : Bool}
    {cs : List Char} (hcs : SpellsFields first fs cs) {fuel : Nat} (hfuel : cs.length < fuel)
    (acc : σ) (s : List Glyph) :
    entries item add fuel first acc (chars cs ++ s) =
      .ok (es.foldl (fun acc e => add acc e.1 e.2) acc, s) := by
  induction h generalizing first cs fuel acc with
  | nil =>
    unfold SpellsFields at hcs
    obtain ⟨bs, hbs, rfl⟩ := hcs
    cases fuel with
    | zero => cases hfuel
    | succ fuel =>
      rw [chars_append, List.append_assoc]
      unfold entries
      simp only [chars_cons, chars_nil, List.cons_append, List.nil_append]
      rw [nextField_end first hbs]
      rfl
  | @cons f e fs es hfe _ ih =>
    obtain ⟨k, v⟩ := f
    obtain ⟨k', a⟩ := e
    obtain ⟨rfl, hv⟩ : k' = k ∧ Reads item v a := hfe
    unfold SpellsFields at hcs
    obtain ⟨lead, bs, bs', text, more, hlead, hbs, hbs', htext, hmore, rfl⟩ := hcs
    cases fuel with
    | zero => cases hfuel
    | succ fuel =>
      have hlen : more.length < fuel := by
        simp only [List.length_append, List.length_cons] at hfuel
        omega
      rw [chars_field]
      unfold entries
      simp only [nextField_lead hlead, stringRest_quoted, readColon_spelled hbs,
        hv.after_colon hbs' htext (hmore.stops s)]
      exact ih hmore hlen (add acc k' a)

/-- A record whose names are data is read back as the fold over what its entries are read as. -/
lemma reads_entries {item : Reader α} {add : σ → String → α → σ} {start : σ}
    {fs : List (String × Value)} {es : List (String × α)}
    (h : List.Forall₂ (fun f e => e.1 = f.1 ∧ Reads item f.2 e.2) fs es) :
    Reads (readEntries item add start) (.record fs)
      (es.foldl (fun acc e => add acc e.1 e.2) start) := by
  intro cs rest s hcs _ hs
  unfold Spells at hcs
  obtain ⟨more, hmore, rfl⟩ := hcs
  unfold readEntries
  rw [hs, chars_cons, List.cons_append]
  exact entries_spelled h hmore (by simp) start rest

/-! ### Records of named fields -/

variable {ts : List Type} {fs : Fields ts}

/-- Reading the value of a name makes one draft of another. -/
def FillsOne (ts : List Type) (fs : Fields ts) (draft : Draft ts) (name : String) (v : Value)
    (draft' : Draft ts) : Prop :=
  ∀ bs bs' item rest, Blank bs → Blank bs' → Spells v item → Stops rest →
    readField ts fs name draft (chars bs ++ .char ':' :: (chars bs' ++ (chars item ++ rest))) =
      .ok (draft', rest)

/-- Reading the values of names in order makes one draft of another. -/
inductive Fills (ts : List Type) (fs : Fields ts) :
    Draft ts → List (String × Value) → Draft ts → Prop
  | nil (draft : Draft ts) : Fills ts fs draft [] draft
  | cons {draft draft' draft'' : Draft ts} {name : String} {v : Value}
      {more : List (String × Value)} (first : FillsOne ts fs draft name v draft')
      (rest : Fills ts fs draft' more draft'') : Fills ts fs draft ((name, v) :: more) draft''

/-- The fields of a record are read one after another. -/
lemma namedFields_spelled {draft draft' : Draft ts} {fields : List (String × Value)}
    (h : Fills ts fs draft fields draft') {first : Bool} {cs : List Char}
    (hcs : SpellsFields first fields cs) {fuel : Nat} (hfuel : cs.length < fuel) (s : List Glyph) :
    namedFields ts fs fuel first draft (chars cs ++ s) = .ok (draft', s) := by
  induction h generalizing first cs fuel with
  | nil draft =>
    unfold SpellsFields at hcs
    obtain ⟨bs, hbs, rfl⟩ := hcs
    cases fuel with
    | zero => cases hfuel
    | succ fuel =>
      rw [chars_append, List.append_assoc]
      unfold namedFields
      simp only [chars_cons, chars_nil, List.cons_append, List.nil_append]
      rw [nextField_end first hbs]
      rfl
  | cons hfirst _ ih =>
    unfold SpellsFields at hcs
    obtain ⟨lead, bs, bs', text, more, hlead, hbs, hbs', htext, hmore, rfl⟩ := hcs
    cases fuel with
    | zero => cases hfuel
    | succ fuel =>
      have hlen : more.length < fuel := by
        simp only [List.length_append, List.length_cons] at hfuel
        omega
      rw [chars_field]
      unfold namedFields
      simp only [nextField_lead hlead, stringRest_quoted,
        hfirst bs bs' text _ hbs hbs' htext (hmore.stops s)]
      exact ih hmore hlen

/-- A field of another name is left to those after it. -/
lemma readField_of_ne {f : Field α} {name : String} (h : f.name ≠ name) (slot : Option α)
    (draft : Draft ts) (s : List Glyph) :
    readField (α :: ts) (f, fs) name (slot, draft) s =
      (readField ts fs name draft s).map fun p => ((slot, p.1), p.2) :=
  congrFun (if_neg (by simpa using h)) s

/-- A field that has not been read yet is read. -/
lemma readField_self (f : Field α) (draft : Draft ts) (s : List Glyph) :
    readField (α :: ts) (f, fs) f.name (none, draft) s =
      match readColon s with
      | .error e => .error e
      | .ok (_, rest) => (f.codec.read rest).map fun p => ((some p.1, draft), p.2) :=
  congrFun ((if_pos (by simp)).trans (if_neg (by simp))) s

/-- A field before them does not change how further fields are read. -/
lemma Fills.skip {f : Field α} {draft draft' : Draft ts} {fields : List (String × Value)}
    (h : Fills ts fs draft fields draft') (hname : ∀ field ∈ fields, f.name ≠ field.1)
    (slot : Option α) : Fills (α :: ts) (f, fs) (slot, draft) fields (slot, draft') := by
  induction h with
  | nil draft => exact .nil _
  | cons hfirst _ ih =>
    obtain ⟨hne, hname⟩ := List.forall_mem_cons.mp hname
    refine .cons (fun bs bs' item rest hbs hbs' hitem hrest => ?_) (ih hname)
    rw [readField_of_ne hne, hfirst bs bs' item rest hbs hbs' hitem hrest]
    rfl

/-- The names of a record's fields, in order. -/
def fieldNames : (ts : List Type) → Fields ts → List String
  | [], _ => []
  | _ :: ts, (f, fs) => f.name :: fieldNames ts fs

/-- A draft with a value for each field. -/
def Draft.full : (ts : List Type) → Row ts → Draft ts
  | [], _ => ()
  | _ :: ts, (a, row) => (some a, Draft.full ts row)

/-- Each field's value is read back as the field's value in another row. -/
def RowReads : (ts : List Type) → Fields ts → Row ts → Row ts → Prop
  | [], _, _, _ => True
  | _ :: ts, (f, fs), (a, row), (a', row') =>
    Reads f.codec.read (f.codec.write a) a' ∧ RowReads ts fs row row'

/-- The fields of a record are written under their names. -/
lemma map_fst_writeFields (ts : List Type) (fs : Fields ts) (row : Row ts) :
    (writeFields ts fs row).map Prod.fst = fieldNames ts fs := by
  induction ts with
  | nil => rfl
  | cons α ts ih => exact congrArg _ (ih fs.2 row.2)

/-- Reading what has been written of a row fills the draft. -/
lemma fills_writeFields (ts : List Type) (fs : Fields ts) {row row' : Row ts}
    (h : RowReads ts fs row row') (hnames : (fieldNames ts fs).Nodup) :
    Fills ts fs (Draft.empty ts) (writeFields ts fs row) (Draft.full ts row') := by
  induction ts with
  | nil => exact .nil _
  | cons α ts ih =>
    obtain ⟨f, fs⟩ := fs
    obtain ⟨a, row⟩ := row
    obtain ⟨a', row'⟩ := row'
    obtain ⟨ha, hrow⟩ : Reads f.codec.read (f.codec.write a) a' ∧ RowReads ts fs row row' := h
    obtain ⟨hfresh, hnames⟩ : f.name ∉ fieldNames ts fs ∧ (fieldNames ts fs).Nodup :=
      List.nodup_cons.mp hnames
    have hrest : Fills (α :: ts) (f, fs) (some a', Draft.empty ts) (writeFields ts fs row)
        (some a', Draft.full ts row') := by
      refine (ih fs hrow hnames).skip (fun field hfield heq => hfresh ?_) (some a')
      rw [heq, ← map_fst_writeFields ts fs row]
      exact List.mem_map_of_mem hfield
    refine .cons (fun bs bs' item rest hbs hbs' hitem hrest => ?_) hrest
    refine (readField_self f (Draft.empty ts) _).trans ?_
    simp only [readColon_spelled hbs, ha.after_colon hbs' hitem hrest]
    rfl

/-- The first field of a record decides first whether it can be finished. -/
lemma finish_cons (f : Field α) (slot : Option α) (draft : Draft ts) :
    finish (α :: ts) (f, fs) (slot, draft) =
      match slot.or f.missing with
      | none => .error (.missing f.name)
      | some a => (finish ts fs draft).map fun row => (a, row) := rfl

/-- A full draft makes the record. -/
lemma finish_full (ts : List Type) (fs : Fields ts) (row : Row ts) :
    finish ts fs (Draft.full ts row) = .ok row := by
  induction ts with
  | nil => rfl
  | cons α ts ih =>
    obtain ⟨f, fs⟩ := fs
    obtain ⟨a, row⟩ := row
    change (finish ts fs (Draft.full ts row)).map (fun row => (a, row)) = .ok (a, row)
    rw [ih fs row]
    rfl

/-- A record of fields with distinct names is read back as what its fields are read as. -/
lemma reads_record {row row' : Row ts} (h : RowReads ts fs row row')
    (hnames : (fieldNames ts fs).Nodup) :
    Reads (readRecord ts fs) (.record (writeFields ts fs row)) row' := by
  intro cs rest s hcs _ hs
  unfold Spells at hcs
  obtain ⟨more, hmore, rfl⟩ := hcs
  have hread : namedFields ts fs ((chars more ++ rest).length + 1) true (Draft.empty ts)
      (chars more ++ rest) = .ok (Draft.full ts row', rest) :=
    namedFields_spelled (fills_writeFields ts fs h hnames) hmore (by simp) rest
  unfold readRecord
  rw [hs, chars_cons, List.cons_append]
  simp only [hread, finish_full]
  rfl

/-- A structure is read back as what the row of its fields is read as. -/
lemma reads_structure {toRow : α → Row ts} {ofRow : Row ts → α} {a : α} {row : Row ts}
    (h : RowReads ts fs (toRow a) row) (hnames : (fieldNames ts fs).Nodup) :
    Reads (Codec.record ts fs toRow ofRow).read ((Codec.record ts fs toRow ofRow).write a)
      (ofRow row) :=
  (reads_record h hnames).map ofRow

/-! ### Whole documents -/

/-- A document that is nothing but a spelling of a value is read as the value is. -/
lemma decode_spelled {r : Reader α} {v : Value} {a : α} (h : Reads r v a) {cs : List Char}
    (hcs : Spells v cs) : decode r (chars cs) = .ok a := by
  obtain ⟨c, more, hcons, hc⟩ := hcs.exists_eq
  have hskip : skipSpace (chars cs) = chars cs ++ [] := by
    rw [hcons, chars_cons, skipSpace_cons hc.1, List.append_nil]
  have hread := h cs [] (chars cs) hcs stops_nil hskip
  unfold decode
  rw [hread]
  rfl

/-- The compact text of a value is read back. -/
lemma decode_compactText {c : Codec α} {a a' : α} (h : Reads c.read (c.write a) a') :
    decode c.read (Text.glyphs (c.compactText a)) = .ok a' := by
  have hglyphs : Text.glyphs (c.compactText a) = chars (c.write a).compact := by
    unfold Text.glyphs Codec.compactText Value.compactText
    rw [String.toList_ofList]
    rfl
  rw [hglyphs]
  exact decode_spelled h (spells_compact _)

/-- The pretty text of a value is one of its spellings. -/
lemma glyphs_prettyText (c : Codec α) (a : α) :
    Text.glyphs (c.prettyText a) = chars ((c.write a).prettyAt 0) := by
  unfold Text.glyphs Codec.prettyText Value.prettyText
  rw [String.toList_ofList]
  rfl

/-- The pretty text of a value is read back. -/
lemma decode_prettyText {c : Codec α} {a a' : α} (h : Reads c.read (c.write a) a') :
    decode c.read (Text.glyphs (c.prettyText a)) = .ok a' := by
  rw [glyphs_prettyText]
  exact decode_spelled h (spells_prettyAt 0 _)

end Retrial.Json
