import Mathlib
import Retrial.Text.Field

/-!
# Reading comma-separated values

A text is read as records, one after the other up to its end.  A record ends with a line break,
which is a line feed with or without a carriage return before it, and its fields have commas between
them.  A field that begins with a double quote goes on to the next double quote that is not doubled,
and a comma, a line break or the end must follow.  Any other field goes on to the first of these,
and no double quote may stand in it.

A field that is written with quotes where it needs them is read back if a comma follows
(`Csv.spells_fieldWith`).  Carriage returns do not call for quotes, so that the last field of a line
loses one that it ends with (`Csv.takeField_lastOfLine_iff`).  A field that is written as it is can
be read back only if it needs no quotes (`Csv.plain_of_takeField`): with a quote at its front it
would have to hold twice as many quotes as it does.
-/

namespace Retrial.Csv

/-! ### The reader -/

/-- What ends a field. -/
inductive Stop
  /-- A comma: the next field of the record follows. -/
  | comma
  /-- A line break: the next record follows. -/
  | line
  /-- The end of the text. -/
  | close
deriving DecidableEq, Repr

/-- What ends a field at the front of a text, and what comes after it. -/
def stop? : List Char → Option (Stop × List Char)
  | [] => some (.close, [])
  | c :: s =>
    if c = ',' then some (.comma, s)
    else if c = '\n' then some (.line, s)
    else if c = '\r' ∧ s.head? = some '\n' then some (.line, s.tail)
    else none

/-- The field with one more character at its front. -/
def push (c : Char) (p : List Char × Stop × List Char) : List Char × Stop × List Char :=
  (c :: p.1, p.2)

/-- A field without quotes, what ends it, and what comes after that. -/
def takeBare : List Char → Option (List Char × Stop × List Char)
  | [] => some ([], .close, [])
  | c :: s =>
    match stop? (c :: s) with
    | some (stop, rest) => some ([], stop, rest)
    | none => if c = '"' then none else (takeBare s).map (push c)

/-- A field from behind the quote at its front, what ends it, and what comes after that. -/
def takeQuoted : List Char → Option (List Char × Stop × List Char)
  | [] => none
  | c :: s =>
    if c = '"' then
      match s with
      | '"' :: s => (takeQuoted s).map (push '"')
      | s => (stop? s).map fun (stop, rest) => ([], stop, rest)
    else (takeQuoted s).map (push c)

/-- A field, what ends it, and what comes after that. -/
def takeField : List Char → Option (List Char × Stop × List Char)
  | '"' :: s => takeQuoted s
  | s => takeBare s

variable {s t f w rest : List Char} {stop : Stop} {c : Char}

/-- What ends a field is taken off with it. -/
lemma length_le_of_stop? (h : stop? s = some (stop, rest)) : rest.length ≤ s.length - 1 := by
  cases s with
  | nil =>
    cases h
    exact Nat.le_refl _
  | cons c s =>
    unfold stop? at h
    simp only at h
    split_ifs at h
    all_goals
      cases h
      simp

/-- So is what ends a field without quotes. -/
lemma length_le_of_takeBare (h : takeBare s = some (f, stop, rest)) :
    rest.length ≤ s.length - 1 := by
  induction s generalizing f with
  | nil =>
    cases h
    exact Nat.le_refl _
  | cons c s ih =>
    unfold takeBare at h
    split at h
    · rename_i hstop
      cases h
      exact length_le_of_stop? hstop
    · split_ifs at h
      obtain ⟨⟨f', stop', rest'⟩, htake, hpush⟩ := Option.map_eq_some_iff.mp h
      cases hpush
      have hle := ih htake
      rw [List.length_cons]
      omega

/-- So is what ends a field in quotes. -/
lemma length_le_of_takeQuoted (h : takeQuoted s = some (f, stop, rest)) :
    rest.length ≤ s.length - 1 := by
  fun_induction takeQuoted s generalizing f with
  | case1 => cases h
  | case2 s ih =>
    obtain ⟨⟨f', stop', rest'⟩, htake, hpush⟩ := Option.map_eq_some_iff.mp h
    cases hpush
    have hle := ih htake
    simp only [List.length_cons]
    omega
  | case3 s hnot =>
    obtain ⟨⟨stop', rest'⟩, hstop, hpair⟩ := Option.map_eq_some_iff.mp h
    cases hpair
    have hle := length_le_of_stop? hstop
    rw [List.length_cons]
    omega
  | case4 c s hc ih =>
    obtain ⟨⟨f', stop', rest'⟩, htake, hpush⟩ := Option.map_eq_some_iff.mp h
    cases hpush
    have hle := ih htake
    rw [List.length_cons]
    omega

/-- So is what ends any field. -/
lemma length_le_of_takeField (h : takeField s = some (f, stop, rest)) :
    rest.length ≤ s.length - 1 := by
  unfold takeField at h
  split at h
  · have hle := length_le_of_takeQuoted h
    rw [List.length_cons]
    omega
  · exact length_le_of_takeBare h

/-- A field that another follows is taken off with the comma. -/
lemma length_lt_of_takeField (h : takeField s = some (f, .comma, rest)) :
    rest.length < s.length := by
  have hle := length_le_of_takeField h
  have hne : s ≠ [] := by
    rintro rfl
    cases h
  have hpos := List.length_pos_of_ne_nil hne
  omega

/-- A record, and what comes after it. -/
def takeRecord (s : List Char) : Option (List String × List Char) :=
  match _h : takeField s with
  | none => none
  | some (f, .comma, rest) => (takeRecord rest).map fun p => (String.ofList f :: p.1, p.2)
  | some (f, _, rest) => some ([String.ofList f], rest)
termination_by s.length
decreasing_by exact length_lt_of_takeField _h

/-- A record takes off what ends it. -/
lemma length_le_of_takeRecord {r : List String} (h : takeRecord s = some (r, rest)) :
    rest.length ≤ s.length - 1 := by
  fun_induction takeRecord s generalizing r with
  | case1 => cases h
  | case2 s f rest' hfield ih =>
    obtain ⟨⟨fields, rest''⟩, htake, hpair⟩ := Option.map_eq_some_iff.mp h
    cases hpair
    have hle := ih htake
    have hlt := length_lt_of_takeField hfield
    omega
  | case3 s f stop rest' hlast hfield =>
    cases h
    exact length_le_of_takeField hfield

/-- The records of a text. -/
def records (s : List Char) : Option (List (List String)) :=
  if _hs : s = [] then some []
  else
    match _h : takeRecord s with
    | none => none
    | some (r, rest) => (records rest).map (r :: ·)
termination_by s.length
decreasing_by
  have hle := length_le_of_takeRecord _h
  have hpos := List.length_pos_of_ne_nil _hs
  omega

/-- Reads a text. -/
def read? (text : String) : Option (List (List String)) := records text.toList

/-! ### Records -/

/-- A field before a comma is the first of its record. -/
lemma takeRecord_of_comma (h : takeField s = some (f, .comma, rest)) :
    takeRecord s = (takeRecord rest).map fun p => (String.ofList f :: p.1, p.2) := by
  rw [takeRecord]
  split <;> simp_all

/-- A field before a line break is the last of its record. -/
lemma takeRecord_of_line (h : takeField s = some (f, .line, rest)) :
    takeRecord s = some ([String.ofList f], rest) := by
  rw [takeRecord]
  split <;> simp_all

/-- The first field of a record is the field in front. -/
lemma exists_takeField_of_takeRecord {field : String} {fields : List String}
    (h : takeRecord s = some (field :: fields, rest)) :
    ∃ stop rest', takeField s = some (field.toList, stop, rest') := by
  rw [takeRecord] at h
  split at h
  · cases h
  · rename_i hfield
    obtain ⟨p, -, hpair⟩ := Option.map_eq_some_iff.mp h
    cases hpair
    exact ⟨_, _, by rw [hfield, String.toList_ofList]⟩
  · rename_i hfield
    cases h
    exact ⟨_, _, by rw [hfield, String.toList_ofList]⟩

/-- Records are read one after the other. -/
lemma records_of_takeRecord {r : List String} (h : takeRecord s = some (r, rest)) (hs : s ≠ []) :
    records s = (records rest).map (r :: ·) := by
  rw [records, dif_neg hs]
  split <;> simp_all

/-- The end of a text holds no more records. -/
lemma records_nil : records [] = some [] := by
  rw [records, dif_pos rfl]

/-- The first of the records is the one in front. -/
lemma exists_takeRecord_of_records {r : List String} {rs : List (List String)}
    (h : records s = some (r :: rs)) :
    ∃ rest, takeRecord s = some (r, rest) ∧ records rest = some rs := by
  rw [records] at h
  split_ifs at h
  · cases h
  · split at h
    · cases h
    · rename_i r' rest hrecord
      obtain ⟨rs', hrs, hcons⟩ := Option.map_eq_some_iff.mp h
      cases hcons
      exact ⟨rest, hrecord, hrs⟩

/-! ### Fields without quotes -/

/-- The text needs no quotes. -/
def Plain (f : List Char) : Prop := ∀ c ∈ f, c ≠ ',' ∧ c ≠ '"' ∧ c ≠ '\n'

instance (f : List Char) : Decidable (Plain f) := List.decidableBAll _ f

/-- The text ends with a carriage return. -/
def EndsInReturn (f : List Char) : Prop := f.getLast? = some '\r'

instance (f : List Char) : Decidable (EndsInReturn f) := decEq f.getLast? (some '\r')

/-- The text ends with a carriage return, and nothing in it calls for quotes. -/
def LosesReturn (f : List Char) : Prop := Plain f ∧ EndsInReturn f

instance (f : List Char) : Decidable (LosesReturn f) := instDecidableAnd

/-- Nothing ends a field at a character other than a comma and the first of a line break. -/
lemma stop?_eq_none (hcomma : c ≠ ',') (hline : c ≠ '\n')
    (hreturn : c = '\r' → s.head? ≠ some '\n') : stop? (c :: s) = none := by
  unfold stop?
  simp only
  rw [if_neg hcomma, if_neg hline, if_neg fun h => hreturn h.1 h.2]

/-- Nothing that ends a field is a quote. -/
lemma stop?_quote (s : List Char) : stop? ('"' :: s) = none :=
  stop?_eq_none (by decide) (by decide) fun h => absurd h (by decide)

/-- A field that needs no quotes goes up to what ends it, unless this makes one line break with a
carriage return at its end. -/
lemma takeBare_append (hf : Plain f) (ht : stop? t = some (stop, rest))
    (hreturn : EndsInReturn f → t.head? ≠ some '\n') :
    takeBare (f ++ t) = some (f, stop, rest) := by
  induction f with
  | nil =>
    cases t with
    | nil =>
      cases ht
      rfl
    | cons c t =>
      rw [List.nil_append, takeBare]
      simp only [ht]
  | cons c f ih =>
    obtain ⟨⟨hcomma, hquote, hline⟩, hf⟩ := List.forall_mem_cons.mp hf
    have hnone : stop? (c :: (f ++ t)) = none := by
      refine stop?_eq_none hcomma hline fun hc => ?_
      cases f with
      | nil => exact hreturn (congrArg some hc)
      | cons d f =>
        have hd := (List.forall_mem_cons.mp hf).1.2.2
        simpa using hd
    have hrest : takeBare (f ++ t) = some (f, stop, rest) := by
      refine ih hf fun hends => hreturn ?_
      unfold EndsInReturn at hends ⊢
      rw [List.getLast?_cons, hends, Option.getD_some]
    rw [List.cons_append, takeBare]
    simp only [hnone]
    rw [if_neg hquote, hrest]
    rfl

/-- A field without quotes needs none. -/
lemma plain_of_takeBare (h : takeBare s = some (f, stop, rest)) : Plain f := by
  induction s generalizing f with
  | nil =>
    cases h
    exact List.forall_mem_nil _
  | cons c s ih =>
    unfold takeBare at h
    split at h
    · cases h
      exact List.forall_mem_nil _
    · rename_i hstop
      split_ifs at h with hquote
      obtain ⟨⟨f', stop', rest'⟩, htake, hpush⟩ := Option.map_eq_some_iff.mp h
      cases hpush
      refine List.forall_mem_cons.mpr ⟨⟨?_, hquote, ?_⟩, ih htake⟩
      · rintro rfl
        simp [stop?] at hstop
      · rintro rfl
        simp [stop?] at hstop

/-! ### Fields in quotes -/

/-- A field in quotes goes up to the quote that is not doubled. -/
lemma takeQuoted_doubled (f : List Char) (ht : stop? t = some (stop, rest)) :
    takeQuoted (doubled f ++ '"' :: t) = some (f, stop, rest) := by
  induction f with
  | nil =>
    have hend : takeQuoted ('"' :: t) = (stop? t).map fun p => ([], p.1, p.2) := by
      rw [takeQuoted.eq_def]
      simp only [if_true]
      split
      · rw [stop?_quote] at ht
        cases ht
      · rfl
    rw [doubled, List.nil_append, hend, ht]
    rfl
  | cons c f ih =>
    unfold doubled
    by_cases hc : c = '"'
    · subst hc
      simp only [beq_self_eq_true, if_true, List.cons_append]
      rw [takeQuoted.eq_def]
      simp only [if_true]
      rw [ih]
      rfl
    · rw [if_neg (by simpa using hc), List.cons_append, takeQuoted.eq_def]
      simp only
      rw [if_neg hc, ih]
      rfl

/-- What has been read from behind a quote is the field with its quotes doubled, a quote, and what
ends a field. -/
lemma exists_of_takeQuoted (h : takeQuoted s = some (f, stop, rest)) :
    ∃ t, s = doubled f ++ '"' :: t := by
  fun_induction takeQuoted s generalizing f with
  | case1 => cases h
  | case2 s ih =>
    obtain ⟨⟨f', stop', rest'⟩, htake, hpush⟩ := Option.map_eq_some_iff.mp h
    cases hpush
    obtain ⟨t, rfl⟩ := ih htake
    exact ⟨t, by simp [doubled]⟩
  | case3 s hnot =>
    obtain ⟨p, -, hpair⟩ := Option.map_eq_some_iff.mp h
    cases hpair
    exact ⟨s, rfl⟩
  | case4 c s hc ih =>
    obtain ⟨⟨f', stop', rest'⟩, htake, hpush⟩ := Option.map_eq_some_iff.mp h
    cases hpush
    obtain ⟨t, rfl⟩ := ih htake
    exact ⟨t, by simp [doubled, hc]⟩

/-- Doubling adds a character for each quote. -/
lemma length_doubled (f : List Char) : (doubled f).length = f.length + f.count '"' := by
  induction f with
  | nil => rfl
  | cons c f ih =>
    unfold doubled
    by_cases hc : c = '"'
    · simp only [hc, beq_self_eq_true, if_true, List.length_cons, List.count_cons_self, ih]
      omega
    · rw [if_neg (by simpa using hc), List.length_cons, List.length_cons, List.count_cons_of_ne hc,
        ih]
      omega

/-- Doubling doubles the number of quotes. -/
lemma count_doubled (f : List Char) : (doubled f).count '"' = 2 * f.count '"' := by
  induction f with
  | nil => rfl
  | cons c f ih =>
    unfold doubled
    by_cases hc : c = '"'
    · simp only [hc, beq_self_eq_true, if_true, List.count_cons_self, ih]
      omega
    · rw [if_neg (by simpa using hc), List.count_cons_of_ne hc, List.count_cons_of_ne hc, ih]

/-! ### Written fields -/

/-- Some characters stand for a field wherever it ends, other than at a line feed. -/
def Spells (w f : List Char) : Prop :=
  ∀ ⦃t stop rest⦄, stop? t = some (stop, rest) → t.head? ≠ some '\n' →
    takeField (w ++ t) = some (f, stop, rest)

/-- A field that begins with no quote is one without quotes. -/
lemma takeField_of_head? (h : s.head? ≠ some '"') : takeField s = takeBare s := by
  unfold takeField
  split
  · exact absurd rfl h
  · rfl

/-- A text that needs no quotes does not begin with one, nor does what comes after it. -/
lemma head?_append_ne_quote (hf : Plain f) (ht : stop? t = some (stop, rest)) :
    (f ++ t).head? ≠ some '"' := by
  cases f with
  | nil =>
    cases t with
    | nil => simp
    | cons c t =>
      intro hc
      obtain rfl : c = '"' := by simpa using hc
      rw [stop?_quote] at ht
      cases ht
  | cons c f =>
    have hquote := (List.forall_mem_cons.mp hf).1.2.1
    simpa using hquote

/-- A text that needs no quotes is taken off up to what ends it, unless a carriage return at its end
belongs to that. -/
lemma takeField_plain (hf : Plain f) (ht : stop? t = some (stop, rest))
    (hreturn : EndsInReturn f → t.head? ≠ some '\n') :
    takeField (f ++ t) = some (f, stop, rest) := by
  rw [takeField_of_head? (head?_append_ne_quote hf ht), takeBare_append hf ht hreturn]

/-- A text in quotes is taken off up to what ends it. -/
lemma takeField_quoted (f : List Char) (ht : stop? t = some (stop, rest)) :
    takeField (('"' :: doubled f ++ ['"']) ++ t) = some (f, stop, rest) := by
  have happend : ('"' :: doubled f ++ ['"']) ++ t = '"' :: (doubled f ++ '"' :: t) := by simp
  rw [happend]
  exact takeQuoted_doubled f ht

/-- Quotes are put around what needs them. -/
lemma fieldWith_eq (f : List Char) :
    fieldWith [',', '"', '\n'] f = if Plain f then f else '"' :: doubled f ++ ['"'] := by
  have hany : (f.any fun c => [',', '"', '\n'].contains c) = true ↔ ¬Plain f := by
    unfold Plain
    rw [List.any_eq_true]
    push Not
    refine exists_congr fun c => and_congr_right fun _ => ?_
    simp only [List.contains_cons, List.contains_nil, Bool.or_false, Bool.or_eq_true, beq_iff_eq]
    tauto
  unfold fieldWith
  by_cases hf : Plain f
  · rw [if_pos hf, if_neg fun h => hany.mp h hf]
  · rw [if_neg hf, if_pos (hany.mpr hf)]

/-- A text that needs no quotes stands for itself. -/
lemma spells_plain (hf : Plain f) : Spells f f :=
  fun _ _ _ ht hline => takeField_plain hf ht fun _ => hline

/-- A text with quotes where it needs them stands for itself. -/
lemma spells_fieldWith (f : List Char) : Spells (fieldWith [',', '"', '\n'] f) f := by
  rw [fieldWith_eq]
  split_ifs with hf
  · exact spells_plain hf
  · exact fun _ _ _ ht _ => takeField_quoted f ht

/-- At the end of a line, a text with quotes where it needs them stands for itself, or, if it has no
quotes and ends with a carriage return, for itself without that. -/
lemma takeField_lastOfLine (f rest : List Char) :
    takeField (fieldWith [',', '"', '\n'] f ++ '\n' :: rest) =
      some (if LosesReturn f then f.dropLast else f, .line, rest) := by
  have hline : stop? ('\n' :: rest) = some (.line, rest) := rfl
  rw [fieldWith_eq]
  by_cases hf : Plain f
  · rw [if_pos hf]
    by_cases hends : EndsInReturn f
    · -- the carriage return and the line feed are one line break
      have hsplit : f = f.dropLast ++ ['\r'] := by
        refine (List.dropLast_append_getLast? '\r' ?_).symm
        exact hends
      have hbreak : stop? ('\r' :: '\n' :: rest) = some (.line, rest) := rfl
      have hplain : Plain f.dropLast := fun c hc => hf c (List.mem_of_mem_dropLast hc)
      have htext : f ++ '\n' :: rest = f.dropLast ++ '\r' :: '\n' :: rest := by
        conv_lhs => rw [hsplit]
        rw [List.append_assoc, List.singleton_append]
      rw [if_pos ⟨hf, hends⟩, htext]
      exact takeField_plain hplain hbreak fun _ => by simp
    · rw [if_neg fun h => hends h.2]
      exact takeField_plain hf hline fun h => absurd h hends
  · rw [if_neg hf, if_neg fun h => hf h.1]
    exact takeField_quoted f hline

/-- At the end of a line, a text with quotes where it needs them is read back exactly if it has
quotes or does not end with a carriage return. -/
lemma takeField_lastOfLine_iff (f rest : List Char) :
    takeField (fieldWith [',', '"', '\n'] f ++ '\n' :: rest) = some (f, .line, rest) ↔
      ¬LosesReturn f := by
  rw [takeField_lastOfLine]
  split_ifs with hloses
  · have hne : f.dropLast ≠ f := by
      intro heq
      have hlength := congrArg List.length heq
      have hpos : 0 < f.length := List.length_pos_of_ne_nil fun hnil => by
        rw [hnil] at hloses
        exact absurd hloses.2 (by decide)
      rw [List.length_dropLast] at hlength
      omega
    simpa [hloses] using hne
  · simp [hloses]

/-- Behind a quote and before a comma no text is read as itself with the quote: it would have to
begin with itself, all quotes doubled. -/
lemma takeQuoted_ne_self (g t : List Char) :
    takeQuoted (g ++ ',' :: t) ≠ some ('"' :: g, stop, rest) := by
  intro h
  obtain ⟨t', htext⟩ : ∃ t', g ++ ',' :: t = doubled ('"' :: g) ++ '"' :: t' :=
    exists_of_takeQuoted h
  have hlength := length_doubled ('"' :: g)
  have hdouble := count_doubled ('"' :: g)
  rw [List.length_cons, List.count_cons_self] at hlength
  rw [List.count_cons_self] at hdouble
  have hfront : g ++ [','] = (doubled ('"' :: g)).take (g.length + 1) := by
    have htake := congrArg (List.take (g.length + 1)) htext
    rw [List.append_cons g ',' t, List.take_left' (by simp),
      List.take_append_of_le_length (by omega)] at htake
    exact htake
  -- what is left has not enough characters for the other half of the quotes
  have hcount : (doubled ('"' :: g)).count '"' ≤
      (g ++ [',']).count '"' + ((doubled ('"' :: g)).length - (g.length + 1)) := by
    rw [hfront, ← List.length_drop]
    conv_lhs => rw [← List.take_append_drop (g.length + 1) (doubled ('"' :: g)), List.count_append]
    exact Nat.add_le_add_left List.count_le_length _
  have hcomma : [','].count '"' = 0 := by decide
  rw [List.count_append] at hcount
  omega

/-- A text before a comma that is read back needs no quotes. -/
lemma plain_of_takeField (h : takeField (f ++ ',' :: t) = some (f, stop, rest)) : Plain f := by
  cases f with
  | nil => exact List.forall_mem_nil _
  | cons c g =>
    by_cases hquote : c = '"'
    · subst hquote
      exact absurd h (takeQuoted_ne_self g t)
    · rw [takeField_of_head? (by simpa using hquote)] at h
      exact plain_of_takeBare h

/-! ### Written records -/

/-- Fields with commas between them and a line break at the end are a record. -/
lemma takeRecord_line {ws fs : List (List Char)} {w f : List Char}
    (hspells : List.Forall₂ Spells ws fs)
    (hlast : takeField (w ++ '\n' :: rest) = some (f, .line, rest)) :
    takeRecord ([','].intercalate (ws ++ [w]) ++ '\n' :: rest) =
      some ((fs ++ [f]).map String.ofList, rest) := by
  induction hspells with
  | nil => simpa using takeRecord_of_line hlast
  | @cons v g ws fs hv hspells ih =>
    have hcomma : [','].intercalate (v :: (ws ++ [w])) ++ '\n' :: rest =
        v ++ ',' :: ([','].intercalate (ws ++ [w]) ++ '\n' :: rest) := by
      cases ws with
      | nil => simp [List.intercalate_cons_cons]
      | cons v' ws => simp [List.intercalate_cons_cons]
    rw [List.cons_append, hcomma, takeRecord_of_comma (hv rfl (by simp)), ih]
    rfl

end Retrial.Csv
