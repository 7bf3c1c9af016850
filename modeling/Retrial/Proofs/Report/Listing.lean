import Retrial.Proofs.Csv.Reader
import Retrial.Proofs.Json.Digits
import Retrial.Report.Basic

/-!
# Listings of results are read back

The listing of an execution's results has one line for each result.  Quotes are put where they are
needed around the id of the test and the error, and numbers, names of statuses and truth values need
none.  But the id of the execution stands there as it is, and what needs quotes in it breaks each
line (`Report.not_read_commaId`), and an error without quotes loses a carriage return at its end to
the line break.  In all other cases the listing is read as its header and the fields of each result,
one record for each (`Report.execution_read_iff`).
-/

namespace Retrial

open Csv

namespace Report

variable {id : String} {x : Result} {rest rest' : List Char}

/-- The names of the columns of a listing. -/
def resultColumns : List String :=
  ["execution_id", "test_id", "status", "attempts", "duration_ms", "healed", "error"]

/-- What a listing says of a result, field by field. -/
def resultFields (executionId : String) (x : Result) : List String :=
  [executionId, x.testId, x.status.name, toString x.attempts, toString x.durationMs,
    if x.healed then "true" else "false", x.errorMessage.getD ""]

/-- The text of the error, if there is one. -/
def errorText (x : Result) : List Char := (x.errorMessage.getD "").toList

/-! ### Fields -/

/-- A number needs no quotes. -/
lemma plain_toString (n : Nat) : Plain (toString n).toList := by
  have hdigits : (toString n).toList = Nat.toDigits 10 n := Nat.toList_repr
  rw [hdigits]
  intro c hc
  have hdigit := Json.digits_toDigits n c hc
  refine ⟨?_, ?_, ?_⟩
  all_goals
    rintro rfl
    exact absurd hdigit (by decide)

/-- The name of a status needs no quotes. -/
lemma plain_name (st : Status) : Plain st.name.toList := by
  cases st <;> decide

/-- A truth value needs no quotes. -/
lemma plain_bool (b : Bool) : Plain (if b then "true" else "false" : String).toList := by
  cases b <;> decide

/-- A line of a listing without its end. -/
lemma toList_resultRow (id : String) (x : Result) :
    (resultRow id x).toList = [','].intercalate
      ([id.toList, fieldWith [',', '"', '\n'] x.testId.toList, x.status.name.toList,
        (toString x.attempts).toList, (toString x.durationMs).toList,
        (if x.healed then "true" else "false" : String).toList] ++
      [fieldWith [',', '"', '\n'] (errorText x)]) := by
  unfold resultRow joined Csv.field errorText
  rw [String.toList_intercalate]
  simp only [List.map_cons, List.map_nil, String.toList_ofList]
  rfl

/-! ### Lines -/

/-- A line after an id that needs no quotes is a record of all fields, of which the error may have
lost a carriage return. -/
lemma takeRecord_resultRow (hid : Plain id.toList) (x : Result) (rest : List Char) :
    takeRecord ((resultRow id x).toList ++ '\n' :: rest) =
      some ((resultFields id x).dropLast ++ [String.ofList
        (if LosesReturn (errorText x) then (errorText x).dropLast else errorText x)], rest) := by
  have hspells : List.Forall₂ Spells
      [id.toList, fieldWith [',', '"', '\n'] x.testId.toList, x.status.name.toList,
        (toString x.attempts).toList, (toString x.durationMs).toList,
        (if x.healed then "true" else "false" : String).toList]
      [id.toList, x.testId.toList, x.status.name.toList, (toString x.attempts).toList,
        (toString x.durationMs).toList,
        (if x.healed then "true" else "false" : String).toList] := by
    refine .cons (spells_plain hid) (.cons (spells_fieldWith _) (.cons (spells_plain ?_)
      (.cons (spells_plain ?_) (.cons (spells_plain ?_) (.cons (spells_plain ?_) .nil)))))
    · exact plain_name _
    · exact plain_toString _
    · exact plain_toString _
    · exact plain_bool _
  rw [toList_resultRow, takeRecord_line hspells (takeField_lastOfLine (errorText x) rest)]
  simp only [List.map_append, List.map_cons, List.map_nil, String.ofList_toList]
  rfl

/-- A line is read as the fields of its result exactly if the id needs no quotes and the error loses
no carriage return. -/
lemma takeRecord_resultRow_iff :
    takeRecord ((resultRow id x).toList ++ '\n' :: rest) = some (resultFields id x, rest') ↔
      (Plain id.toList ∧ ¬LosesReturn (errorText x)) ∧ rest = rest' := by
  constructor
  · intro h
    obtain ⟨stop, rest'', hfield⟩ := exists_takeField_of_takeRecord h
    have hid : Plain id.toList := by
      rw [toList_resultRow, List.cons_append, List.cons_append, List.intercalate_cons_cons,
        List.append_assoc, List.append_assoc] at hfield
      exact plain_of_takeField hfield
    rw [takeRecord_resultRow hid] at h
    obtain ⟨hfields, hrest⟩ := Prod.mk.inj (Option.some.inj h)
    have hsplit : resultFields id x =
        (resultFields id x).dropLast ++ [String.ofList (errorText x)] := by
      rw [errorText, String.ofList_toList]
      rfl
    have herror : (if LosesReturn (errorText x) then (errorText x).dropLast else errorText x) =
        errorText x := by
      have hlast := List.append_cancel_left (hfields.trans hsplit)
      exact String.ofList_injective (List.cons.inj hlast).1
    refine ⟨⟨hid, ?_⟩, hrest⟩
    rw [← takeField_lastOfLine_iff (errorText x) rest, takeField_lastOfLine, herror]
  · rintro ⟨⟨hid, herror⟩, rfl⟩
    rw [takeRecord_resultRow hid, if_neg herror]
    simp [resultFields, errorText]

/-- Lines are read as the fields of their results exactly if all of them are. -/
lemma records_resultRows_iff (id : String) (xs : List Result) :
    records (xs.flatMap fun x => (resultRow id x).toList ++ ['\n']) =
      some (xs.map (resultFields id)) ↔
        ∀ x ∈ xs, Plain id.toList ∧ ¬LosesReturn (errorText x) := by
  induction xs with
  | nil => simp [records_nil]
  | cons x xs ih =>
    let more := xs.flatMap fun x => (resultRow id x).toList ++ ['\n']
    have htext : ((x :: xs).flatMap fun x => (resultRow id x).toList ++ ['\n']) =
        (resultRow id x).toList ++ '\n' :: more := by
      rw [List.flatMap_cons, List.append_assoc, List.singleton_append]
    have hne : (resultRow id x).toList ++ '\n' :: more ≠ [] := by simp
    rw [htext, List.map_cons, List.forall_mem_cons, ← ih]
    constructor
    · intro h
      obtain ⟨rest, hrecord, hmore⟩ := exists_takeRecord_of_records h
      obtain ⟨hread, rfl⟩ := takeRecord_resultRow_iff.mp hrecord
      exact ⟨hread, hmore⟩
    · rintro ⟨hread, hmore⟩
      have hrecord : takeRecord ((resultRow id x).toList ++ '\n' :: more) =
          some (resultFields id x, more) := takeRecord_resultRow_iff.mpr ⟨hread, rfl⟩
      rw [records_of_takeRecord hrecord hne, hmore]
      rfl

/-- The header is the record of the columns' names. -/
lemma takeRecord_resultHeader (rest : List Char) :
    takeRecord (resultHeader.toList ++ rest) = some (resultColumns, rest) := by
  have hspells : List.Forall₂ Spells (resultColumns.dropLast.map String.toList)
      (resultColumns.dropLast.map String.toList) := by
    refine List.forall₂_same.mpr fun f hf => spells_plain ?_
    revert f
    decide
  have herror : takeField ("error".toList ++ '\n' :: rest) = some ("error".toList, .line, rest) :=
    takeField_plain (by decide) rfl fun hends => absurd hends (by decide)
  exact takeRecord_line hspells herror

/-- A listing is read as its header and what its lines are read as. -/
lemma read_execution (colored : Bool) (e : Execution) :
    read? (execution ⟨.csv, colored⟩ e) =
      (records (e.results.flatMap fun x => (resultRow e.id x).toList ++ ['\n'])).map
        (resultColumns :: ·) := by
  have htext : (execution ⟨.csv, colored⟩ e).toList = resultHeader.toList ++
      e.results.flatMap fun x => (resultRow e.id x).toList ++ ['\n'] := by
    unfold execution
    simp only
    rw [String.toList_append, String.toList_join, List.flatMap_map]
    simp only [String.toList_append]
    rfl
  have hne : (execution ⟨.csv, colored⟩ e).toList ≠ [] := by
    rw [htext]
    simp [resultHeader]
  unfold read?
  refine records_of_takeRecord ?_ hne
  rw [htext]
  exact takeRecord_resultHeader _

/-- The listing of the results of an execution is read as its header and the fields of each result,
one record for each, exactly if the id of the execution needs no quotes, unless there are no
results, and no error without quotes ends with a carriage return. -/
theorem execution_read_iff (colored : Bool) (e : Execution) :
    read? (execution ⟨.csv, colored⟩ e) =
        some (resultColumns :: e.results.map (resultFields e.id)) ↔
      (e.results = [] ∨ Plain e.id.toList) ∧
        ∀ x ∈ e.results, ¬LosesReturn (x.errorMessage.getD "").toList := by
  have hrows := records_resultRows_iff e.id e.results
  rw [read_execution]
  constructor
  · intro h
    obtain ⟨rows, hread, hcons⟩ := Option.map_eq_some_iff.mp h
    rw [(List.cons.inj hcons).2] at hread
    have hall := hrows.mp hread
    refine ⟨?_, fun x hx => (hall x hx).2⟩
    cases hresults : e.results with
    | nil => exact Or.inl rfl
    | cons x xs => exact Or.inr (hall x (hresults ▸ List.mem_cons_self)).1
  · rintro ⟨hid, herrors⟩
    rw [hrows.mpr fun x hx => ⟨hid.resolve_left (List.ne_nil_of_mem hx), herrors x hx⟩]
    rfl

/-- A listing whose id has a comma in it is read as something else. -/
theorem not_read_commaId :
    let passed : Result := { Result.pending ⟨0, 0⟩ "login" with status := .passed }
    let e := Execution.complete ⟨0, 0⟩ (.start ⟨0, 0⟩ "a,b" "smoke") [passed]
    read? (execution ⟨.csv, false⟩ e) ≠
      some (resultColumns :: e.results.map (resultFields e.id)) := by
  intro passed e h
  rw [read_execution] at h
  obtain ⟨rows, hread, hcons⟩ := Option.map_eq_some_iff.mp h
  rw [(List.cons.inj hcons).2] at hread
  have hplain := ((records_resultRows_iff e.id e.results).mp hread passed List.mem_cons_self).1
  exact absurd hplain (by decide)

end Report

end Retrial
