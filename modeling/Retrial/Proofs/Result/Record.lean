import Retrial.Execution
import Retrial.Proofs.Json.Origins
import Retrial.Proofs.Time.Valid

/-!
# Executions in records

An execution is read back from its compact text and from its pretty text, field for field, exactly
if its counters are numbers of their sizes and its times are times that can be written
(`Execution.readsBack_iff`): texts come back with all their characters, times to the nanosecond, and
what is absent comes back as absent.  There are times that cannot be written: a leap second within a
minute comes back as the second after it.  The other direction holds for any content: what has been
read as an execution can be written and read again (`Execution.readable_of_decode`).
-/

namespace Retrial

open Json (Reads Gives RowGiven Value)

/-! ### Single fields -/

/-- Statuses are read back. -/
lemma Status.reads (s : Status) : Reads Status.codec.read (Status.codec.write s) s :=
  Json.reads_choice (Status.ofName?_name s)

/-- Times that may be absent are read back. -/
lemma Time.reads_optional_instant {t : Option Time.Instant} (h : ∀ t' ∈ t, t'.Valid) :
    Reads (Time.Instant.codec.optional).read (Time.Instant.codec.optional.write t) t := by
  cases t with
  | none => exact Json.reads_none _
  | some t =>
    refine Json.reads_some (Time.reads_instant (h t rfl)) fun cs hcs => ?_
    unfold Json.Spells at hcs
    rw [hcs]
    exact ⟨by simp [Json.quoted], by simp [Json.quoted]⟩

/-- Truth values are read back. -/
lemma Json.reads_bool (b : Bool) : Reads readBool (.bool b) b := by
  intro cs rest s hcs _ hs
  unfold Spells at hcs
  unfold readBool
  cases b with
  | false =>
    have hs' : skipSpace s = .char 'f' :: (chars ['a', 'l', 's', 'e'] ++ rest) := by
      rw [hs, hcs]
      rfl
    rw [hs']
    simp only [word_chars]
    rfl
  | true =>
    have hs' : skipSpace s = .char 't' :: (chars ['r', 'u', 'e'] ++ rest) := by
      rw [hs, hcs]
      rfl
    rw [hs']
    simp only [word_chars]
    rfl

/-! ### Results -/

/-- The result can be read back: its counters are numbers of 32 and 64 bits, and its times are
valid. -/
structure Result.Readable (r : Result) : Prop where
  attempts : r.attempts < 2 ^ 32
  startedAt : r.startedAt.Valid
  completedAt : ∀ t ∈ r.completedAt, t.Valid
  durationMs : r.durationMs < 2 ^ 64

/-- The results there are: the counters are numbers of their sizes, the times are times there
are. -/
structure Result.Representable (r : Result) : Prop where
  attempts : r.attempts < 2 ^ 32
  startedAt : r.startedAt.Representable
  completedAt : ∀ t ∈ r.completedAt, t.Representable
  durationMs : r.durationMs < 2 ^ 64

instance (r : Result) : Decidable r.Readable :=
  decidable_of_iff (r.attempts < 2 ^ 32 ∧ r.startedAt.Valid ∧ (∀ t ∈ r.completedAt, t.Valid) ∧
      r.durationMs < 2 ^ 64)
    ⟨fun h => ⟨h.1, h.2.1, h.2.2.1, h.2.2.2⟩,
      fun h => ⟨h.attempts, h.startedAt, h.completedAt, h.durationMs⟩⟩

/-- A result is read back. -/
lemma Result.reads {r : Result} (h : r.Readable) :
    Reads Result.codec.read (Result.codec.write r) r :=
  @Json.reads_structure Result
    [String, Status, Nat, Time.Instant, Option Time.Instant, Nat, Option String, Option String,
      Bool, Option String] _ _ _ r
    (r.testId, r.status, r.attempts, r.startedAt, r.completedAt, r.durationMs, r.errorMessage,
      r.stackTrace, r.healed, r.healingApplied, ())
    ⟨Json.reads_string _, Status.reads _, Json.reads_nat (by norm_num) h.attempts,
      Time.reads_instant h.startedAt, Time.reads_optional_instant h.completedAt,
      Json.reads_nat le_rfl h.durationMs, Json.reads_optional_string _,
      Json.reads_optional_string _, Json.reads_bool _, Json.reads_optional_string _, trivial⟩
    (by decide)

/-- A result that has been read can be read back. -/
lemma Result.readable_of_gives {r : Result} (h : Gives Result.codec.read r) : r.Readable := by
  obtain ⟨row, hrow, rfl⟩ := Json.exists_rowGiven h
  obtain ⟨testId, status, attempts, startedAt, completedAt, durationMs, errorMessage, stackTrace,
    healed, healingApplied, ⟨⟩⟩ := row
  obtain ⟨-, -, hattempts, hstarted, hcompleted, hduration, -⟩ := hrow
  refine ⟨Json.lt_of_gives_readNat (Json.gives_of_required hattempts),
    Time.valid_of_gives (Json.gives_of_required hstarted), fun t ht => ?_,
    Json.lt_of_gives_readNat (Json.gives_of_required hduration)⟩
  obtain rfl : completedAt = some t := ht
  exact Time.valid_of_gives (Json.gives_of_optionalField hcompleted)

/-! ### Summaries -/

/-- The summary can be read back: its counts are numbers of 64 bits. -/
structure Summary.Readable (s : Summary) : Prop where
  total : s.total < 2 ^ 64
  passed : s.passed < 2 ^ 64
  failed : s.failed < 2 ^ 64
  flaky : s.flaky < 2 ^ 64
  skipped : s.skipped < 2 ^ 64
  healed : s.healed < 2 ^ 64

instance (s : Summary) : Decidable s.Readable :=
  decidable_of_iff (s.total < 2 ^ 64 ∧ s.passed < 2 ^ 64 ∧ s.failed < 2 ^ 64 ∧ s.flaky < 2 ^ 64 ∧
      s.skipped < 2 ^ 64 ∧ s.healed < 2 ^ 64)
    ⟨fun h => ⟨h.1, h.2.1, h.2.2.1, h.2.2.2.1, h.2.2.2.2.1, h.2.2.2.2.2⟩,
      fun h => ⟨h.total, h.passed, h.failed, h.flaky, h.skipped, h.healed⟩⟩

/-- A summary is read back. -/
lemma Summary.reads {s : Summary} (h : s.Readable) :
    Reads Summary.codec.read (Summary.codec.write s) s :=
  @Json.reads_structure Summary [Nat, Nat, Nat, Nat, Nat, Nat] _ _ _ s
    (s.total, s.passed, s.failed, s.flaky, s.skipped, s.healed, ())
    ⟨Json.reads_nat le_rfl h.total, Json.reads_nat le_rfl h.passed, Json.reads_nat le_rfl h.failed,
      Json.reads_nat le_rfl h.flaky, Json.reads_nat le_rfl h.skipped,
      Json.reads_nat le_rfl h.healed, trivial⟩
    (by decide)

/-- A summary that has been read can be read back. -/
lemma Summary.readable_of_gives {s : Summary} (h : Gives Summary.codec.read s) : s.Readable := by
  have hfits {name : String} {n : Nat}
      (h : (Json.required name (.nat 64)).Gives n) : n < 2 ^ 64 :=
    Json.lt_of_gives_readNat (Json.gives_of_required h)
  obtain ⟨row, hrow, rfl⟩ := Json.exists_rowGiven h
  obtain ⟨total, passed, failed, flaky, skipped, healed, ⟨⟩⟩ := row
  obtain ⟨htotal, hpassed, hfailed, hflaky, hskipped, hhealed, -⟩ := hrow
  exact ⟨hfits htotal, hfits hpassed, hfits hfailed, hfits hflaky, hfits hskipped, hfits hhealed⟩

/-! ### Executions -/

/-- The execution can be read back: its results and its summary can, and its times are valid. -/
structure Execution.Readable (e : Execution) : Prop where
  results : ∀ r ∈ e.results, r.Readable
  startedAt : e.startedAt.Valid
  completedAt : ∀ t ∈ e.completedAt, t.Valid
  summary : e.summary.Readable

instance (e : Execution) : Decidable e.Readable :=
  decidable_of_iff ((∀ r ∈ e.results, r.Readable) ∧ e.startedAt.Valid ∧
      (∀ t ∈ e.completedAt, t.Valid) ∧ e.summary.Readable)
    ⟨fun h => ⟨h.1, h.2.1, h.2.2.1, h.2.2.2⟩,
      fun h => ⟨h.results, h.startedAt, h.completedAt, h.summary⟩⟩

/-- The executions there are: the counters are numbers of their sizes, the times are times there
are. -/
structure Execution.Representable (e : Execution) : Prop where
  results : ∀ r ∈ e.results, r.Representable
  startedAt : e.startedAt.Representable
  completedAt : ∀ t ∈ e.completedAt, t.Representable
  summary : e.summary.Readable

/-- An execution that can be read back is one that there is. -/
lemma Execution.Readable.representable {e : Execution} (h : e.Readable) : e.Representable where
  results r hr :=
    let hr' := h.results r hr
    ⟨hr'.attempts, hr'.startedAt.representable, fun t ht => (hr'.completedAt t ht).representable,
      hr'.durationMs⟩
  startedAt := h.startedAt.representable
  completedAt t ht := (h.completedAt t ht).representable
  summary := h.summary

/-- An execution is read back. -/
lemma Execution.reads {e : Execution} (h : e.Readable) :
    Reads Execution.codec.read (Execution.codec.write e) e := by
  have hresults : Reads (Json.Codec.list Result.codec).read
      ((Json.Codec.list Result.codec).write e.results) e.results := by
    refine Json.reads_list ?_
    rw [List.forall₂_map_left_iff]
    exact List.forall₂_same.mpr fun r hr => Result.reads (h.results r hr)
  exact @Json.reads_structure Execution
    [String, String, Status, List Result, Time.Instant, Option Time.Instant, Summary] _ _ _ e
    (e.id, e.strategyId, e.status, e.results, e.startedAt, e.completedAt, e.summary, ())
    ⟨Json.reads_string _, Json.reads_string _, Status.reads _, hresults,
      Time.reads_instant h.startedAt, Time.reads_optional_instant h.completedAt,
      Summary.reads h.summary, trivial⟩
    (by decide)

/-- An execution that has been read, from whatever content, can be read back. -/
theorem Execution.readable_of_decode {content : List Text.Glyph} {e : Execution}
    (h : Json.decode Execution.codec.read content = .ok e) : e.Readable := by
  obtain ⟨row, hrow, rfl⟩ := Json.exists_rowGiven (Json.gives_of_decode h)
  obtain ⟨id, strategyId, status, results, startedAt, completedAt, summary, ⟨⟩⟩ := row
  obtain ⟨-, -, -, hresults, hstarted, hcompleted, hsummary, -⟩ := hrow
  refine ⟨fun r hr => ?_, Time.valid_of_gives (Json.gives_of_required hstarted), fun t ht => ?_,
    Summary.readable_of_gives (Json.gives_of_required hsummary)⟩
  · exact Result.readable_of_gives
      (Json.gives_of_gives_readList (Json.gives_of_required hresults) r hr)
  · obtain rfl : completedAt = some t := ht
    exact Time.valid_of_gives (Json.gives_of_optionalField hcompleted)

/-- An execution is read back from its compact text, and from its pretty text, exactly if its
counters are numbers of their sizes and its times are valid. -/
theorem Execution.readsBack_iff (e : Execution) :
    (Json.decode Execution.codec.read (Text.glyphs (Execution.codec.compactText e)) = .ok e ↔
      e.Readable) ∧
    (Json.decode Execution.codec.read (Text.glyphs (Execution.codec.prettyText e)) = .ok e ↔
      e.Readable) :=
  ⟨⟨readable_of_decode, fun h => Json.decode_compactText (reads h)⟩,
    ⟨readable_of_decode, fun h => Json.decode_prettyText (reads h)⟩⟩

/-- An execution that began half a second into a leap second after the first half of a minute. -/
def leapingExecution : Execution := Execution.start ⟨30, 1500000000⟩ "leap" "smoke"

/-- There is such an execution. -/
lemma representable_leapingExecution : leapingExecution.Representable := by
  refine ⟨?_, by decide, ?_, by decide⟩
  · rintro r ⟨⟩
  · rintro t ⟨⟩

/-- It cannot be read back. -/
lemma not_readable_leapingExecution : ¬leapingExecution.Readable := by
  decide

/-- Not every execution there is can be read back: the leap second has to be at the end of a
minute. -/
theorem Execution.not_readsBack_of_leapWithinMinute :
    ¬∀ e : Execution, e.Representable →
      Json.decode Execution.codec.read (Text.glyphs (Execution.codec.compactText e)) = .ok e ∧
      Json.decode Execution.codec.read (Text.glyphs (Execution.codec.prettyText e)) = .ok e := by
  intro h
  have hread := (h leapingExecution representable_leapingExecution).1
  exact not_readable_leapingExecution (readable_of_decode hread)

end Retrial
