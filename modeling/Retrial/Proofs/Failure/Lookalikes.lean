import Retrial.Proofs.Failure.Numbers
import Retrial.Proofs.Pattern.Growth

/-!
# Failures that look alike

Failures look alike if, place by place, they have the same character, the same ASCII letter in
either case, or two ASCII digits.  Such failures have one normal form (`normalize_eq_of_lookalike`).

All digits are taken for the digit zero.  Lower-casing maps texts that look alike to texts that are
then the same: also the final sigma, which looks at the characters around it, does not tell letters
by their case or digits by their value (`map_zeroed_lowercaseAfter`).  The shapes of dates,
identifiers and numbers do not see which digits there are, so that digits may be taken for zero
before reducing or after it.  But after it no digit is left.
-/

namespace Retrial.Signature

open Text

/-- The same character, the same letter of ASCII in either case, or two digits of ASCII. -/
def Lookalike (c d : Char) : Prop :=
  c = d ∨ (c.isAlpha = true ∧ d.isAlpha = true ∧ c.toLower = d.toLower) ∨
    (c.isDigit = true ∧ d.isDigit = true)

instance (c d : Char) : Decidable (Lookalike c d) := by
  unfold Lookalike
  infer_instance

/-! ### Digits taken for zero -/

/-- Each digit of ASCII taken for zero. -/
def zeroed (c : Char) : Char := if c.isDigit then '0' else c

lemma zeroed_of_isDigit {c : Char} (h : c.isDigit = true) : zeroed c = '0' := if_pos h

/-- Zero is a digit like others. -/
lemma keepsClasses_zeroed : KeepsClasses zeroed := by
  have hsame {α : Type} {p : Char → α} (h : ∀ c, c.isDigit = true → p c = p '0') (c : Char) :
      p (zeroed c) = p c := by
    unfold zeroed
    split_ifs with hc
    · exact (h c hc).symm
    · rfl
  refine ⟨hsame fun c hc => ?_, hsame fun c hc => ?_, hsame fun c hc => ?_, fun m hm =>
    hsame (p := fun c => c == m) fun c hc => ?_⟩
  · exact isDecimal_of_isDigit hc
  · exact isWord_of_isDigit hc
  · unfold isLowerHex
    rw [hc]
    rfl
  · have hdigits : ∀ m ∈ ['-', ':', '.', '+', 't', 'z'], m.isDigit = false := by simp
    have hne : ∀ d : Char, d.isDigit = true → (d == m) = false := by
      intro d hd
      rw [beq_eq_false_iff_ne]
      rintro rfl
      rw [hdigits d hm] at hd
      cases hd
    rw [hne c hc, hne '0' rfl]

/-- In a reduced text there are no digits to be taken for zero. -/
lemma map_zeroed_reduce (cs : List Char) : (reduce cs).map zeroed = reduce cs := by
  refine (List.map_congr_left fun c hc => if_neg fun hdigit => ?_).trans (List.map_id _)
  have hnone := isDecimal_of_mem_reduce hc
  rw [isDecimal_of_isDigit hdigit] at hnone
  cases hnone

/-! ### Lower case -/

/-- Letters of ASCII, and what lower-casing makes of them. -/
lemma ascii_of_isAlpha {c : Char} (h : c.isAlpha = true) :
    c.toNat < 128 ∧ isCased c = true ∧ isCaseIgnorable c = false := by
  have hascii : c.toNat < 128 := by
    simp only [Char.isAlpha, Char.isUpper, Char.isLower, Bool.or_eq_true, Bool.and_eq_true,
      decide_eq_true_eq] at h
    obtain ⟨-, h⟩ | ⟨-, h⟩ := h
    · exact ascii_of_le (d := 'Z') h (by decide)
    · exact ascii_of_le (d := 'z') h (by decide)
  have hall : ∀ n < 128, (Char.ofNat n).isAlpha = true →
      isCased (Char.ofNat n) = true ∧ isCaseIgnorable (Char.ofNat n) = false := by decide
  exact ⟨hascii, forall_ascii (P := fun c => c.isAlpha = true →
    isCased c = true ∧ isCaseIgnorable c = false) hall hascii h⟩

namespace Lookalike

variable {c d : Char}

/-- The search for a cased character treats both the same. -/
lemma cased (h : Lookalike c d) :
    isCased c = isCased d ∧ isCaseIgnorable c = isCaseIgnorable d := by
  obtain rfl | ⟨hc, hd, -⟩ | ⟨hc, hd⟩ := h
  · exact ⟨rfl, rfl⟩
  · obtain ⟨-, hcased, hstops⟩ := ascii_of_isAlpha hc
    obtain ⟨-, hcased', hstops'⟩ := ascii_of_isAlpha hd
    exact ⟨hcased.trans hcased'.symm, hstops.trans hstops'.symm⟩
  · have hc := isDecimal_of_isDigit hc
    have hd := isDecimal_of_isDigit hd
    exact ⟨(isCased_of_isDecimal hc).trans (isCased_of_isDecimal hd).symm,
      (isCaseIgnorable_of_isDecimal hc).trans (isCaseIgnorable_of_isDecimal hd).symm⟩

/-- Both have the same lower form, but for digits. -/
lemma map_zeroed_lowerForm (h : Lookalike c d) (cased meets : Bool) :
    (lowerForm cased meets c).map zeroed = (lowerForm cased meets d).map zeroed := by
  obtain rfl | ⟨hc, hd, hlower⟩ | ⟨hc, hd⟩ := h
  · rfl
  · rw [lowerForm_of_ascii (ascii_of_isAlpha hc).1, lowerForm_of_ascii (ascii_of_isAlpha hd).1,
      hlower]
  · rw [lowerForm_of_inert (Or.inl (isDecimal_of_isDigit hc)),
      lowerForm_of_inert (Or.inl (isDecimal_of_isDigit hd)), List.map_singleton,
      List.map_singleton, zeroed_of_isDigit hc, zeroed_of_isDigit hd]

end Lookalike

/-- Texts that look alike meet a cased character alike. -/
lemma meetsCased_eq_of_lookalike {cs ds : List Char} (h : List.Forall₂ Lookalike cs ds) :
    meetsCased cs = meetsCased ds := by
  induction h with
  | nil => rfl
  | cons hhead _ ih =>
    obtain ⟨hcased, hstops⟩ := hhead.cased
    rw [meetsCased_cons, meetsCased_cons, hcased, hstops, ih]

/-- The lower cases of texts that look alike are the same, but for digits. -/
lemma map_zeroed_lowercaseAfter {before before' cs ds : List Char}
    (hbefore : meetsCased before = meetsCased before') (h : List.Forall₂ Lookalike cs ds) :
    (lowercaseAfter before cs).map zeroed = (lowercaseAfter before' ds).map zeroed := by
  induction h generalizing before before' with
  | nil => rfl
  | @cons c d cs ds hhead htail ih =>
    have hnext : meetsCased (c :: before) = meetsCased (d :: before') := by
      obtain ⟨hcased, hstops⟩ := hhead.cased
      rw [meetsCased_cons, meetsCased_cons, hcased, hstops, hbefore]
    rw [lowercaseAfter_cons, lowercaseAfter_cons, List.map_append, List.map_append, ih hnext,
      hbefore, meetsCased_eq_of_lookalike htail, hhead.map_zeroed_lowerForm]

/-! ### Normal forms -/

/-- A reduced text does not depend on which digits there were. -/
lemma reduce_eq_of_map_zeroed {cs ds : List Char} (h : cs.map zeroed = ds.map zeroed) :
    reduce cs = reduce ds := by
  have hmarks : ∀ mark ∈ ["[DATE]", "[UUID]", "[NUM]"],
      mark.toList.map zeroed = mark.toList := by decide
  calc reduce cs = (reduce cs).map zeroed := (map_zeroed_reduce cs).symm
    _ = reduce (cs.map zeroed) := (keepsClasses_zeroed.reduce_map hmarks cs).symm
    _ = reduce (ds.map zeroed) := by rw [h]
    _ = (reduce ds).map zeroed := keepsClasses_zeroed.reduce_map hmarks ds
    _ = reduce ds := map_zeroed_reduce ds

/-- Failures that look alike have one normal form: the cut of the trace leaves texts that look
alike, and so does joining them to the messages. -/
lemma normalizeChars_eq_of_lookalike {message message' trace trace' : List Char}
    (hmessage : List.Forall₂ Lookalike message message')
    (htrace : List.Forall₂ Lookalike trace trace') :
    normalizeChars message trace = normalizeChars message' trace' := by
  have hjoin : List.Forall₂ Lookalike [':', ':'] [':', ':'] :=
    .cons (Or.inl rfl) (.cons (Or.inl rfl) .nil)
  have htext : List.Forall₂ Lookalike (message ++ ':' :: ':' :: trace.take traceLimit)
      (message' ++ ':' :: ':' :: trace'.take traceLimit) :=
    List.rel_append hmessage (List.rel_append hjoin (List.forall₂_take traceLimit htrace))
  rw [normalizeChars_eq, normalizeChars_eq]
  exact reduce_eq_of_map_zeroed (map_zeroed_lowercaseAfter rfl htext)

/-- Failures that look alike have one normal form, and so one signature and one pattern id.  No
store tells them apart when they are looked up, and after calls that have entered the one the other
is found. -/
theorem normalize_eq_of_lookalike {message message' trace trace' : String}
    (hmessage : List.Forall₂ Lookalike message.toList message'.toList)
    (htrace : List.Forall₂ Lookalike trace.toList trace'.toList) :
    normalize message trace = normalize message' trace' ∧
    ofFailure message trace = ofFailure message' trace' ∧
    patternIdOf message trace = patternIdOf message' trace' ∧
    ∀ (s : PatternStore) d (calls : List PatternStore.Call),
      (∃ now testId fix, .record now testId message trace fix ∈ calls) →
        ∀ now d', let s' := (s.runCalls d calls).2.1
          s'.detect now message' trace' d' = s'.detect now message trace d' ∧
            ∃ p, (s'.detect now message' trace' d').1 = some p := by
  have hnormal : normalize message trace = normalize message' trace' :=
    congrArg String.ofList (normalizeChars_eq_of_lookalike hmessage htrace)
  have hsignature : ofFailure message trace = ofFailure message' trace' := by
    unfold ofFailure
    rw [hnormal]
  have hid : patternIdOf message trace = patternIdOf message' trace' :=
    congrArg patternId hsignature
  refine ⟨hnormal, hsignature, hid, ?_⟩
  rintro s d calls ⟨_, _, _, hentered⟩ now d' s'
  have hsame : s'.detect now message' trace' d' = s'.detect now message trace d' := by
    unfold PatternStore.detect PatternBook.detect
    rw [hid]
  have hbook : s'.book = PatternStore.enterAll s.book calls := PatternStore.runCalls_book s d calls
  obtain ⟨p, hp⟩ := PatternStore.exists_patterns_of_mem hentered s.book
  refine ⟨hsame, p.touch now, ?_⟩
  rw [hsame, PatternStore.detect_fst, PatternBook.detect_fst, hbook, hp]
  rfl

/-- A failure with a final sigma, a date that runs into a time, and an identifier, and one that
looks alike in capitals and with other digits: the second is found when the first has been
entered. -/
theorem normalize_eq_of_lookalike_capitals :
    let message := "ΟΔΟΣ 17 closed at 2024-01-0110:30 for 0f8fad5b-d9cb-469f-a165-70867728950e"
    let message' := "ΟΔΟΣ 42 CLOSED AT 1999-12-3123:59 FOR 1F2FAD3B-D4CB-567F-A890-12345678901E"
    let trace := "at orders.rs:88"
    let trace' := "AT Orders.RS:19"
    List.Forall₂ Lookalike message.toList message'.toList ∧
      List.Forall₂ Lookalike trace.toList trace'.toList ∧
      patternIdOf message trace = patternIdOf message' trace' ∧
      ∃ p, ((PatternStore.inMemory.runCalls Disk.empty
          [.record ⟨0, 0⟩ "login" message trace none]).2.1.detect ⟨1, 0⟩ message' trace'
            Disk.empty).1 = some p := by
  intro message message' trace trace'
  have hmessage : List.Forall₂ Lookalike message.toList message'.toList := by decide +kernel
  have htrace : List.Forall₂ Lookalike trace.toList trace'.toList := by decide +kernel
  obtain ⟨-, -, hid, hfound⟩ := normalize_eq_of_lookalike hmessage htrace
  exact ⟨hmessage, htrace, hid, (hfound .inMemory Disk.empty
    [.record ⟨0, 0⟩ "login" message trace none]
    ⟨⟨0, 0⟩, "login", none, List.mem_singleton_self _⟩ ⟨1, 0⟩ Disk.empty).2⟩

end Retrial.Signature
