import Retrial.Proofs.Failure.Numbers

/-!
# Traces that differ in their numbers

Failures that differ only in the numbers of their traces are meant to have one signature.  But the
trace is cut before its numbers are replaced, after a number of characters and not of placeholders.
So traces with the same frame, and with neither dates nor identifiers in what counts of them, have
the same normal form exactly if the cut leaves equally much of the frame (`normalize_eq_iff`).
Longer numbers can push something out (`ofFailure_ne_of_longNumber`).
-/

namespace Retrial.Signature

open Text

/-! ### Traces without dates and identifiers -/

/-- No digit stands before a dash, so that there are no dates, and there are no identifiers. -/
structure Undated (cs : List Char) : Prop where
  dashes : ∀ p ∈ cs.zip cs.tail, isDecimal p.1 = true → p.2 ≠ '-'
  uuids : ∀ u ∈ (lowercase cs).tails, afterUuid? u = none

instance (cs : List Char) : Decidable (Undated cs) :=
  decidable_of_iff
    ((∀ p ∈ cs.zip cs.tail, isDecimal p.1 = true → p.2 ≠ '-') ∧
      ∀ u ∈ (lowercase cs).tails, afterUuid? u = none)
    ⟨fun h => ⟨h.1, h.2⟩, fun h => ⟨h.dashes, h.uuids⟩⟩

/-- Two characters one after the other are neighbours. -/
lemma mem_zip_tail_of_isInfix {c d : Char} {cs : List Char} (h : [c, d] <:+: cs) :
    (c, d) ∈ cs.zip cs.tail := by
  obtain ⟨us, vs, rfl⟩ := h
  induction us with
  | nil => exact List.mem_cons_self
  | cons u us ih =>
    cases us with
    | nil => exact List.mem_cons_of_mem _ ih
    | cons u' us => exact List.mem_cons_of_mem _ ih

/-- Characters that keep to themselves start a lower-cased text only if they start the text. -/
lemma prefix_of_prefix_lowercaseAfter {word : List Char} (hword : ∀ c ∈ word, Inert c)
    {before cs : List Char} (h : word <+: lowercaseAfter before cs) : word <+: cs := by
  induction word generalizing before cs with
  | nil => exact List.nil_prefix
  | cons w word ih =>
    obtain ⟨hw, hmore⟩ := List.forall_mem_cons.mp hword
    cases cs with
    | nil => exact h
    | cons c cs =>
      obtain ⟨l, ls, hform⟩ : ∃ l ls, lowerForm (meetsCased before) (meetsCased cs) c = l :: ls :=
        List.exists_cons_of_ne_nil lowerForm_ne_nil
      rw [lowercaseAfter_cons, hform, List.cons_append, List.cons_prefix_cons] at h
      obtain ⟨rfl, h⟩ := h
      obtain rfl := (mem_lowerForm_iff hw).mp (hform ▸ List.mem_cons_self)
      rw [lowerForm_of_inert hw] at hform
      obtain rfl : [] = ls := (List.cons.inj hform).2
      exact List.cons_prefix_cons.mpr ⟨rfl, ih hmore h⟩

/-- Characters that keep to themselves stand in a lower-cased text only if they stand in the
text. -/
lemma infix_of_infix_lowercaseAfter {word : List Char} (hne : word ≠ [])
    (hword : ∀ c ∈ word, Inert c) {before cs : List Char}
    (h : word <:+: lowercaseAfter before cs) : word <:+: cs := by
  induction cs generalizing before with
  | nil => exact h
  | cons c cs ih =>
    by_cases hc : Inert c
    · have hstarts : word <+: lowercaseAfter before (c :: cs) → word <+: c :: cs :=
        prefix_of_prefix_lowercaseAfter hword
      rw [lowercaseAfter_cons, lowerForm_of_inert hc, List.singleton_append] at h hstarts
      obtain hstart | hlater := List.infix_cons_iff.mp h
      · exact (hstarts hstart).isInfix
      · exact List.infix_cons (ih hlater)
    · -- nothing of the word lies in the lower form of another character
      refine List.infix_cons (ih (infix_of_infix_append hne (fun w hw hmem => hc ?_) h))
      rw [(mem_lowerForm_iff (hword w hw)).mp hmem]
      exact hword w hw

/-- The shape of dates wants a digit before a dash. -/
lemma dateShape_eq_zero {before : Option Char} {u : List Char}
    (h : ∀ c, [c, '-'] <:+: u → isDecimal c = false) : dateShape before u = 0 := by
  have hnone : afterDate? u = none := by
    unfold afterDate?
    cases hyear : after? isDecimal 4 u with
    | none => rfl
    | some rest =>
      have hdash : afterMarkTwo? '-' rest = none := by
        match u with
        | [] => cases hyear
        | [_] => simp [after?] at hyear
        | [_, _] => simp [after?] at hyear
        | [_, _, _] => simp [after?] at hyear
        | a :: b :: c :: d :: more =>
          simp only [after?] at hyear
          split_ifs at hyear with ha hb hc hd
          obtain rfl := Option.some.inj hyear
          unfold afterMarkTwo?
          cases more with
          | nil => rfl
          | cons e more =>
            rw [afterChar?, if_neg, Option.bind_none]
            rw [beq_iff_eq]
            rintro rfl
            have hnot := h d ⟨[a, b, c], more, rfl⟩
            rw [hd] at hnot
            cases hnot
      rw [Option.bind_some, hdash]
      rfl
  unfold dateShape
  rw [hnone]
  rfl

/-- What comes last of a text, mapped, comes last of the mapped text. -/
lemma exists_suffix_of_map_eq {f : Char → Char} {cs ds u : List Char} (h : cs.map f = ds.map f)
    (hu : u <:+ cs) : ∃ w, w <:+ ds ∧ w.map f = u.map f := by
  refine ⟨ds.drop (cs.length - u.length), List.drop_suffix _ _, ?_⟩
  rw [List.map_drop, ← h, ← List.map_drop, ← List.suffix_iff_eq_drop.mp hu]

/-- Without dates and identifiers, reducing a lower-cased text is replacing its numbers. -/
lemma Undated.reduce_lowercaseAfter {cs : List Char} (h : Undated cs) (before : List Char) :
    reduce (lowercaseAfter before cs) =
      render (lowerFrame (meetsCased before) (unnumbered cs)) := by
  have hdate : replaceAll dateShape "[DATE]".toList (lowercaseAfter before cs) =
      lowercaseAfter before cs := by
    refine replaceFrom_eq_self fun us vs hcs _ => dateShape_eq_zero fun c hc => ?_
    have hlower : [c, '-'] <:+: lowercaseAfter before cs :=
      hcs ▸ hc.trans (List.suffix_append us vs).isInfix
    rw [← Bool.not_eq_true]
    intro hdigit
    have hinert : ∀ d ∈ [c, '-'], Inert d := by
      intro d hd
      rw [List.mem_cons, List.mem_singleton] at hd
      obtain rfl | rfl := hd
      · exact Or.inl hdigit
      · decide
    have hpair := infix_of_infix_lowercaseAfter (List.cons_ne_nil _ _) hinert hlower
    exact h.dashes _ (mem_zip_tail_of_isInfix hpair) hdigit rfl
  have huuid : replaceAll uuidShape "[UUID]".toList (lowercaseAfter before cs) =
      lowercaseAfter before cs := by
    refine replaceFrom_eq_self fun us vs hcs _ => ?_
    have hsame : (lowercaseAfter before cs).map desigma = (lowercase cs).map desigma := by
      rw [map_desigma_lowercase, lowercaseAfter_eq, map_desigma_lowercaseBetween]
    obtain ⟨w, hw, hmap⟩ := exists_suffix_of_map_eq hsame (hcs ▸ List.suffix_append us vs)
    have hnone : afterUuid? vs = none := by
      have hvs := keepsClasses_desigma.uuidBlind.afterUuid? vs
      rw [← hmap, keepsClasses_desigma.uuidBlind.afterUuid?,
        h.uuids w ((List.mem_tails _ _).mpr hw)] at hvs
      exact Option.map_eq_none_iff.mp hvs.symm
    unfold uuidShape
    rw [hnone]
    split_ifs <;> rfl
  unfold reduce
  rw [hdate, huuid, replaceAll_number, unnumbered_lowercaseAfter]

/-! ### Normal forms -/

/-- What stands before a trace in its failure's text, backwards. -/
def lead (message : List Char) : List Char := ':' :: ':' :: message.reverse

/-- The normal form of a failure is that of its message between nothing and its trace, and that of
its trace behind the message. -/
lemma normalizeChars_split (message trace : List Char) :
    normalizeChars message trace =
      reduce (lowercaseBetween [] (':' :: ':' :: trace.take traceLimit) message) ++ ':' :: ':' ::
        reduce (lowercaseAfter (lead message) (trace.take traceLimit)) := by
  have hcolon : ∀ before rest, lowercaseAfter before (':' :: rest) =
      ':' :: lowercaseAfter (':' :: before) rest := by
    intro before rest
    rw [lowercaseAfter_cons, lowerForm_of_inert (by decide)]
    rfl
  rw [normalizeChars_eq, lowercase, lowercaseAfter_append, List.append_nil, hcolon, hcolon,
    reduce_join]
  rfl

/-- With one sigma, the normal form of the message does not depend on the trace. -/
lemma map_desigma_reduce (message rest : List Char) :
    (reduce (lowercaseBetween [] rest message)).map desigma =
      reduce (message.flatMap plainLower) := by
  rw [← reduce_map_desigma, map_desigma_lowercaseBetween]

/-- Failures with one message, and with traces of one frame without dates and identifiers, have the
same normal form exactly if the cut leaves equally much of the frame. -/
lemma normalizeChars_eq_iff {message first second : List Char}
    (hframe : unnumbered first = unnumbered second) (hfirst : Undated (first.take traceLimit))
    (hsecond : Undated (second.take traceLimit)) :
    normalizeChars message first = normalizeChars message second ↔
      (unnumbered (first.take traceLimit)).length =
        (unnumbered (second.take traceLimit)).length := by
  have hprefix : unnumbered (first.take traceLimit) <+: unnumbered first :=
    unnumberedFrom_take_prefix false traceLimit first
  have hprefix' : unnumbered (second.take traceLimit) <+: unnumbered first :=
    hframe ▸ unnumberedFrom_take_prefix false traceLimit second
  rw [normalizeChars_split, normalizeChars_split, hfirst.reduce_lowercaseAfter,
    hsecond.reduce_lowercaseAfter]
  constructor
  · intro h
    -- both messages come to as many characters, so both traces do
    have hmessage : ∀ rest, (reduce (lowercaseBetween [] rest message)).length =
        (reduce (message.flatMap plainLower)).length := by
      intro rest
      rw [← map_desigma_reduce message rest, List.length_map]
    have hlength := congrArg List.length h
    simp only [List.length_append, List.length_cons, hmessage, length_render_lowerFrame] at hlength
    have hsum : ((unnumbered (first.take traceLimit)).map slotLength).sum =
        ((unnumbered (second.take traceLimit)).map slotLength).sum := by omega
    obtain hle | hle := Nat.le_total (unnumbered (first.take traceLimit)).length
      (unnumbered (second.take traceLimit)).length
    · rw [eq_of_prefix_of_sum_eq (List.prefix_of_prefix_length_le hprefix hprefix' hle) hsum]
    · rw [eq_of_prefix_of_sum_eq (List.prefix_of_prefix_length_le hprefix' hprefix hle) hsum.symm]
  · intro h
    have hcut : unnumbered (first.take traceLimit) = unnumbered (second.take traceLimit) :=
      (List.prefix_of_prefix_length_le hprefix hprefix' h.le).eq_of_length h
    have hmeets : meetsCased (first.take traceLimit) = meetsCased (second.take traceLimit) := by
      rw [meetsCased_eq, meetsCased_eq, hcut]
    have hjoined : meetsCased (':' :: ':' :: first.take traceLimit) =
        meetsCased (':' :: ':' :: second.take traceLimit) :=
      meetsCased_append_congr [':', ':'] hmeets
    rw [hcut, lowercaseBetween_congr [] message hjoined]

/-- Failures with one message, and with traces of one frame without dates and identifiers, have the
same normal form exactly if the cut leaves equally much of the frame; then they have one signature,
and belong to one pattern. -/
theorem normalize_eq_iff {message first second : String}
    (hframe : unnumbered first.toList = unnumbered second.toList)
    (hfirst : Undated (first.toList.take traceLimit))
    (hsecond : Undated (second.toList.take traceLimit)) :
    (normalize message first = normalize message second ↔
      (unnumbered (first.toList.take traceLimit)).length =
        (unnumbered (second.toList.take traceLimit)).length) ∧
    ((unnumbered (first.toList.take traceLimit)).length =
        (unnumbered (second.toList.take traceLimit)).length →
      ofFailure message first = ofFailure message second ∧
        patternIdOf message first = patternIdOf message second) := by
  have hnormal : normalize message first = normalize message second ↔
      (unnumbered (first.toList.take traceLimit)).length =
        (unnumbered (second.toList.take traceLimit)).length := by
    unfold normalize
    rw [String.ofList_inj]
    exact normalizeChars_eq_iff hframe hfirst hsecond
  refine ⟨hnormal, fun h => ?_⟩
  have hsignature : ofFailure message first = ofFailure message second := by
    unfold ofFailure
    rw [hnormal.mpr h]
  exact ⟨hsignature, congrArg patternId hsignature⟩

/-- The signature stays when a line number of a trace changes. -/
theorem normalize_eq_iff_lineNumber :
    ofFailure "order 17 not found" "at handler.rs:88" =
      ofFailure "order 17 not found" "at handler.rs:112" :=
  ((normalize_eq_iff (by decide +kernel) (by decide +kernel) (by decide +kernel)).2
    (by decide +kernel)).1

/-- A number as long as the cut, and a letter. -/
def longNumber : List Char := List.replicate traceLimit '1' ++ ['a']

/-- A trace of a short number and a letter, and one of a number as long as the cut and the letter,
have one frame, and no dates and identifiers; but they do not have one signature. -/
theorem ofFailure_ne_of_longNumber :
    unnumbered "1a".toList = unnumbered longNumber ∧ Undated "1a".toList ∧ Undated longNumber ∧
      ofFailure "boom" "1a" ≠ ofFailure "boom" (String.ofList longNumber) := by
  refine ⟨by decide +kernel, by decide +kernel, by decide +kernel, ?_⟩
  have hshort : normalizeChars "boom".toList "1a".toList = "boom::[NUM]a".toList := by
    decide +kernel
  have hlong : normalizeChars "boom".toList longNumber = "boom::[NUM]".toList := by
    decide +kernel
  have hdigest : Digest.sha256 "boom::[NUM]a".toUTF8.toList ≠
      Digest.sha256 "boom::[NUM]".toUTF8.toList := by
    decide +kernel
  unfold ofFailure normalize
  have htrace : (String.ofList longNumber).toList = longNumber := String.toList_ofList
  rw [htrace, hshort, hlong, String.ofList_toList, String.ofList_toList]
  exact fun h => hdigest (String.ofList_inj.mp h)

end Retrial.Signature
