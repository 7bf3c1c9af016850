import Retrial.Failure.Kind
import Retrial.Proofs.Failure.Joins

/-!
# Kinds of failures with one normal form

The kind of a failure comes from keywords in its message, its pattern from its normal form.  Most
keywords are not touched by reducing: they have letters that no date, identifier or number has, and
nothing of a mark (`Sturdy`, `infix_reduce_iff`).  The others are status numbers, and `bad gateway`,
whose first word may end an identifier (`erasable`).

So failures with one normal form are of one kind if their messages have the same erasable keywords,
and as many `::`, which tells the message from the trace (`classify_eq_of_normalize_eq`).
-/

namespace Retrial.Signature

open Text

/-! ### Words that shapes spare -/

/-- The word holds no digit, no mark and no sigma, and it is no part of an identifier that stands by
itself: where an identifier ends in it there is a letter too many, and where one starts in it a
letter comes too soon. -/
structure Sturdy (word : List Char) : Prop where
  long : 2 ≤ word.length
  plain : ∀ c ∈ word, isDecimal c = false ∧ c ∉ "[DATEUINM]".toList ∧ c ≠ ':' ∧ c ≠ 'z' ∧
    c ≠ 'σ' ∧ c ≠ 'ς'
  ends : ∀ n < word.length, (word[n + 1]?).any isWord = true ∨
    ∃ c ∈ word.take (n + 1), isLowerHex c = false ∧ c ≠ '-'
  starts : ∀ n < word.length, (word.take n).getLast?.any isWord = true ∨
    ∃ c ∈ (word.drop n).take 8, isLowerHex c = false

-- the characters of a word are looked through, not all characters that there are
instance (word : List Char) : Decidable (Sturdy word) :=
  letI (p : Char → Prop) [DecidablePred p] (cs : List Char) : Decidable (∀ c ∈ cs, p c) :=
    List.decidableBAll p cs
  letI (p : Char → Prop) [DecidablePred p] (cs : List Char) : Decidable (∃ c ∈ cs, p c) :=
    List.decidableBEx p cs
  decidable_of_iff
    (2 ≤ word.length ∧
      (∀ c ∈ word, isDecimal c = false ∧ c ∉ "[DATEUINM]".toList ∧ c ≠ ':' ∧ c ≠ 'z' ∧
        c ≠ 'σ' ∧ c ≠ 'ς') ∧
      (∀ n < word.length, (word[n + 1]?).any isWord = true ∨
        ∃ c ∈ word.take (n + 1), isLowerHex c = false ∧ c ≠ '-') ∧
      ∀ n < word.length, (word.take n).getLast?.any isWord = true ∨
        ∃ c ∈ (word.drop n).take 8, isLowerHex c = false)
    ⟨fun h => ⟨h.1, h.2.1, h.2.2.1, h.2.2.2⟩, fun h => ⟨h.long, h.plain, h.ends, h.starts⟩⟩

variable {word : List Char}

/-- A sturdy word ends dates and numbers. -/
lemma Sturdy.barrier (h : Sturdy word) (rest : List Char) : Barrier (word ++ rest) := by
  match word, h with
  | [_], h => exact absurd h.long (Nat.lt_irrefl 1)
  | c :: d :: word, h =>
    constructor
    · rintro e he
      obtain rfl : c = e := Option.some.inj he
      obtain ⟨hc, -, -, hz, -⟩ := h.plain c List.mem_cons_self
      exact ⟨hc, hz⟩
    · rintro e he
      obtain rfl : d = e := Option.some.inj he
      exact (h.plain d (List.mem_cons_of_mem _ List.mem_cons_self)).1

/-- No digit stands in a part of a sturdy word. -/
lemma Sturdy.takeWhile_eq_nil (h : Sturdy word) {us vs : List Char} (hword : us ++ vs = word)
    (hvs : vs ≠ []) (rest : List Char) : (vs ++ rest).takeWhile isDecimal = [] := by
  obtain ⟨v, vs, rfl⟩ := List.exists_cons_of_ne_nil hvs
  have hv : isDecimal v = false :=
    (h.plain v (hword ▸ List.mem_append_right us List.mem_cons_self)).1
  exact List.takeWhile_cons_of_neg (by simp [hv])

/-- Dates spare sturdy words. -/
lemma Sturdy.spares_dateShape (h : Sturdy word) : Spares dateShape word where
  reach before cs rest := by
    rw [(digitBlind_append (h.barrier rest)).dateShape before before cs]
    exact covered_le cs _
  inside before rest us vs hword hvs := by
    have hnone : afterDate? (vs ++ rest) = none := by
      obtain ⟨v, vs, rfl⟩ := List.exists_cons_of_ne_nil hvs
      have hv : isDecimal v = false :=
        (h.plain v (hword ▸ List.mem_append_right us List.mem_cons_self)).1
      simp [afterDate?, after?, hv]
    unfold dateShape
    rw [hnone]
    rfl

/-- Numbers spare sturdy words. -/
lemma Sturdy.spares_numberShape (h : Sturdy word) : Spares numberShape word where
  reach before cs rest := by
    rw [(digitBlind_append (h.barrier rest)).numberShape before before cs]
    exact (List.takeWhile_sublist isDecimal).length_le
  inside _ rest _ _ hword hvs := congrArg List.length (h.takeWhile_eq_nil hword hvs rest)

/-- Characters of a kind that are taken off are the first ones. -/
lemma forall_take_of_after? {p : Char → Bool} {n : Nat} {s rest : List Char}
    (h : after? p n s = some rest) : ∀ c ∈ s.take n, p c = true := by
  induction n generalizing s with
  | zero => simp
  | succ n ih =>
    cases s with
    | nil => simp
    | cons c s =>
      rw [after?] at h
      split_ifs at h with hc
      rw [List.take_succ_cons]
      exact List.forall_mem_cons.mpr ⟨hc, ih h⟩

/-- An identifier does not start in a sturdy word. -/
lemma Sturdy.uuidShape_inside (h : Sturdy word) (before : Option Char) (rest : List Char)
    {us vs : List Char} (hword : us ++ vs = word) (hvs : vs ≠ []) :
    uuidShape (us.getLast?.or before) (vs ++ rest) = 0 := by
  have hlt : us.length < word.length := by
    rw [← hword, List.length_append]
    have := List.length_pos_of_ne_nil hvs
    omega
  unfold uuidShape
  obtain hlast | ⟨c, hc, hhex⟩ := h.starts us.length hlt
  · rw [← hword, List.take_left] at hlast
    have hany : (us.getLast?.or before).any isWord = true := by
      cases hus : us.getLast? with
      | none =>
        rw [hus] at hlast
        cases hlast
      | some u =>
        rw [hus] at hlast
        exact hlast
    exact if_pos hany
  · rw [← hword, List.drop_left] at hc
    have hnone : afterUuid? (vs ++ rest) = none := by
      unfold afterUuid?
      cases hfirst : after? isLowerHex 8 (vs ++ rest) with
      | none => rfl
      | some t =>
        have hmem : c ∈ (vs ++ rest).take 8 := by
          rw [List.take_append]
          exact List.mem_append_left _ hc
        have := forall_take_of_after? hfirst c hmem
        rw [hhex] at this
        cases this
    rw [hnone]
    split_ifs <;> rfl

/-- An identifier does not reach into a sturdy word. -/
lemma Sturdy.uuidShape_reach (h : Sturdy word) (before : Option Char) (cs rest : List Char) :
    uuidShape before (cs ++ (word ++ rest)) ≤ cs.length := by
  by_contra hreach
  obtain ⟨n, hn⟩ : ∃ n, uuidShape before (cs ++ (word ++ rest)) = n + 1 :=
    Nat.exists_eq_succ_of_ne_zero (by omega)
  obtain ⟨us, more, hus, hlength, heq, hend⟩ := exists_of_uuidShape hn
  -- the part of the identifier that would lie in the word and behind it
  obtain ⟨vs, rfl, hvs⟩ : ∃ vs, us = cs ++ vs ∧ word ++ rest = vs ++ more := by
    obtain ⟨vs, hcs, hrest⟩ | ⟨vs, hcs, hrest⟩ := List.append_eq_append_iff.mp heq
    · exact ⟨vs, hcs, hrest⟩
    · have := congrArg List.length hcs
      rw [List.length_append] at this
      omega
  have hvs0 : 0 < vs.length := by
    rw [List.length_append] at hlength
    omega
  have hchars : ∀ c ∈ vs, isLowerHex c = true ∨ c = '-' := fun c hc =>
    hus c (List.mem_append_right cs hc)
  -- it cannot hold a letter too many, so it ends where the word goes on
  have hshort : ∀ m, m < vs.length → m < word.length → (word[m + 1]?).any isWord = true := by
    intro m hm hlt
    obtain hgoes | ⟨c, hc, hhex, hdash⟩ := h.ends m hlt
    · exact hgoes
    · have hmem : c ∈ vs := by
        have htake : (word ++ rest).take (m + 1) = (vs ++ more).take (m + 1) := by rw [hvs]
        rw [List.take_append_of_le_length (by omega),
          List.take_append_of_le_length (by omega)] at htake
        exact List.mem_of_mem_take (htake ▸ hc)
      obtain hyes | hyes := hchars c hmem
      · rw [hhex] at hyes
        cases hyes
      · exact absurd hyes hdash
  have hword : 0 < word.length := by
    have := h.long
    omega
  have hgoes := hshort (min vs.length word.length - 1) (by omega) (by omega)
  obtain hle | hlt := le_or_gt word.length vs.length
  · rw [Nat.min_eq_right hle, Nat.sub_add_cancel hword, List.getElem?_eq_none le_rfl] at hgoes
    cases hgoes
  · have hhead : more.head? = word[vs.length]? := by
      have hget : (word ++ rest)[vs.length]? = (vs ++ more)[vs.length]? := by rw [hvs]
      rw [List.getElem?_append_left hlt, List.getElem?_append_right le_rfl, Nat.sub_self] at hget
      rw [hget, List.head?_eq_getElem?]
    rw [Nat.min_eq_left hlt.le, Nat.sub_add_cancel hvs0, ← hhead, hend] at hgoes
    cases hgoes

/-- Identifiers spare sturdy words. -/
lemma Sturdy.spares_uuidShape (h : Sturdy word) : Spares uuidShape word where
  reach := h.uuidShape_reach
  inside before rest _ _ hword hvs := h.uuidShape_inside before rest hword hvs

/-! ### Words in messages -/

/-- Reducing makes and takes no sturdy word. -/
theorem infix_reduce_iff (h : Sturdy word) (cs : List Char) :
    word <:+: reduce cs ↔ word <:+: cs := by
  have hne : word ≠ [] := by
    rintro rfl
    exact absurd h.long (by decide)
  have hmark : ∀ {mark : List Char}, mark ⊆ "[DATEUINM]".toList → ∀ c ∈ word, c ∉ mark :=
    fun hmark c hc hmem => (h.plain c hc).2.1 (hmark hmem)
  unfold reduce
  rw [infix_replaceAll_iff h.spares_numberShape hne (hmark (by decide)) (by decide),
    infix_replaceAll_iff h.spares_uuidShape hne (hmark (by decide)) (by decide),
    infix_replaceAll_iff h.spares_dateShape hne (hmark (by decide)) (by decide)]

/-- A sturdy word has no sigma, so it does not matter how many there are. -/
lemma Sturdy.infix_map_desigma_iff (h : Sturdy word) (cs : List Char) :
    word <:+: cs.map desigma ↔ word <:+: cs := by
  constructor
  · intro hword
    obtain ⟨us, hus, heq⟩ := List.infix_map_iff.mp hword
    have hsame : us.map desigma = us := by
      refine (List.map_congr_left fun c hc => ?_).trans (List.map_id us)
      have hinner : desigma c ≠ 'σ' := by
        have hmem : desigma c ∈ word := heq ▸ List.mem_map_of_mem hc
        exact (h.plain _ hmem).2.2.2.2.1
      unfold desigma at hinner ⊢
      split_ifs at hinner ⊢
      · exact absurd rfl hinner
      · rfl
    rw [heq, hsame]
    exact hus
  · intro hword
    have hsame : word.map desigma = word := by
      refine (List.map_congr_left fun c hc => ?_).trans (List.map_id word)
      exact if_neg (by simpa using (h.plain c hc).2.2.2.2.2)
    have hmapped := hword.map desigma
    rwa [hsame] at hmapped

/-- A colon behind a text makes no sturdy word. -/
lemma Sturdy.infix_append_colon_iff (h : Sturdy word) (cs : List Char) :
    word <:+: cs ++ [':'] ↔ word <:+: cs := by
  refine ⟨fun hword => ?_, fun hword => hword.trans (List.prefix_append cs [':']).isInfix⟩
  have hcolon : ':' ∉ word := fun hc => (h.plain ':' hc).2.2.1 rfl
  obtain hword | hword | ⟨us, vs, rfl, hus, hvs⟩ := List.infix_append_iff.mp hword
  · exact hword
  · have hle := hword.length_le
    have hlong := h.long
    rw [List.length_singleton] at hle
    omega
  · obtain rfl | ⟨t, rfl, -⟩ := List.prefix_cons_iff.mp hvs
    · rw [List.append_nil]
      exact hus.isInfix
    · exact absurd (List.mem_append_right us List.mem_cons_self) hcolon

/-- A sturdy word is in the lower case of a message exactly if it is in the message's reduced
form. -/
lemma Sturdy.infix_lowercase_iff (h : Sturdy word) (message : List Char) :
    word <:+: lowercase message ↔ word <:+: reduce (message.flatMap plainLower) := by
  rw [infix_reduce_iff h, ← map_desigma_lowercase, h.infix_map_desigma_iff]

/-- Failures with one normal form, whose messages have as many `::`, have the same sturdy words in
their messages. -/
lemma Sturdy.infix_lowercase_congr (h : Sturdy word) {message message' trace trace' : List Char}
    (hnormal : normalizeChars message trace = normalizeChars message' trace')
    (hjoins : joins message = joins message') :
    word <:+: lowercase message ↔ word <:+: lowercase message' := by
  have hreduce : ∀ message trace : List Char, (normalizeChars message trace).map desigma =
      reduce (message.flatMap plainLower) ++ ':' :: ':' ::
        reduce ((trace.take traceLimit).flatMap plainLower) := by
    intro message trace
    have hcolon : plainLower ':' = [':'] := plainLower_of_inert (by decide)
    rw [normalizeChars_eq, ← reduce_map_desigma, map_desigma_lowercase, List.flatMap_append,
      List.flatMap_cons, List.flatMap_cons, hcolon, ← reduce_join]
    rfl
  have hparts := hreduce message trace
  rw [hnormal, hreduce message' trace'] at hparts
  have hequal : joins (reduce (message'.flatMap plainLower)) =
      joins (reduce (message.flatMap plainLower)) := by
    rw [joins_reduce, joins_reduce, joins_flatMap_plainLower, joins_flatMap_plainLower, hjoins]
  rw [h.infix_lowercase_iff, h.infix_lowercase_iff]
  obtain heq | heq | heq := eq_or_of_join_eq hparts hequal
  · rw [heq]
  · rw [heq, h.infix_append_colon_iff]
  · rw [heq, h.infix_append_colon_iff]

end Retrial.Signature

namespace Retrial.FailureKind

open Text Signature

/-! ### Kinds -/

/-- A word is found where it stands. -/
lemma occurs_iff (word cs : List Char) : occurs word cs = true ↔ word <:+: cs := by
  induction cs with
  | nil => rw [occurs, List.isEmpty_iff, List.infix_nil]
  | cons c cs ih =>
    rw [occurs, Bool.or_eq_true, List.isPrefixOf_iff_prefix, ih, List.infix_cons_iff]

/-- The keywords that reducing may take away: status numbers, and one whose first word may end an
identifier. -/
def erasable : List String := ["429", "500", "502", "503", "504", "bad gateway"]

/-- All other keywords are sturdy. -/
lemma sturdy_of_not_erasable : ∀ rule ∈ rules, ∀ word ∈ rule.2, word ∉ erasable →
    Sturdy word.toList := by
  decide +kernel

/-- The messages have as many `::`, and the same erasable keywords. -/
structure Comparable (message message' : String) : Prop where
  joins : joins message.toList = joins message'.toList
  words : ∀ word ∈ erasable,
    occurs word.toList (lowercase message.toList) = occurs word.toList (lowercase message'.toList)

instance (message message' : String) : Decidable (Comparable message message') :=
  decidable_of_iff
    (Signature.joins message.toList = Signature.joins message'.toList ∧ ∀ word ∈ erasable,
      occurs word.toList (lowercase message.toList) =
        occurs word.toList (lowercase message'.toList))
    ⟨fun h => ⟨h.1, h.2⟩, fun h => ⟨h.joins, h.words⟩⟩

/-- Failures with one normal form and comparable messages are of one kind. -/
theorem classify_eq_of_normalize_eq {message message' trace trace' : String}
    (hnormal : normalize message trace = normalize message' trace')
    (hcomparable : Comparable message message') : classify message = classify message' := by
  have hchars : normalizeChars message.toList trace.toList =
      normalizeChars message'.toList trace'.toList := String.ofList_inj.mp hnormal
  have hword : ∀ rule ∈ rules, ∀ word ∈ rule.2,
      occurs word.toList (lowercase message.toList) =
        occurs word.toList (lowercase message'.toList) := by
    intro rule hrule word hword
    by_cases herasable : word ∈ erasable
    · exact hcomparable.words word herasable
    · have hsturdy := sturdy_of_not_erasable rule hrule word hword herasable
      rw [Bool.eq_iff_iff, occurs_iff, occurs_iff]
      exact hsturdy.infix_lowercase_congr hchars hcomparable.joins
  have hrule : ∀ rule ∈ rules, (rule.2.any fun k => occurs k.toList (lowercase message.toList)) =
      rule.2.any fun k => occurs k.toList (lowercase message'.toList) := by
    intro rule hrule
    rw [Bool.eq_iff_iff, List.any_eq_true, List.any_eq_true]
    refine exists_congr fun word => and_congr_right fun hmem => ?_
    rw [hword rule hrule word hmem]
  unfold classify
  simp only
  rw [List.find?_congr hrule]

end Retrial.FailureKind
