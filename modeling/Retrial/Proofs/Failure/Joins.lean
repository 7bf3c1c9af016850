import Retrial.Proofs.Failure.Shape

/-!
# The joins of a text

The text of a failure joins its message and its trace by a `::`.  A reader can tell the two apart
again if it knows how many `::` the message has (`joins`), since neither lower-casing nor reducing
makes or takes one (`joins_flatMap_plainLower`, `joins_reduce`): what a shape covers has single
colons at most, and none at its ends.
-/

namespace Retrial.Signature

open Text

/-- The number of places where two colons stand one after the other. -/
def joins : List Char → Nat
  | [] => 0
  | c :: cs => (if c = ':' ∧ cs.head? = some ':' then 1 else 0) + joins cs

/-- What lies between two joins has no part in either. -/
lemma joins_add_le (us vs : List Char) : joins us + joins vs ≤ joins (us ++ vs) := by
  induction us with
  | nil => exact (Nat.zero_add _).le
  | cons u us ih =>
    rw [List.cons_append, joins, joins]
    have hkept : (if u = ':' ∧ us.head? = some ':' then 1 else 0) ≤
        if u = ':' ∧ (us ++ vs).head? = some ':' then 1 else 0 := by
      cases us with
      | nil => simp
      | cons => exact le_rfl
    omega

/-- Two ways to part a text at a join agree, up to a colon, if there are as many joins before. -/
lemma eq_or_of_join_eq {us us' vs vs' : List Char}
    (h : us ++ ':' :: ':' :: vs = us' ++ ':' :: ':' :: vs') (hjoins : joins us = joins us') :
    us = us' ∨ us' = us ++ [':'] ∨ us = us' ++ [':'] := by
  have hpart : ∀ {us us' more vs vs' : List Char}, us' = us ++ more →
      ':' :: ':' :: vs = more ++ ':' :: ':' :: vs' → joins us = joins us' →
        us = us' ∨ us' = us ++ [':'] := by
    intro us us' more vs vs' hus' hmore hjoins
    subst hus'
    match more with
    | [] => exact Or.inl (List.append_nil us).symm
    | [c] => exact Or.inr (by rw [(List.cons.inj hmore).1])
    | c :: d :: more =>
      obtain rfl : c = ':' := (List.cons.inj hmore).1.symm
      obtain rfl : d = ':' := (List.cons.inj (List.cons.inj hmore).2).1.symm
      have hle := joins_add_le us (':' :: ':' :: more)
      rw [joins, if_pos ⟨rfl, rfl⟩] at hle
      omega
  obtain ⟨more, hus, hvs⟩ | ⟨more, hus, hvs⟩ := List.append_eq_append_iff.mp h
  · obtain heq | heq := hpart hus hvs hjoins
    · exact Or.inl heq
    · exact Or.inr (Or.inl heq)
  · obtain heq | heq := hpart hus hvs hjoins.symm
    · exact Or.inl heq.symm
    · exact Or.inr (Or.inr heq)

/-! ### Texts without joins -/

/-- The text makes no join, neither in itself nor with what follows it. -/
def Silent (us : List Char) : Prop := ∀ rest, joins (us ++ rest) = joins rest

lemma silent_nil : Silent [] := fun _ => rfl

lemma Silent.append {us vs : List Char} (hus : Silent us) (hvs : Silent vs) :
    Silent (us ++ vs) := by
  intro rest
  rw [List.append_assoc, hus, hvs]

/-- A text without colons makes no join. -/
lemma silent_of_forall_ne {us : List Char} (h : ∀ c ∈ us, c ≠ ':') : Silent us := by
  intro rest
  induction us with
  | nil => rfl
  | cons u us ih =>
    obtain ⟨hu, hus⟩ := List.forall_mem_cons.mp h
    rw [List.cons_append, joins, if_neg fun hboth => hu hboth.1, Nat.zero_add]
    exact ih hus

/-- A colon before another character makes no join. -/
lemma silent_colon {d : Char} {us : List Char} (hd : d ≠ ':') (h : Silent (d :: us)) (c : Char) :
    Silent (c :: d :: us) := by
  intro rest
  rw [List.cons_append, joins, if_neg fun hboth => hd (Option.some.inj hboth.2), Nat.zero_add]
  exact h rest

/-- Decimal digits are no colons. -/
lemma ne_colon_of_decimal {c : Char} (h : isDecimal c = true) : c ≠ ':' := by
  rintro rfl
  exact absurd h (by decide)

/-! ### What readers take off -/

/-- What the reader takes off a text satisfies the property. -/
def Eats (Q : List Char → Prop) (P : List Char → Option (List Char)) : Prop :=
  ∀ s rest, P s = some rest → ∃ us, Q us ∧ s = us ++ rest

section Eats

variable {Q : List Char → Prop} {P P' : List Char → Option (List Char)}

/-- One reader after another. -/
lemma Eats.bind (hQ : ∀ {us vs}, Q us → Q vs → Q (us ++ vs)) (hP : Eats Q P) (hP' : Eats Q P') :
    Eats Q fun s => (P s).bind P' := by
  intro s rest h
  obtain ⟨t, ht, hrest⟩ := Option.bind_eq_some_iff.mp h
  obtain ⟨us, hus, rfl⟩ := hP s t ht
  obtain ⟨vs, hvs, rfl⟩ := hP' t rest hrest
  exact ⟨us ++ vs, hQ hus hvs, (List.append_assoc _ _ _).symm⟩

/-- A reader before something that always takes a part off. -/
lemma Eats.map (hQ : ∀ {us vs}, Q us → Q vs → Q (us ++ vs)) (hP : Eats Q P)
    {p : List Char → List Char} (hp : ∀ s, ∃ us, Q us ∧ s = us ++ p s) :
    Eats Q fun s => (P s).map p := by
  intro s rest h
  obtain ⟨t, ht, rfl⟩ := Option.map_eq_some_iff.mp h
  obtain ⟨us, hus, rfl⟩ := hP s t ht
  obtain ⟨vs, hvs, ht⟩ := hp t
  refine ⟨us ++ vs, hQ hus hvs, ?_⟩
  rw [List.append_assoc, ← ht]

/-- An optional part. -/
lemma Eats.optional (hnil : Q []) (hP : Eats Q P) (s : List Char) :
    ∃ us, Q us ∧ s = us ++ afterOptional P s := by
  unfold afterOptional
  cases h : P s with
  | none => exact ⟨[], hnil, rfl⟩
  | some rest => exact hP s rest h

/-- Characters of a kind. -/
lemma eats_after? {p : Char → Bool} (hQ : ∀ us, (∀ c ∈ us, p c = true) → Q us) (n : Nat) :
    Eats Q (after? p n) := by
  intro s rest h
  suffices hall : ∃ us, (∀ c ∈ us, p c = true) ∧ s = us ++ rest by
    obtain ⟨us, hus, hs⟩ := hall
    exact ⟨us, hQ us hus, hs⟩
  induction n generalizing s with
  | zero =>
    obtain rfl := Option.some.inj h
    exact ⟨[], fun _ h => absurd h List.not_mem_nil, rfl⟩
  | succ n ih =>
    cases s with
    | nil => cases h
    | cons c s =>
      rw [after?] at h
      split_ifs at h with hc
      obtain ⟨us, hus, rfl⟩ := ih s h
      exact ⟨c :: us, List.forall_mem_cons.mpr ⟨hc, hus⟩, rfl⟩

/-- A separator. -/
lemma eats_afterChar? {c : Char} (hQ : Q [c]) : Eats Q (afterChar? c) := by
  intro s rest h
  cases s with
  | nil => cases h
  | cons d s =>
    rw [afterChar?] at h
    split_ifs at h with hd
    obtain rfl := Option.some.inj h
    obtain rfl := beq_iff_eq.mp hd
    exact ⟨[d], hQ, rfl⟩

end Eats

/-- Digits make no join. -/
lemma silent_digits (us : List Char) (h : ∀ c ∈ us, isDecimal c = true) : Silent us :=
  silent_of_forall_ne fun c hc => ne_colon_of_decimal (h c hc)

/-- A separator with digits makes no join. -/
lemma eats_afterMark (c : Char) (n : Nat) :
    Eats Silent fun s => (afterChar? c s).bind (after? isDecimal (n + 1)) := by
  intro s rest h
  obtain ⟨t, ht, hrest⟩ := Option.bind_eq_some_iff.mp h
  obtain ⟨us, rfl, rfl⟩ := eats_afterChar? (Q := fun us => us = [c]) rfl s t ht
  cases t with
  | nil => cases hrest
  | cons d t =>
    rw [after?] at hrest
    split_ifs at hrest with hd
    obtain ⟨vs, hvs, rfl⟩ :=
      eats_after? (Q := fun us => ∀ c ∈ us, isDecimal c = true) (fun _ h => h) n t rest hrest
    have hdigits : Silent (d :: vs) := silent_digits _ (List.forall_mem_cons.mpr ⟨hd, hvs⟩)
    exact ⟨c :: d :: vs, silent_colon (ne_colon_of_decimal hd) hdigits c, rfl⟩

/-- A date makes no join. -/
lemma eats_afterDate? : Eats Silent afterDate? := by
  have happ : ∀ {us vs : List Char}, Silent us → Silent vs → Silent (us ++ vs) := Silent.append
  have hdigits : ∀ n, Eats Silent (after? isDecimal n) := eats_after? silent_digits
  have hrun : ∀ s : List Char, ∃ us, Silent us ∧ s = us ++ s.dropWhile isDecimal := fun s =>
    ⟨s.takeWhile isDecimal, silent_digits _ fun c hc => List.mem_takeWhile_imp hc,
      List.takeWhile_append_dropWhile.symm⟩
  have hfraction : Eats Silent afterFraction? := (eats_afterMark '.' 0).map happ hrun
  have hseconds : Eats Silent afterSeconds? :=
    (eats_afterMark ':' 1).map happ (hfraction.optional silent_nil)
  -- the minutes of an offset, with or without a colon
  have hminutes : Eats Silent fun s => after? isDecimal 2 (afterOptional (afterChar? ':') s) := by
    intro s rest h
    simp only [afterOptional] at h
    cases hcolon : afterChar? ':' s with
    | none =>
      rw [hcolon] at h
      exact hdigits 2 s rest h
    | some t =>
      rw [hcolon] at h
      exact eats_afterMark ':' 1 s rest (Option.bind_eq_some_iff.mpr ⟨t, hcolon, h⟩)
  have hoffset : Eats Silent afterOffset? := by
    intro s rest h
    cases s with
    | nil => cases h
    | cons c s =>
      rw [afterOffset?] at h
      split_ifs at h with hsign
      obtain ⟨us, hus, rfl⟩ := (hdigits 2).bind happ hminutes s rest h
      have hc : c ≠ ':' := by
        rintro rfl
        exact absurd hsign (by decide)
      have hone : Silent [c] := silent_of_forall_ne fun d hd => List.mem_singleton.mp hd ▸ hc
      exact ⟨[c] ++ us, hone.append hus, rfl⟩
  have hzone : Eats Silent afterZone? := by
    intro s rest h
    unfold afterZone? at h
    split at h
    · rename_i t ht
      obtain rfl := Option.some.inj h
      exact eats_afterChar? (silent_of_forall_ne (by simp)) s t ht
    · exact hoffset s rest h
  have htime : Eats Silent afterTime? := by
    refine ((eats_afterMark 't' 1).bind happ (eats_afterMark ':' 1)).map happ fun s => ?_
    obtain ⟨us, hus, hs⟩ := hseconds.optional silent_nil s
    obtain ⟨vs, hvs, hs'⟩ := hzone.optional silent_nil (afterOptional afterSeconds? s)
    refine ⟨us ++ vs, hus.append hvs, ?_⟩
    rw [List.append_assoc, ← hs', ← hs]
  exact (((hdigits 4).bind happ (eats_afterMark '-' 1)).bind happ (eats_afterMark '-' 1)).map happ
    (htime.optional silent_nil)

/-- Characters of identifiers. -/
def IdChars (us : List Char) : Prop := ∀ c ∈ us, isLowerHex c = true ∨ c = '-'

/-- An identifier is made of hexadecimal digits and dashes. -/
lemma eats_afterUuid? : Eats IdChars afterUuid? := by
  have happ : ∀ {us vs : List Char}, IdChars us → IdChars vs → IdChars (us ++ vs) := by
    intro us vs hus hvs c hc
    exact (List.mem_append.mp hc).elim (hus c) (hvs c)
  have hhex : ∀ n, Eats IdChars (after? isLowerHex n) :=
    eats_after? fun us hus c hc => Or.inl (hus c hc)
  have hdash : Eats IdChars (afterChar? '-') :=
    eats_afterChar? fun c hc => Or.inr (List.mem_singleton.mp hc)
  have hgroup : ∀ n, Eats IdChars (afterGroup? n) := fun n => hdash.bind happ (hhex n)
  exact ((((hhex 8).bind happ (hgroup 4)).bind happ (hgroup 4)).bind happ (hgroup 4)).bind happ
    (hgroup 12)

/-! ### Joins of reduced and lower-cased texts -/

/-- What is still covered by the last match goes. -/
lemma replaceFrom_covered {shape : Shape} {mark : List Char} (us rest : List Char)
    (before : Option Char) :
    replaceFrom shape mark us.length before (us ++ rest) =
      replaceFrom shape mark 0 (us.getLast?.or before) rest := by
  induction us generalizing before with
  | nil => rfl
  | cons u us ih =>
    rw [List.cons_append, List.length_cons, getLast?_cons_or, replaceFrom, ih]

/-- What the shape covers, and the mark, make no join and start with no colon. -/
structure Joinless (shape : Shape) (mark : List Char) : Prop where
  covers : ∀ before cs n, shape before cs = n + 1 →
    ∃ us rest, Silent us ∧ us.length = n + 1 ∧ cs = us ++ rest
  colon : ∀ before cs, shape before (':' :: cs) = 0
  silentMark : Silent mark
  headMark : ∃ m ms, mark = m :: ms ∧ m ≠ ':'

/-- Replacing makes and takes no join, and no colon at the start. -/
lemma Joinless.joins_replaceFrom {shape : Shape} {mark : List Char} (h : Joinless shape mark)
    (before : Option Char) (cs : List Char) :
    joins (replaceFrom shape mark 0 before cs) = joins cs ∧
      ((replaceFrom shape mark 0 before cs).head? = some ':' ↔ cs.head? = some ':') := by
  induction hn : cs.length using Nat.strong_induction_on generalizing before cs with
  | _ n ih =>
    subst hn
    cases cs with
    | nil => exact ⟨rfl, Iff.rfl⟩
    | cons c cs =>
      cases hcover : shape before (c :: cs) with
      | zero =>
        obtain ⟨hjoins, hhead⟩ := ih cs.length (Nat.lt_succ_self _) (some c) cs rfl
        rw [replaceFrom_of_eq_zero hcover, joins, joins, hjoins]
        simp only [hhead, List.head?_cons, and_self]
      | succ n =>
        obtain ⟨us, rest, hus, hlength, hcs⟩ := h.covers before (c :: cs) n hcover
        obtain ⟨m, ms, hmark, hm⟩ := h.headMark
        cases us with
        | nil => cases hlength
        | cons u us =>
          obtain ⟨rfl, htail⟩ : c = u ∧ cs = us ++ rest := List.cons.inj hcs
          subst htail
          obtain rfl : us.length = n := Nat.succ.inj hlength
          have hrest := ih rest.length (by simp only [List.length_cons, List.length_append]; omega)
            (us.getLast?.or (some c)) rest rfl
          rw [replaceFrom_of_eq_succ hcover, replaceFrom_covered, h.silentMark, hrest.1]
          refine ⟨(hus rest).symm, ?_⟩
          have hc : c ≠ ':' := by
            rintro rfl
            rw [h.colon] at hcover
            cases hcover
          rw [hmark]
          simp [hm, hc]

/-- A shape that is as long as what a reader takes off covers what the reader takes off. -/
lemma exists_covered {Q : List Char → Prop} {P : List Char → Option (List Char)} (hP : Eats Q P)
    {s : List Char} {n : Nat} (h : covered s (P s) = n + 1) :
    ∃ us rest, Q us ∧ us.length = n + 1 ∧ s = us ++ rest := by
  cases hs : P s with
  | none =>
    rw [hs] at h
    cases h
  | some rest =>
    obtain ⟨us, hus, heq⟩ := hP s rest hs
    rw [hs, covered, heq, List.length_append, Nat.add_sub_cancel] at h
    exact ⟨us, rest, hus, h, heq⟩

lemma joinless_dateShape : Joinless dateShape "[DATE]".toList where
  covers _ _ _ h := exists_covered eats_afterDate? h
  colon := stopsAtJoin_dateShape.colon
  silentMark := silent_of_forall_ne (by simp)
  headMark := ⟨'[', "DATE]".toList, by decide, by decide⟩

/-- An identifier is made of hexadecimal digits and dashes, and no word goes on behind it. -/
lemma exists_of_uuidShape {before : Option Char} {s : List Char} {n : Nat}
    (h : uuidShape before s = n + 1) :
    ∃ us rest, IdChars us ∧ us.length = n + 1 ∧ s = us ++ rest ∧
      rest.head?.any isWord = false := by
  unfold uuidShape at h
  split_ifs at h
  split at h
  · cases h
  · rename_i rest hrest
    split_ifs at h with hend
    obtain ⟨us, hus, heq⟩ := eats_afterUuid? s rest hrest
    rw [covered, heq, List.length_append, Nat.add_sub_cancel] at h
    exact ⟨us, rest, hus, h, heq, by simpa using hend⟩

lemma joinless_uuidShape : Joinless uuidShape "[UUID]".toList where
  covers before cs n h := by
    obtain ⟨us, rest, hus, hlength, hcs, -⟩ := exists_of_uuidShape h
    refine ⟨us, rest, silent_of_forall_ne fun c hc => ?_, hlength, hcs⟩
    rintro rfl
    exact absurd (hus ':' hc) (by decide)
  colon := stopsAtJoin_uuidShape.colon
  silentMark := silent_of_forall_ne (by simp)
  headMark := ⟨'[', "UUID]".toList, by decide, by decide⟩

lemma joinless_numberShape : Joinless numberShape "[NUM]".toList where
  covers _ cs _ h := ⟨cs.takeWhile isDecimal, cs.dropWhile isDecimal,
    silent_digits _ fun _ hc => List.mem_takeWhile_imp hc, h,
    List.takeWhile_append_dropWhile.symm⟩
  colon := stopsAtJoin_numberShape.colon
  silentMark := silent_of_forall_ne (by simp)
  headMark := ⟨'[', "NUM]".toList, by decide, by decide⟩

/-- Reducing makes and takes no join. -/
theorem joins_reduce (cs : List Char) : joins (reduce cs) = joins cs := by
  unfold reduce replaceAll
  rw [(joinless_numberShape.joins_replaceFrom none _).1,
    (joinless_uuidShape.joins_replaceFrom none _).1,
    (joinless_dateShape.joins_replaceFrom none _).1]

/-- Lower-casing makes and takes no join. -/
theorem joins_flatMap_plainLower (cs : List Char) : joins (cs.flatMap plainLower) = joins cs := by
  have hcolon : plainLower ':' = [':'] := plainLower_of_inert (by decide)
  have hhead : ∀ cs : List Char,
      (cs.flatMap plainLower).head? = some ':' ↔ cs.head? = some ':' := by
    intro cs
    cases cs with
    | nil => exact Iff.rfl
    | cons c cs =>
      by_cases hc : c = ':'
      · subst hc
        rw [List.flatMap_cons, hcolon]
        simp
      · obtain ⟨l, ls, hl⟩ : ∃ l ls, plainLower c = l :: ls :=
          List.exists_cons_of_length_pos (length_plainLower_pos c)
        have hne : l ≠ ':' := by
          rintro rfl
          have hmem : ':' ∈ plainLower c := hl ▸ List.mem_cons_self
          exact hc ((mem_plainLower_iff (by decide)).mp hmem)
        rw [List.flatMap_cons, hl]
        simp [hc, hne]
  induction cs with
  | nil => rfl
  | cons c cs ih =>
    rw [List.flatMap_cons]
    by_cases hc : c = ':'
    · subst hc
      rw [hcolon, List.singleton_append, joins, joins, ih]
      simp only [hhead]
    · have hsilent : Silent (plainLower c) := silent_of_forall_ne fun d hd heq => by
        subst heq
        exact hc ((mem_plainLower_iff (by decide)).mp hd)
      rw [hsilent, ih, joins, if_neg fun hboth => hc hboth.1, Nat.zero_add]

end Retrial.Signature
