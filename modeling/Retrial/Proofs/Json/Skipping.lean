import Retrial.Proofs.Decimal.Shortest
import Retrial.Proofs.Json.Brackets

/-!
# Passing over values

A value that nobody asks for is passed over: from every spelling of any value, the walk takes just
the spelling off (`skips`).  It keeps the open brackets on a stack instead of calling itself, and
each of its steps takes a part of a unit of fuel per character off; so what it does with a value is
said together with the fuel that it needs for it (`Walks`).

A record may therefore have any fields beside its own.  But if it has none of its own, it is no
record of the kind, unless each of these has a stand-in (`decode_foreign`).
-/

namespace Retrial.Json

open Text (Glyph)

/-! ### Texts -/

/-- A character is passed over as it is written. -/
lemma skipString_escapeChar (c : Char) (fuel : Nat) (s : List Glyph) :
    skipString (fuel + 1) (chars (escapeChar c) ++ s) = skipString fuel s := by
  unfold escapeChar
  split_ifs with hquote hslash hline hreturn htab hback hfeed hcontrol
  · rfl
  · rfl
  · rfl
  · rfl
  · rfl
  · rfl
  · rfl
  · rw [List.cons_append, List.cons_append, List.nil_append, chars_cons, chars_cons,
      List.cons_append, List.cons_append, skipString]
    simp only [hexFour_controlCode hcontrol]
    rfl
  · rw [chars_cons, chars_nil, List.cons_append, List.nil_append, skipString]
    simp only [hquote, hslash, hcontrol]
    rfl

/-- A text in quotes is passed over up to its closing quote. -/
lemma skipString_escaped (cs : List Char) {fuel : Nat}
    (hfuel : (cs.flatMap escapeChar).length < fuel) (s : List Glyph) :
    skipString fuel (chars (cs.flatMap escapeChar) ++ .char '"' :: s) = .ok ((), s) := by
  induction cs generalizing fuel with
  | nil =>
    cases fuel with
    | zero => cases hfuel
    | succ fuel => rfl
  | cons c cs ih =>
    cases fuel with
    | zero => cases hfuel
    | succ fuel =>
      have hpos : 0 < (escapeChar c).length := by
        unfold escapeChar
        split_ifs <;> simp
      rw [List.flatMap_cons, List.length_append] at hfuel
      rw [List.flatMap_cons, chars_append, List.append_assoc, skipString_escapeChar]
      exact ih (by omega)

/-- A text in quotes is passed over after its opening quote. -/
lemma skipString_quoted (t : String) (s : List Glyph) :
    skipString ((chars (t.toList.flatMap escapeChar) ++ .char '"' :: s).length + 1)
      (chars (t.toList.flatMap escapeChar) ++ .char '"' :: s) = .ok ((), s) :=
  skipString_escaped _ (by simp) s

/-! ### Numbers -/

/-- Digits are all taken off. -/
lemma countDigits_digits {ds : List Char} (hds : Digits ds) {s : List Glyph} (hs : NoDigit s)
    (n : Nat) : countDigits (chars ds ++ s) n = (n + ds.length, s) := by
  induction ds generalizing n with
  | nil =>
    cases s with
    | nil => rfl
    | cons g s =>
      have hnone : digit? [g] = none := (digit?_head g s).trans hs
      simp [countDigits, hnone]
  | cons c ds ih =>
    obtain ⟨hc, hds⟩ := List.forall_mem_cons.mp hds
    rw [chars_cons, List.cons_append, countDigits, digit?_cons hc, Option.isSome_some, if_pos rfl,
      ih hds, List.length_cons]
    congr 1
    omega

/-- The characters are a signed exponent, or none. -/
def ExponentPart (cs : List Char) : Prop :=
  cs = [] ∨ ∃ sign c ds, (sign = '+' ∨ sign = '-') ∧ Digits (c :: ds) ∧ cs = 'e' :: sign :: c :: ds

/-- An exponent does not start with a digit. -/
lemma ExponentPart.noDigit {cs : List Char} (h : ExponentPart cs) {rest : List Glyph}
    (hrest : Stops rest) : NoDigit (chars cs ++ rest) := by
  obtain rfl | ⟨sign, c, ds, -, -, rfl⟩ := h
  · exact hrest.noDigit
  · exact noDigit_cons (by decide) _

/-- A signed exponent is passed over after its letter. -/
lemma skipExponent_digits {sign : Char} (hsign : sign = '+' ∨ sign = '-') {c : Char}
    {ds : List Char} (hds : Digits (c :: ds)) {rest : List Glyph} (hrest : NoDigit rest) :
    skipExponent (.char sign :: (chars (c :: ds) ++ rest)) = .ok ((), rest) := by
  have hcount := countDigits_digits hds hrest 0
  have hsome := digit?_cons (List.forall_mem_cons.mp hds).1 (chars ds ++ rest)
  rw [chars_cons, List.cons_append] at hcount ⊢
  obtain rfl | rfl := hsign
  all_goals
    unfold skipExponent
    simp only [hsome, hcount]
    rfl

/-- A whole number may be followed by an exponent. -/
lemma skipNumberEnd_exponent {cs : List Char} (h : ExponentPart cs) {rest : List Glyph}
    (hrest : Stops rest) : skipNumberEnd (chars cs ++ rest) = .ok ((), rest) := by
  obtain rfl | ⟨sign, c, ds, hsign, hds, rfl⟩ := h
  · have hpoint := hrest.noPoint
    have hsmall := hrest.noSmallE
    have hlarge := hrest.noLargeE
    rw [chars_nil, List.nil_append]
    unfold skipNumberEnd
    split <;> simp_all
  · exact skipExponent_digits hsign hds hrest.noDigit

/-- A whole number may be followed by a fraction, and then by an exponent. -/
lemma skipNumberEnd_fraction {c : Char} {ds cs : List Char} (hds : Digits (c :: ds))
    (h : ExponentPart cs) {rest : List Glyph} (hrest : Stops rest) :
    skipNumberEnd (.char '.' :: (chars (c :: ds) ++ (chars cs ++ rest))) = .ok ((), rest) := by
  have hcount := countDigits_digits hds (h.noDigit hrest) 0
  have hsome := digit?_cons (List.forall_mem_cons.mp hds).1 (chars ds ++ (chars cs ++ rest))
  rw [chars_cons, List.cons_append] at hcount ⊢
  unfold skipNumberEnd
  simp only [hsome, hcount]
  rw [if_neg (by simp)]
  obtain rfl | ⟨sign, d, es, hsign, hes, rfl⟩ := h
  · have hsmall := hrest.noSmallE
    have hlarge := hrest.noLargeE
    rw [chars_nil, List.nil_append]
    split <;> simp_all
  · exact skipExponent_digits hsign hes hrest.noDigit

/-- The whole part of a number is passed over, if it has no zero before other digits. -/
lemma skipNumber_digits {c : Char} {ds : List Char} (hds : Digits (c :: ds))
    (hzero : c = '0' → ds = []) {s : List Glyph} (hs : NoDigit s) :
    skipNumber (chars (c :: ds) ++ s) = skipNumberEnd s := by
  have hcount := countDigits_digits hds hs 0
  have hsome := digit?_cons (List.forall_mem_cons.mp hds).1 (chars ds ++ s)
  rw [chars_cons, List.cons_append] at hcount ⊢
  unfold skipNumber
  split
  · rename_i rest heq
    obtain ⟨hc, hrest⟩ := List.cons.inj heq
    obtain rfl := hzero (Glyph.char.inj hc)
    rw [chars_nil, List.nil_append] at hrest
    rw [← hrest, if_neg (by simp [show digit? s = none from hs])]
  · rw [if_neg (by simp [hsome]), hcount]

/-- The characters are passed over as a number without sign. -/
structure Numeral (cs : List Char) : Prop where
  starts : ∃ c more, cs = c :: more ∧ c.isDigit = true
  passes : ∀ rest, Stops rest → skipNumber (chars cs ++ rest) = .ok ((), rest)

/-- A whole number and an exponent, if any. -/
lemma numeral_exponent {c : Char} {ds cs : List Char} (hds : Digits (c :: ds))
    (hzero : c = '0' → ds = []) (h : ExponentPart cs) : Numeral (c :: ds ++ cs) := by
  refine ⟨⟨c, ds ++ cs, rfl, (List.forall_mem_cons.mp hds).1⟩, fun rest hrest => ?_⟩
  rw [chars_append, List.append_assoc, skipNumber_digits hds hzero (h.noDigit hrest)]
  exact skipNumberEnd_exponent h hrest

/-- A whole number, a fraction, and an exponent, if any. -/
lemma numeral_fraction {c d : Char} {ds es cs : List Char} (hds : Digits (c :: ds))
    (hzero : c = '0' → ds = []) (hes : Digits (d :: es)) (h : ExponentPart cs) :
    Numeral (c :: ds ++ '.' :: (d :: es ++ cs)) := by
  refine ⟨⟨c, _, rfl, (List.forall_mem_cons.mp hds).1⟩, fun rest hrest => ?_⟩
  have hparts : chars (c :: ds ++ '.' :: (d :: es ++ cs)) ++ rest =
      chars (c :: ds) ++ .char '.' :: (chars (d :: es) ++ (chars cs ++ rest)) := by simp
  rw [hparts, skipNumber_digits hds hzero (noDigit_cons (by decide) _)]
  exact skipNumberEnd_fraction hes h hrest

/-- The digits of a number start with a zero only if it is zero. -/
lemma eq_nil_of_toDigits {n : Nat} {c : Char} {ds : List Char} (h : Nat.toDigits 10 n = c :: ds)
    (hc : c = '0') : ds = [] := by
  by_cases hn : n = 0
  · subst hn
    rw [Nat.toDigits_zero] at h
    exact (List.cons.inj h).2.symm
  · exact absurd hc (head_toDigits hn h)

/-- A natural number. -/
lemma numeral_toDigits (n : Nat) : Numeral (Nat.toDigits 10 n) := by
  have hdigits := digits_toDigits n
  cases hcons : Nat.toDigits 10 n with
  | nil => exact absurd hcons Nat.toDigits_ne_nil
  | cons c ds =>
    rw [hcons] at hdigits
    have hnumeral := numeral_exponent hdigits (eq_nil_of_toDigits hcons) (.inl rfl)
    rwa [List.append_nil] at hnumeral

/-- The exponent of a decimal's text. -/
lemma exponentPart_text (up : Prop) [Decidable up] (n : Nat) :
    ExponentPart ('e' :: (if up then '+' else '-') :: Nat.toDigits 10 n) := by
  have hsign : (if up then '+' else '-') = '+' ∨ (if up then '+' else '-') = '-' := by
    split_ifs
    · exact .inl rfl
    · exact .inr rfl
  have hdigits := digits_toDigits n
  cases hcons : Nat.toDigits 10 n with
  | nil => exact absurd hcons Nat.toDigits_ne_nil
  | cons c ds => exact .inr ⟨_, c, ds, hsign, hcons ▸ hdigits, rfl⟩

/-- The text of a decimal. -/
lemma numeral_text {s : Decimal.Scientific} (hs : s.digits = 0 → s.exponent = 0) :
    Numeral s.text.toList := by
  have hdigits := digits_toDigits s.digits
  rw [Decimal.Scientific.toList_text]
  cases hcons : Nat.toDigits 10 s.digits with
  | nil => exact absurd hcons Nat.toDigits_ne_nil
  | cons c ds =>
    rw [hcons] at hdigits
    obtain ⟨hc, hds⟩ : c.isDigit = true ∧ Digits ds := List.forall_mem_cons.mp hdigits
    have hzero : c = '0' → ds = [] ∧ s.exponent = 0 := fun heq =>
      ⟨eq_nil_of_toDigits hcons heq, hs (by_contra fun hne => head_toDigits hne hcons heq)⟩
    have hone : Digits ['0'] := digits_replicate 1
    simp only
    by_cases hwhole : 0 ≤ s.exponent ∧ ((c :: ds).length + s.exponent : Int) ≤ 16
    · rw [if_pos hwhole]
      have hplaces := hdigits.append (digits_replicate s.exponent.toNat)
      have hnumeral := numeral_fraction hplaces (fun heq => by simp [hzero heq]) hone (.inl rfl)
      simpa using hnumeral
    rw [if_neg hwhole]
    by_cases hpoint : 0 < ((c :: ds).length + s.exponent : Int) ∧
        ((c :: ds).length + s.exponent : Int) ≤ 16
    · rw [if_pos hpoint]
      -- the point stands behind the first digit, and before the last one
      obtain ⟨k, hk⟩ : ∃ k, ((c :: ds).length + s.exponent : Int).toNat = k + 1 :=
        Nat.exists_eq_succ_of_ne_zero (by omega)
      have hlt : k < ds.length := by
        rw [List.length_cons] at hwhole hpoint hk
        omega
      obtain ⟨d, es, hrest⟩ : ∃ d es, ds.drop k = d :: es :=
        List.exists_cons_of_ne_nil fun hnil => absurd (List.drop_eq_nil_iff.mp hnil) (by omega)
      have hes : Digits (d :: es) := hrest ▸ fun c hc => hds c (List.mem_of_mem_drop hc)
      have htake : Digits (c :: ds.take k) :=
        List.forall_mem_cons.mpr ⟨hc, fun c hc => hds c (List.mem_of_mem_take hc)⟩
      have hnumeral := numeral_fraction htake (fun heq => by simp [hzero heq]) hes (.inl rfl)
      rw [hk, List.take_succ_cons, List.drop_succ_cons, hrest]
      simpa using hnumeral
    rw [if_neg hpoint]
    by_cases hsmall : -5 < ((c :: ds).length + s.exponent : Int) ∧
        ((c :: ds).length + s.exponent : Int) ≤ 0
    · rw [if_pos hsmall]
      have hplaces := (digits_replicate (-((c :: ds).length + s.exponent : Int)).toNat).append
        hdigits
      obtain ⟨d, es, hrest⟩ := List.exists_cons_of_ne_nil (List.append_ne_nil_of_right_ne_nil
        (List.replicate (-((c :: ds).length + s.exponent : Int)).toNat '0') (List.cons_ne_nil c ds))
      rw [hrest] at hplaces ⊢
      have hnumeral := numeral_fraction hone (fun _ => rfl) hplaces (.inl rfl)
      simpa using hnumeral
    · rw [if_neg hsmall]
      have hexponent := exponentPart_text (0 ≤ ((c :: ds).length + s.exponent : Int) - 1)
        (((c :: ds).length + s.exponent : Int) - 1).natAbs
      have hfirst : Digits [c] := List.forall_mem_singleton.mpr hc
      cases ds with
      | nil => exact numeral_exponent hfirst (fun _ => rfl) hexponent
      | cons d es =>
        have hnumeral := numeral_fraction hfirst (fun _ => rfl) hds hexponent
        simpa using hnumeral

/-! ### Values that hold no others -/

/-- A number is passed over from its first digit on. -/
lemma skipScalar_of_digit {s : List Glyph} {c : Char} {more : List Glyph} (hc : c.isDigit = true)
    (hs : skipSpace s = .char c :: more) :
    skipScalar s = (skipNumber (.char c :: more)).map fun p => (none, p.2) := by
  have hsome := digit?_cons hc more
  have hne : ∀ d : Char, d.isDigit = false → Glyph.char c ≠ .char d := by
    rintro d hd heq
    rw [Glyph.char.inj heq, hd] at hc
    cases hc
  unfold skipScalar
  rw [hs]
  split
  · rename_i heq
    cases heq
  · rename_i heq
    exact absurd (List.cons.inj heq).1 (hne 'n' (by decide))
  · rename_i heq
    exact absurd (List.cons.inj heq).1 (hne 't' (by decide))
  · rename_i heq
    exact absurd (List.cons.inj heq).1 (hne 'f' (by decide))
  · rename_i heq
    exact absurd (List.cons.inj heq).1 (hne '-' (by decide))
  · rename_i heq
    exact absurd (List.cons.inj heq).1 (hne '"' (by decide))
  · rename_i heq
    exact absurd (List.cons.inj heq).1 (hne '[' (by decide))
  · rename_i heq
    exact absurd (List.cons.inj heq).1 (hne '{' (by decide))
  · rw [hsome, Option.isSome_some, if_pos rfl]

/-- A number is passed over, with its sign. -/
lemma skipScalar_numeral {cs : List Char} (h : Numeral cs) (negative : Bool) {rest s : List Glyph}
    (hrest : Stops rest)
    (hs : skipSpace s = chars (if negative then '-' :: cs else cs) ++ rest) :
    skipScalar s = .ok (none, rest) := by
  have hpasses := h.passes rest hrest
  cases negative with
  | true =>
    unfold skipScalar
    rw [hs]
    simp only [if_true, chars_cons, List.cons_append, hpasses]
    rfl
  | false =>
    obtain ⟨c, more, rfl, hc⟩ := h.starts
    rw [if_neg Bool.false_ne_true] at hs
    rw [chars_cons, List.cons_append] at hs hpasses
    rw [skipScalar_of_digit hc hs, hpasses]
    rfl

/-- The text of a double is `null`, or a number. -/
lemma realText_cases (x : Float) :
    realText x = "null".toList ∨
      ∃ (negative : Bool) (cs : List Char), Numeral cs ∧
        realText x = if negative then '-' :: cs else cs := by
  unfold realText Decimal.shortestText?
  split
  · rename_i v _
    refine .inr ⟨v.negative, (if v.mantissa == 0 then "0.0"
      else (Decimal.shortest v.mantissa v.exponent).text).toList, ?_, ?_⟩
    · split_ifs
      · exact numeral_fraction (digits_replicate 1) (fun _ => rfl) (digits_replicate 1) (.inl rfl)
      · exact numeral_text (Decimal.exponent_shortest _ _)
    · simp only [Option.getD_some]
      cases v.negative
      · rfl
      · rw [if_pos rfl, if_pos rfl, String.toList_append]
        rfl
  · exact .inl rfl

/-- The text of an integer is a number. -/
lemma toString_cases (n : Int) :
    ∃ (negative : Bool) (cs : List Char), Numeral cs ∧
      (toString n).toList = if negative then '-' :: cs else cs := by
  obtain ⟨negative, m, htext⟩ := exists_toList_toString n
  exact ⟨negative, _, numeral_toDigits m, htext⟩

/-- The value holds no others. -/
def Value.IsScalar : Value → Prop
  | .list _ => False
  | .record _ => False
  | _ => True

/-- A value that holds no others is passed over. -/
lemma skipScalar_spelled {v : Value} (hv : v.IsScalar) {cs : List Char} (hcs : Spells v cs)
    {rest s : List Glyph} (hrest : Stops rest) (hs : skipSpace s = chars cs ++ rest) :
    skipScalar s = .ok (none, rest) := by
  have hword (c : Char) (w : List Char) (h : cs = c :: w) :
      skipSpace s = .char c :: (chars w ++ rest) := by
    rw [hs, h]
    rfl
  cases v with
  | null =>
    unfold Spells at hcs
    unfold skipScalar
    rw [hword 'n' ['u', 'l', 'l'] hcs]
    simp only [word_chars]
    rfl
  | bool b =>
    unfold Spells at hcs
    unfold skipScalar
    cases b
    · rw [hword 'f' ['a', 'l', 's', 'e'] hcs]
      simp only [word_chars]
      rfl
    · rw [hword 't' ['r', 'u', 'e'] hcs]
      simp only [word_chars]
      rfl
  | int n =>
    unfold Spells at hcs
    obtain ⟨negative, ds, hnumeral, htext⟩ := toString_cases n
    exact skipScalar_numeral hnumeral negative hrest (by rw [hs, hcs, htext])
  | real x =>
    unfold Spells at hcs
    obtain hnull | ⟨negative, ds, hnumeral, htext⟩ := realText_cases x
    · unfold skipScalar
      rw [hword 'n' ['u', 'l', 'l'] (hcs.trans hnull)]
      simp only [word_chars]
      rfl
    · exact skipScalar_numeral hnumeral negative hrest (by rw [hs, hcs, htext])
  | text t =>
    unfold Spells at hcs
    rw [hcs, chars_quoted] at hs
    unfold skipScalar
    rw [hs]
    simp only [skipString_quoted]
    rfl
  | list items => exact hv.elim
  | record fields => exact hv.elim

/-! ### Values that hold others -/

/-- What is left to do once a value has ended inside some brackets. -/
def walkOn (fuel : Nat) (stack : List Bracket) : Reader Unit := fun s =>
  if stack.isEmpty then .ok ((), s) else skipWalk fuel .after stack s

/-- The walk comes from a place inside some brackets to one after a value inside others, with at
most so much fuel. -/
def Walks (most : Nat) (state : SkipState) (stack stack' : List Bracket) (s rest : List Glyph) :
    Prop :=
  ∃ used ≤ most, ∀ fuel, skipWalk (fuel + used) state stack s = walkOn fuel stack' rest

/-- Where the walk stands before the first item in brackets, or before a later one. -/
def before (first : Bool) : SkipState := if first then .opened else .after

/-- One more step, and then the rest of the way. -/
lemma Walks.step {most : Nat} {state state' : SkipState} {stack stack' stack'' : List Bracket}
    {s s' rest : List Glyph}
    (hstep : ∀ fuel, skipWalk (fuel + 1) state stack s = skipWalk fuel state' stack' s')
    (h : Walks most state' stack' stack'' s' rest) :
    Walks (most + 1) state stack stack'' s rest := by
  obtain ⟨used, hused, hwalk⟩ := h
  refine ⟨used + 1, by omega, fun fuel => ?_⟩
  rw [← Nat.add_assoc, hstep, hwalk]

/-- A value inside brackets, and then the rest of the way. -/
lemma Walks.trans {most most' : Nat} {state : SkipState} {stack stack' : List Bracket} {b : Bracket}
    {s s' rest : List Glyph} (h : Walks most state stack (b :: stack') s s')
    (h' : Walks most' .after (b :: stack') stack' s' rest) :
    Walks (most + most') state stack stack' s rest := by
  obtain ⟨used, hused, hwalk⟩ := h
  obtain ⟨used', hused', hwalk'⟩ := h'
  refine ⟨used' + used, by omega, fun fuel => ?_⟩
  rw [← Nat.add_assoc, hwalk, ← hwalk']
  rfl

lemma Walks.mono {most most' : Nat} {state : SkipState} {stack stack' : List Bracket}
    {s rest : List Glyph} (h : Walks most state stack stack' s rest) (hle : most ≤ most') :
    Walks most' state stack stack' s rest := by
  obtain ⟨used, hused, hwalk⟩ := h
  exact ⟨used, hused.trans hle, hwalk⟩

/-- The opening bracket of a list is taken off. -/
lemma skipWalk_bracket {s rest : List Glyph} (hs : skipSpace s = .char '[' :: rest)
    (stack : List Bracket) (fuel : Nat) :
    skipWalk (fuel + 1) .value stack s = skipWalk fuel .opened (.list :: stack) rest := by
  have hscalar : skipScalar s = .ok (some .list, rest) := by
    unfold skipScalar
    rw [hs]
    rfl
  conv_lhs => unfold skipWalk
  simp only [hscalar]

/-- The opening bracket of a record is taken off. -/
lemma skipWalk_brace {s rest : List Glyph} (hs : skipSpace s = .char '{' :: rest)
    (stack : List Bracket) (fuel : Nat) :
    skipWalk (fuel + 1) .value stack s = skipWalk fuel .opened (.record :: stack) rest := by
  have hscalar : skipScalar s = .ok (some .record, rest) := by
    unfold skipScalar
    rw [hs]
    rfl
  conv_lhs => unfold skipWalk
  simp only [hscalar]

/-- A value that holds no others is passed over. -/
lemma walks_scalar {v : Value} (hv : v.IsScalar) {cs : List Char} (hcs : Spells v cs)
    {rest s : List Glyph} (hrest : Stops rest) (hs : skipSpace s = chars cs ++ rest)
    (stack : List Bracket) : Walks (2 * cs.length) .value stack stack s rest := by
  have hpos : 0 < cs.length := by
    obtain ⟨c, more, rfl, -⟩ := hcs.exists_eq
    exact Nat.succ_pos _
  have hscalar := skipScalar_spelled hv hcs hrest hs
  refine ⟨1, by omega, fun fuel => ?_⟩
  conv_lhs => unfold skipWalk
  simp only [hscalar]
  rfl

/-- After an opening bracket the value ends at once, or its first item is to come. -/
lemma skipWalk_opened {s rest : List Glyph} {g : Glyph} (hs : skipSpace s = g :: rest)
    (b : Bracket) (stack : List Bracket) (fuel : Nat) :
    skipWalk (fuel + 1) .opened (b :: stack) s =
      if g = b.close then walkOn fuel stack rest
      else
        match b with
        | .list => skipWalk fuel .value (.list :: stack) (g :: rest)
        | .record =>
          match skipName (g :: rest) with
          | .error e => .error e
          | .ok (_, rest) => skipWalk fuel .value (.record :: stack) rest := by
  conv_lhs => unfold skipWalk
  simp only [hs]
  cases b <;> rfl

/-- After an item comes a comma and a further one, or the value ends. -/
lemma skipWalk_after {s rest : List Glyph} {g : Glyph} (hs : skipSpace s = g :: rest)
    (b : Bracket) (stack : List Bracket) (fuel : Nat) :
    skipWalk (fuel + 1) .after (b :: stack) s =
      if g = .char ',' then
        match b with
        | .list => skipWalk fuel .value (.list :: stack) rest
        | .record =>
          match skipName rest with
          | .error e => .error e
          | .ok (_, rest) => skipWalk fuel .value (.record :: stack) rest
      else if g = b.close then walkOn fuel stack rest
      else .error .malformed := by
  conv_lhs => unfold skipWalk
  simp only [hs]
  cases b <;> rfl

/-- The closing bracket ends a value. -/
lemma walks_close (first : Bool) (b : Bracket) (stack : List Bracket) {bs : List Char}
    (hbs : Blank bs) (s : List Glyph) :
    Walks 1 (before first) (b :: stack) stack (chars bs ++ b.close :: s) s := by
  have hspace : skipSpace (chars bs ++ b.close :: s) = b.close :: s := by
    rw [skipSpace_blank hbs]
    cases b <;> exact skipSpace_cons (by decide) s
  have hcomma : b.close ≠ .char ',' := by cases b <;> decide
  refine ⟨1, le_rfl, fun fuel => ?_⟩
  cases first with
  | true => exact (skipWalk_opened hspace b stack fuel).trans (if_pos rfl)
  | false =>
    exact ((skipWalk_after hspace b stack fuel).trans (if_neg hcomma)).trans (if_pos rfl)

/-- What leads to an item of a list is passed over. -/
lemma skipWalk_lead {first : Bool} {lead : List Char} (hlead : Lead first lead) {c : Char}
    (hc : Opening c) (stack : List Bracket) (s : List Glyph) :
    ∃ s', skipSpace s' = .char c :: s ∧ ∀ fuel,
      skipWalk (fuel + 1) (before first) (.list :: stack) (chars lead ++ .char c :: s) =
        skipWalk fuel .value (.list :: stack) s' := by
  obtain ⟨hspace, hend⟩ := hc
  have hskip := skipSpace_cons hspace s
  have hne : Glyph.char c ≠ Bracket.list.close := fun heq => hend (Glyph.char.inj heq)
  cases first with
  | true =>
    have hblank : Blank lead := hlead
    have hfirst := (skipSpace_blank hblank (.char c :: s)).trans hskip
    exact ⟨.char c :: s, hskip, fun fuel =>
      (skipWalk_opened hfirst .list stack fuel).trans (if_neg hne)⟩
  | false =>
    obtain ⟨bs, bs', hbs, hbs', rfl⟩ : ∃ bs bs', Blank bs ∧ Blank bs' ∧ lead = bs ++ ',' :: bs' :=
      hlead
    have hcomma : skipSpace (chars (bs ++ ',' :: bs') ++ .char c :: s) =
        .char ',' :: (chars bs' ++ .char c :: s) := by
      rw [chars_append, List.append_assoc, skipSpace_blank hbs]
      exact skipSpace_cons (by decide) _
    exact ⟨chars bs' ++ .char c :: s, (skipSpace_blank hbs' _).trans hskip, fun fuel =>
      (skipWalk_after hcomma .list stack fuel).trans (if_pos rfl)⟩

/-- A field's name is passed over, with the colon after it. -/
lemma skipName_quoted (k : String) {bs : List Char} (hbs : Blank bs) (s : List Glyph) :
    skipName (.char '"' :: (chars (k.toList.flatMap escapeChar) ++ .char '"' ::
      (chars bs ++ .char ':' :: s))) = .ok ((), s) := by
  have hcolon : skipSpace (chars bs ++ .char ':' :: s) = .char ':' :: s := by
    rw [skipSpace_blank hbs]
    exact skipSpace_cons (by decide) s
  unfold skipName
  rw [skipSpace_cons (by decide)]
  simp only [skipString_quoted, hcolon]

/-- What leads to a field is passed over, with its name. -/
lemma skipWalk_field {first : Bool} {lead : List Char} (hlead : Lead first lead)
    (stack : List Bracket) (k : String) {bs : List Char} (hbs : Blank bs) (s : List Glyph)
    (fuel : Nat) :
    skipWalk (fuel + 1) (before first) (.record :: stack)
        (chars lead ++ .char '"' :: (chars (k.toList.flatMap escapeChar) ++ .char '"' ::
          (chars bs ++ .char ':' :: s))) =
      skipWalk fuel .value (.record :: stack) s := by
  have hname := skipName_quoted k hbs s
  generalize chars (k.toList.flatMap escapeChar) ++ .char '"' :: (chars bs ++ .char ':' :: s) = t
    at hname ⊢
  have hskip := skipSpace_cons (g := .char '"') (by decide) t
  cases first with
  | true =>
    have hblank : Blank lead := hlead
    have hfirst := (skipSpace_blank hblank (.char '"' :: t)).trans hskip
    have hne : Glyph.char '"' ≠ Bracket.record.close := by decide
    refine ((skipWalk_opened hfirst .record stack fuel).trans (if_neg hne)).trans ?_
    simp only [hname]
  | false =>
    obtain ⟨bs, bs', hbs, hbs', rfl⟩ : ∃ bs bs', Blank bs ∧ Blank bs' ∧ lead = bs ++ ',' :: bs' :=
      hlead
    have hcomma : skipSpace (chars (bs ++ ',' :: bs') ++ .char '"' :: t) =
        .char ',' :: (chars bs' ++ .char '"' :: t) := by
      rw [chars_append, List.append_assoc, skipSpace_blank hbs]
      exact skipSpace_cons (by decide) _
    have hblanks : skipName (chars bs' ++ .char '"' :: t) = skipName (.char '"' :: t) := by
      unfold skipName
      rw [skipSpace_blank hbs']
    refine ((skipWalk_after hcomma .record stack fuel).trans (if_pos rfl)).trans ?_
    simp only [hblanks, hname]

/-- A comma leads to each item but the first. -/
lemma Lead.length_pos {first : Bool} {lead : List Char} (h : Lead first lead) :
    1 ≤ 2 * lead.length + first.toNat := by
  cases first with
  | true => exact Nat.le_add_left 1 _
  | false =>
    obtain ⟨bs, bs', -, -, rfl⟩ : ∃ bs bs', Blank bs ∧ Blank bs' ∧ lead = bs ++ ',' :: bs' := h
    rw [List.length_append, List.length_cons]
    omega

mutual

/-- A value is passed over, inside any brackets. -/
theorem walks_value : ∀ (v : Value) {cs : List Char}, Spells v cs → ∀ {rest s : List Glyph},
    Stops rest → skipSpace s = chars cs ++ rest → ∀ stack,
      Walks (2 * cs.length) .value stack stack s rest
  | .list items, cs, hcs, rest, s, hrest, hs, stack => by
    unfold Spells at hcs
    obtain ⟨more, hmore, rfl⟩ := hcs
    have hopen : ∀ fuel, skipWalk (fuel + 1) .value stack s =
        skipWalk fuel .opened (.list :: stack) (chars more ++ rest) := by
      intro fuel
      exact skipWalk_bracket (by rw [hs]; rfl) stack fuel
    refine (Walks.step hopen (walks_items items true hmore stack rest)).mono ?_
    rw [List.length_cons, Bool.toNat_true]
    omega
  | .record fields, cs, hcs, rest, s, hrest, hs, stack => by
    unfold Spells at hcs
    obtain ⟨more, hmore, rfl⟩ := hcs
    have hopen : ∀ fuel, skipWalk (fuel + 1) .value stack s =
        skipWalk fuel .opened (.record :: stack) (chars more ++ rest) := by
      intro fuel
      exact skipWalk_brace (by rw [hs]; rfl) stack fuel
    refine (Walks.step hopen (walks_fields fields true hmore stack rest)).mono ?_
    rw [List.length_cons, Bool.toNat_true]
    omega
  | .null, _, hcs, _, _, hrest, hs, stack =>
    walks_scalar (v := .null) trivial hcs hrest hs stack
  | .bool a, _, hcs, _, _, hrest, hs, stack =>
    walks_scalar (v := .bool a) trivial hcs hrest hs stack
  | .int a, _, hcs, _, _, hrest, hs, stack =>
    walks_scalar (v := .int a) trivial hcs hrest hs stack
  | .real a, _, hcs, _, _, hrest, hs, stack =>
    walks_scalar (v := .real a) trivial hcs hrest hs stack
  | .text a, _, hcs, _, _, hrest, hs, stack =>
    walks_scalar (v := .text a) trivial hcs hrest hs stack

/-- The items of a list are passed over, and its closing bracket. -/
theorem walks_items : ∀ (vs : List Value) (first : Bool) {cs : List Char},
    SpellsItems first vs cs → ∀ (stack : List Bracket) (rest : List Glyph),
      Walks (2 * cs.length + first.toNat) (before first) (.list :: stack) stack
        (chars cs ++ rest) rest
  | [], first, cs, hcs, stack, rest => by
    unfold SpellsItems at hcs
    obtain ⟨bs, hbs, rfl⟩ := hcs
    rw [chars_append, List.append_assoc]
    refine Walks.mono (walks_close first .list stack hbs rest) ?_
    rw [List.length_append, List.length_singleton]
    omega
  | v :: vs, first, cs, hcs, stack, rest => by
    unfold SpellsItems at hcs
    obtain ⟨lead, item, more, hlead, hitem, hmore, rfl⟩ := hcs
    have hlength : 1 ≤ 2 * lead.length + first.toNat := hlead.length_pos
    obtain ⟨c, text, rfl, hc⟩ := hitem.exists_eq
    have hparts : chars (lead ++ c :: text ++ more) ++ rest =
        chars lead ++ .char c :: (chars text ++ (chars more ++ rest)) := by simp
    obtain ⟨s', hs', hstep⟩ := skipWalk_lead hlead hc stack (chars text ++ (chars more ++ rest))
    have hrest : Stops (chars more ++ rest) := hmore.stops rest
    have hall := (Walks.step hstep (walks_value v hitem hrest hs' (.list :: stack))).trans
      (walks_items vs false hmore stack rest)
    rw [hparts]
    refine hall.mono ?_
    simp only [List.length_append, List.length_cons, Bool.toNat_false]
    omega

/-- The fields of a record are passed over, and its closing bracket. -/
theorem walks_fields : ∀ (fs : List (String × Value)) (first : Bool) {cs : List Char},
    SpellsFields first fs cs → ∀ (stack : List Bracket) (rest : List Glyph),
      Walks (2 * cs.length + first.toNat) (before first) (.record :: stack) stack
        (chars cs ++ rest) rest
  | [], first, cs, hcs, stack, rest => by
    unfold SpellsFields at hcs
    obtain ⟨bs, hbs, rfl⟩ := hcs
    rw [chars_append, List.append_assoc]
    refine Walks.mono (walks_close first .record stack hbs rest) ?_
    rw [List.length_append, List.length_singleton]
    omega
  | (k, v) :: fs, first, cs, hcs, stack, rest => by
    unfold SpellsFields at hcs
    obtain ⟨lead, bs, bs', item, more, hlead, hbs, hbs', hitem, hmore, rfl⟩ := hcs
    obtain ⟨c, text, rfl, hc⟩ := hitem.exists_eq
    have hs' : skipSpace (chars bs' ++ (chars (c :: text) ++ (chars more ++ rest))) =
        chars (c :: text) ++ (chars more ++ rest) := by
      rw [skipSpace_blank hbs']
      exact skipSpace_cons hc.1 _
    have hrest : Stops (chars more ++ rest) := hmore.stops rest
    have hall := (Walks.step (skipWalk_field hlead stack k hbs _)
      (walks_value v hitem hrest hs' (.record :: stack))).trans
        (walks_fields fs false hmore stack rest)
    rw [chars_field]
    refine hall.mono ?_
    simp only [List.length_append, List.length_cons, Bool.toNat_false]
    omega

end

/-- Skipping blanks leaves no more. -/
lemma length_skipSpace_le (s : List Glyph) : (skipSpace s).length ≤ s.length := by
  induction s with
  | nil => exact le_rfl
  | cons g s ih =>
    unfold skipSpace
    split_ifs
    · exact ih.trans (Nat.le_succ _)
    · exact le_rfl

/-- Every value is passed over. -/
theorem skips (v : Value) : Reads skipValue v () := by
  intro cs rest s hcs hrest hs
  obtain ⟨used, hused, hwalk⟩ := walks_value v hcs hrest hs []
  have hlength := length_skipSpace_le s
  rw [hs, List.length_append, length_chars] at hlength
  have hfuel : 2 * s.length + 2 = 2 * s.length + 2 - used + used := by omega
  unfold skipValue
  rw [hfuel, hwalk]
  rfl

/-! ### Fields of other records -/

variable {α : Type} {ts : List Type} {fs : Fields ts}

/-- A field of none of the record's names leaves the draft. -/
lemma fillsOne_foreign (ts : List Type) (fs : Fields ts) {name : String}
    (hname : name ∉ fieldNames ts fs) (draft : Draft ts) (v : Value) :
    FillsOne ts fs draft name v draft := by
  intro bs bs' item rest hbs hbs' hitem hrest
  induction ts with
  | nil =>
    unfold readField
    simp only [readColon_spelled hbs, (skips v).after_colon hbs' hitem hrest]
    rfl
  | cons α ts ih =>
    obtain ⟨f, fs⟩ := fs
    obtain ⟨slot, draft⟩ := draft
    obtain ⟨hne, hothers⟩ : name ≠ f.name ∧ name ∉ fieldNames ts fs :=
      List.ne_and_not_mem_of_not_mem_cons hname
    rw [readField_of_ne (Ne.symm hne), ih fs hothers draft]
    rfl

/-- So do any number of them. -/
lemma fills_foreign {fields : List (String × Value)}
    (h : ∀ field ∈ fields, field.1 ∉ fieldNames ts fs) (draft : Draft ts) :
    Fills ts fs draft fields draft := by
  induction fields with
  | nil => exact .nil draft
  | cons field fields ih =>
    obtain ⟨hfield, hmore⟩ := List.forall_mem_cons.mp h
    exact .cons (fillsOne_foreign ts fs hfield draft field.2) (ih hmore)

/-- A record that has none of the fields is no record of this kind, if the first one has no
stand-in. -/
lemma decode_foreign {β : Type} {f : Field α} {toRow : β → Row (α :: ts)}
    {ofRow : Row (α :: ts) → β} (hf : f.missing = none) {fields : List (String × Value)}
    (h : ∀ field ∈ fields, field.1 ∉ fieldNames (α :: ts) (f, fs)) {cs : List Char}
    (hcs : Spells (.record fields) cs) :
    decode (Codec.record (α :: ts) (f, fs) toRow ofRow).read (chars cs) =
      .error (.missing f.name) := by
  unfold Spells at hcs
  obtain ⟨more, hmore, rfl⟩ := hcs
  have hnamed : namedFields (α :: ts) (f, fs) ((chars more).length + 1) true
      (Draft.empty (α :: ts)) (chars more) = .ok (Draft.empty (α :: ts), []) := by
    have hfuel : more.length < (chars more).length + 1 := by simp
    have hspelled := namedFields_spelled (fills_foreign h (Draft.empty (α :: ts))) hmore hfuel []
    rwa [List.append_nil] at hspelled
  have hfinish : finish (α :: ts) (f, fs) (Draft.empty (α :: ts)) = .error (.missing f.name) := by
    refine (finish_cons f none (Draft.empty ts)).trans ?_
    rw [hf]
    rfl
  have hread : readRecord (α :: ts) (f, fs) (chars ('{' :: more)) = .error (.missing f.name) := by
    unfold readRecord
    rw [chars_cons, skipSpace_cons (by decide)]
    simp only [hnamed, hfinish]
    rfl
  unfold decode Codec.record
  simp only [hread]
  rfl

end Retrial.Json
