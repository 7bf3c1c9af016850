import Retrial.Proofs.Failure.Replace
import Retrial.Proofs.Text.Lowercase

/-!
# What the shapes of dates, identifiers and numbers see

The shapes are put together from readers of parts.  A change of texts that each reader of a part
passes on to the rest is passed on by the whole (`DigitBlind`, `UuidBlind`).  Two changes are of
this kind: putting a text behind that none of the parts can go on into (`Barrier`), and mapping
characters within their classes (`KeepsClasses`).

So the parts of a text before and behind a `::` are reduced each on its own (`reduce_join`), and
characters may be mapped within their classes before or after reducing (`KeepsClasses.reduce_map`),
as the two lower sigmas are that may be taken for one (`reduce_map_desigma`).
-/

namespace Retrial.Signature

open Text

variable {g : List Char → List Char} {s : List Char}

/-! ### Readers of parts -/

/-- One reader after another passes a change on if both do. -/
lemma bind_comm {o o' : Option (List Char)} {P : List Char → Option (List Char)}
    (ho : o' = o.map g) (hP : ∀ s, P (g s) = (P s).map g) : o'.bind P = (o.bind P).map g := by
  rw [ho]
  cases o with
  | none => rfl
  | some t => exact hP t

/-- What follows a reader passes a change on if both do. -/
lemma map_comm {o o' : Option (List Char)} {p : List Char → List Char} (ho : o' = o.map g)
    (hp : ∀ s, p (g s) = g (p s)) : o'.map p = (o.map p).map g := by
  rw [ho]
  cases o with
  | none => rfl
  | some t => exact congrArg some (hp t)

/-- An optional part passes a change on if its reader does. -/
lemma afterOptional_comm {part : List Char → Option (List Char)}
    (h : part (g s) = (part s).map g) : afterOptional part (g s) = g (afterOptional part s) := by
  unfold afterOptional
  rw [h]
  cases part s <;> rfl

/-- As much lies before what comes after, if the change adds as much to both. -/
lemma covered_comm (hlength : ∀ s t, (g s).length - (g t).length = s.length - t.length)
    (o : Option (List Char)) : covered (g s) (o.map g) = covered s o := by
  cases o with
  | none => rfl
  | some t => exact hlength s t

/-- The change of texts is not seen by the readers of dates and numbers. -/
structure DigitBlind (g : List Char → List Char) : Prop where
  digits : ∀ n s, after? isDecimal n (g s) = (after? isDecimal n s).map g
  mark : ∀ c ∈ ['-', ':', 't'], ∀ s, afterMarkTwo? c (g s) = (afterMarkTwo? c s).map g
  fraction : ∀ s, afterFraction? (g s) = (afterFraction? s).map g
  zone : ∀ s, afterZone? (g s) = (afterZone? s).map g
  run : ∀ s, ((g s).takeWhile isDecimal).length = (s.takeWhile isDecimal).length
  length : ∀ s t, (g s).length - (g t).length = s.length - t.length

/-- The readers of dates pass on a change that they do not see. -/
lemma DigitBlind.afterDate? (h : DigitBlind g) (s : List Char) :
    afterDate? (g s) = (Signature.afterDate? s).map g := by
  have hseconds : ∀ s, afterSeconds? (g s) = (afterSeconds? s).map g := fun s =>
    map_comm (h.mark ':' (by decide) s) fun s => afterOptional_comm (h.fraction s)
  have htime : ∀ s, afterTime? (g s) = (afterTime? s).map g := by
    intro s
    refine map_comm (bind_comm (h.mark 't' (by decide) s) (h.mark ':' (by decide))) fun s => ?_
    rw [afterOptional_comm (hseconds s), afterOptional_comm (h.zone _)]
  refine map_comm (bind_comm (bind_comm (h.digits 4 s) (h.mark '-' (by decide)))
    (h.mark '-' (by decide))) fun s => ?_
  exact afterOptional_comm (htime s)

/-- The shape of dates does not see the change. -/
lemma DigitBlind.dateShape (h : DigitBlind g) (before before' : Option Char) (s : List Char) :
    dateShape before (g s) = Signature.dateShape before' s := by
  unfold Signature.dateShape
  rw [h.afterDate?, covered_comm h.length]

/-- The shape of numbers does not see the change. -/
lemma DigitBlind.numberShape (h : DigitBlind g) (before before' : Option Char) (s : List Char) :
    numberShape before (g s) = Signature.numberShape before' s := h.run s

/-- The change of texts is not seen by the readers of identifiers. -/
structure UuidBlind (g : List Char → List Char) : Prop where
  hex : ∀ n s, after? isLowerHex n (g s) = (after? isLowerHex n s).map g
  dash : ∀ s, afterChar? '-' (g s) = (afterChar? '-' s).map g
  word : ∀ s, (g s).head?.any isWord = s.head?.any isWord
  length : ∀ s t, (g s).length - (g t).length = s.length - t.length

/-- The readers of identifiers pass on a change that they do not see. -/
lemma UuidBlind.afterUuid? (h : UuidBlind g) (s : List Char) :
    afterUuid? (g s) = (Signature.afterUuid? s).map g := by
  have hgroup : ∀ n s, afterGroup? n (g s) = (afterGroup? n s).map g := fun n s =>
    bind_comm (h.dash s) (h.hex n)
  exact bind_comm (bind_comm (bind_comm (bind_comm (h.hex 8 s) (hgroup 4)) (hgroup 4)) (hgroup 4))
    (hgroup 12)

/-- The shape of identifiers does not see the change. -/
lemma UuidBlind.uuidShape (h : UuidBlind g) {before before' : Option Char}
    (hbefore : before.any isWord = before'.any isWord) (s : List Char) :
    uuidShape before (g s) = Signature.uuidShape before' s := by
  unfold Signature.uuidShape
  rw [hbefore, h.afterUuid?]
  cases Signature.afterUuid? s with
  | none => rfl
  | some rest =>
    simp only [Option.map_some]
    rw [h.word, ← covered_comm h.length (some rest)]
    rfl

/-! ### A text behind -/

/-- No date and no number goes on into the text: it starts with neither a digit nor a zone, nor with
a separator before a digit. -/
structure Barrier (v : List Char) : Prop where
  head : ∀ c ∈ v.head?, isDecimal c = false ∧ c ≠ 'z'
  next : ∀ c ∈ v.tail.head?, isDecimal c = false

/-- Characters of a kind are not read on into a text that starts with none of the kind. -/
lemma after?_append {p : Char → Bool} {v : List Char} (hv : ∀ c ∈ v.head?, p c = false) (n : Nat)
    (s : List Char) : after? p n (s ++ v) = (after? p n s).map (· ++ v) := by
  induction n generalizing s with
  | zero => rfl
  | succ n ih =>
    cases s with
    | nil =>
      cases v with
      | nil => rfl
      | cons c v =>
        have hc := hv c rfl
        simp [after?, hc]
    | cons c s =>
      rw [List.cons_append, after?, after?, ih]
      split_ifs <;> rfl

/-- A separator with digits is not read on into a barrier. -/
lemma afterMark_append {v : List Char} (hv : Barrier v) (c : Char) (n : Nat) (s : List Char) :
    (afterChar? c (s ++ v)).bind (after? isDecimal (n + 1)) =
      ((afterChar? c s).bind (after? isDecimal (n + 1))).map (· ++ v) := by
  cases s with
  | nil =>
    cases v with
    | nil => rfl
    | cons d v =>
      rw [List.nil_append, afterChar?]
      split_ifs
      · cases v with
        | nil => rfl
        | cons e v =>
          have he := hv.next e rfl
          simp [after?, afterChar?, he]
      · rfl
  | cons d s =>
    rw [List.cons_append, afterChar?, afterChar?]
    split_ifs
    · exact after?_append (fun c hc => (hv.head c hc).1) (n + 1) s
    · rfl

/-- The readers of dates and numbers do not see a barrier behind a text. -/
lemma digitBlind_append {v : List Char} (hv : Barrier v) : DigitBlind (· ++ v) := by
  have hhead : ∀ c ∈ v.head?, isDecimal c = false := fun c hc => (hv.head c hc).1
  have hdrop : ∀ s : List Char, (s ++ v).dropWhile isDecimal = s.dropWhile isDecimal ++ v := by
    intro s
    rw [List.dropWhile_append]
    split_ifs with hall
    · rw [List.isEmpty_iff.mp hall, List.nil_append]
      cases v with
      | nil => rfl
      | cons c v => exact List.dropWhile_cons_of_neg (by simp [hhead c rfl])
    · rfl
  -- the minutes of an offset, with or without a colon
  have hminutes : ∀ s, after? isDecimal 2 (afterOptional (afterChar? ':') (s ++ v)) =
      (after? isDecimal 2 (afterOptional (afterChar? ':') s)).map (· ++ v) := by
    intro s
    cases s with
    | nil =>
      cases v with
      | nil => rfl
      | cons c v =>
        rw [List.nil_append, afterOptional, afterChar?]
        split_ifs
        · cases v with
          | nil => rfl
          | cons d v =>
            have hd := hv.next d rfl
            simp [after?, afterOptional, afterChar?, hd]
        · have hc := hhead c rfl
          simp [after?, afterOptional, afterChar?, hc]
    | cons c s =>
      rw [List.cons_append, afterOptional, afterOptional, afterChar?, afterChar?]
      split_ifs
      · exact after?_append hhead 2 s
      · exact after?_append hhead 2 (c :: s)
  have hoffset : ∀ s, afterOffset? (s ++ v) = (afterOffset? s).map (· ++ v) := by
    intro s
    cases s with
    | nil =>
      cases v with
      | nil => rfl
      | cons c v =>
        rw [List.nil_append, afterOffset?]
        split_ifs
        · cases v with
          | nil => rfl
          | cons d v =>
            have hd := hv.next d rfl
            simp [after?, afterOffset?, hd]
        · rfl
    | cons c s =>
      rw [List.cons_append, afterOffset?, afterOffset?]
      split_ifs
      · exact bind_comm (after?_append hhead 2 s) hminutes
      · rfl
  refine ⟨after?_append hhead, fun c _ => afterMark_append hv c 1, fun s => ?_, fun s => ?_,
    fun s => ?_, fun s t => ?_⟩
  · exact map_comm (afterMark_append hv '.' 0 s) hdrop
  · cases s with
    | nil =>
      have hnone : afterChar? 'z' v = none := by
        cases v with
        | nil => rfl
        | cons c v => exact if_neg (by simpa using (hv.head c rfl).2)
      unfold afterZone?
      rw [List.nil_append, hnone]
      exact hoffset []
    | cons c s =>
      unfold afterZone?
      rw [List.cons_append, afterChar?, afterChar?]
      split_ifs
      · rfl
      · exact hoffset (c :: s)
  · have hsplit := congrArg List.length
      (List.takeWhile_append_dropWhile (p := isDecimal) (l := s ++ v))
    have hsplit' := congrArg List.length (List.takeWhile_append_dropWhile (p := isDecimal) (l := s))
    rw [List.length_append, hdrop, List.length_append, List.length_append] at hsplit
    rw [List.length_append] at hsplit'
    omega
  · simp only [List.length_append]
    omega

/-- The readers of identifiers do not see a text behind that starts with none of their characters
and with no word. -/
lemma uuidBlind_append {m : Char} (hhex : isLowerHex m = false) (hdash : (m == '-') = false)
    (hword : isWord m = false) (v : List Char) : UuidBlind (· ++ m :: v) := by
  refine ⟨after?_append ?_, fun s => ?_, fun s => ?_, fun s t => ?_⟩
  · rintro c hc
    obtain rfl : m = c := Option.some.inj hc
    exact hhex
  · cases s with
    | nil => simp [afterChar?, hdash]
    | cons c s =>
      rw [List.cons_append, afterChar?, afterChar?]
      split_ifs <;> rfl
  · cases s with
    | nil => simp [hword]
    | cons c s => rfl
  · simp only [List.length_append]
    omega

/-- A character that stands in none of the shapes. -/
structure Separates (m : Char) : Prop where
  decimal : isDecimal m = false
  hex : isLowerHex m = false
  word : isWord m = false
  mark : ∀ c ∈ ['-', ':', '.', '+', 't', 'z'], (m == c) = false

/-- A separator of parts is not read on into a text behind that does not start with it. -/
lemma afterChar?_append {m c : Char} (h : (m == c) = false) (s v : List Char) :
    afterChar? c (s ++ m :: v) = (afterChar? c s).map (· ++ m :: v) := by
  cases s with
  | nil => simp [afterChar?, h]
  | cons d s =>
    rw [List.cons_append, afterChar?, afterChar?]
    split_ifs <;> rfl

/-- The readers of dates and numbers do not see a text behind that starts outside of the shapes. -/
lemma Separates.digitBlind {m : Char} (hm : Separates m) (v : List Char) :
    DigitBlind (· ++ m :: v) := by
  have hdigits : ∀ n s, after? isDecimal n (s ++ m :: v) =
      (after? isDecimal n s).map (· ++ m :: v) := by
    refine after?_append fun c hc => ?_
    obtain rfl : m = c := Option.some.inj hc
    exact hm.decimal
  have hmark : ∀ c ∈ ['-', ':', '.', '+', 't', 'z'], ∀ n s,
      (afterChar? c (s ++ m :: v)).bind (after? isDecimal n) =
        ((afterChar? c s).bind (after? isDecimal n)).map (· ++ m :: v) := fun c hc n s =>
    bind_comm (afterChar?_append (hm.mark c hc) s v) (hdigits n)
  have hoffset : ∀ s, afterOffset? (s ++ m :: v) = (afterOffset? s).map (· ++ m :: v) := by
    intro s
    cases s with
    | nil => simp [afterOffset?, hm.mark '+' (by decide), hm.mark '-' (by decide)]
    | cons c s =>
      rw [List.cons_append, afterOffset?, afterOffset?]
      split_ifs
      · refine bind_comm (hdigits 2 s) fun s => ?_
        have hcolon : afterOptional (afterChar? ':') (s ++ m :: v) =
            afterOptional (afterChar? ':') s ++ m :: v :=
          afterOptional_comm (g := (· ++ m :: v)) (afterChar?_append (hm.mark ':' (by decide)) s v)
        rw [hcolon, hdigits]
      · rfl
  have hmarks : ['-', ':', 't'] ⊆ ['-', ':', '.', '+', 't', 'z'] := by decide
  refine ⟨hdigits, fun c hc => hmark c (hmarks hc) 2, fun s => ?_, fun s => ?_, fun s => ?_,
    fun s t => ?_⟩
  · refine map_comm (hmark '.' (by decide) 1 s) fun s => ?_
    rw [List.dropWhile_append]
    split_ifs with hall
    · rw [List.isEmpty_iff.mp hall, List.nil_append]
      exact List.dropWhile_cons_of_neg (by simp [hm.decimal])
    · rfl
  · unfold afterZone?
    rw [afterChar?_append (hm.mark 'z' (by decide))]
    cases afterChar? 'z' s with
    | none => exact hoffset s
    | some t => rfl
  · rw [List.takeWhile_append]
    split_ifs with hall
    · rw [List.takeWhile_cons_of_neg (by simp [hm.decimal]), List.append_nil, hall]
    · rfl
  · simp only [List.length_append]
    omega

/-! ### Characters within their classes -/

/-- Characters are mapped within the classes that the shapes tell apart. -/
structure KeepsClasses (f : Char → Char) : Prop where
  decimal : ∀ c, isDecimal (f c) = isDecimal c
  word : ∀ c, isWord (f c) = isWord c
  hex : ∀ c, isLowerHex (f c) = isLowerHex c
  mark : ∀ m ∈ ['-', ':', '.', '+', 't', 'z'], ∀ c, (f c == m) = (c == m)

variable {f : Char → Char}

/-- Characters of a kind are read on as before. -/
lemma after?_map {p : Char → Bool} (hp : ∀ c, p (f c) = p c) (n : Nat) (s : List Char) :
    after? p n (s.map f) = (after? p n s).map (List.map f) := by
  induction n generalizing s with
  | zero => rfl
  | succ n ih =>
    cases s with
    | nil => rfl
    | cons c s =>
      rw [List.map_cons, after?, after?, hp, ih]
      split_ifs <;> rfl

/-- A separator is read as before. -/
lemma KeepsClasses.afterChar? (hf : KeepsClasses f) {m : Char}
    (hm : m ∈ ['-', ':', '.', '+', 't', 'z']) (s : List Char) :
    afterChar? m (s.map f) = (Signature.afterChar? m s).map (List.map f) := by
  cases s with
  | nil => rfl
  | cons c s =>
    rw [List.map_cons, Signature.afterChar?, Signature.afterChar?, hf.mark m hm]
    split_ifs <;> rfl

/-- The readers of dates and numbers do not see a map within the classes. -/
lemma KeepsClasses.digitBlind (hf : KeepsClasses f) : DigitBlind (List.map f) := by
  have hdigits := after?_map hf.decimal
  have hmark : ∀ m ∈ ['-', ':', '.', '+', 't', 'z'], ∀ n s,
      (Signature.afterChar? m (s.map f)).bind (after? isDecimal n) =
        ((Signature.afterChar? m s).bind (after? isDecimal n)).map (List.map f) :=
    fun m hm n s => bind_comm (hf.afterChar? hm s) (hdigits n)
  have hdecimal : isDecimal ∘ f = isDecimal := funext hf.decimal
  have hdrop : ∀ s : List Char, (s.map f).dropWhile isDecimal = (s.dropWhile isDecimal).map f := by
    intro s
    rw [List.dropWhile_map, hdecimal]
  have hoffset : ∀ s, afterOffset? (s.map f) = (afterOffset? s).map (List.map f) := by
    intro s
    cases s with
    | nil => rfl
    | cons c s =>
      rw [List.map_cons, afterOffset?, afterOffset?, hf.mark '+' (by decide),
        hf.mark '-' (by decide)]
      split_ifs
      · refine bind_comm (hdigits 2 s) fun s => ?_
        rw [afterOptional_comm (hf.afterChar? (by decide) s), hdigits]
      · rfl
  have hmarks : ['-', ':', 't'] ⊆ ['-', ':', '.', '+', 't', 'z'] := by decide
  refine ⟨hdigits, fun c hc => hmark c (hmarks hc) 2, fun s => ?_, fun s => ?_, fun s => ?_,
    fun s t => ?_⟩
  · exact map_comm (hmark '.' (by decide) 1 s) hdrop
  · unfold afterZone?
    rw [hf.afterChar? (by decide)]
    cases Signature.afterChar? 'z' s with
    | none => exact hoffset s
    | some t => rfl
  · rw [List.takeWhile_map, hdecimal, List.length_map]
  · rw [List.length_map, List.length_map]

/-- The readers of identifiers do not see a map within the classes. -/
lemma KeepsClasses.uuidBlind (hf : KeepsClasses f) : UuidBlind (List.map f) := by
  refine ⟨after?_map hf.hex, hf.afterChar? (by decide), fun s => ?_, fun s t => ?_⟩
  · cases s with
    | nil => rfl
    | cons c s => exact hf.word c
  · rw [List.length_map, List.length_map]

/-- The two lower sigmas are letters like others. -/
lemma keepsClasses_desigma : KeepsClasses desigma := by
  have hboth {α : Type} {p : Char → α} (h : p 'σ' = p 'ς') (c : Char) : p (desigma c) = p c := by
    unfold desigma
    split_ifs with hc
    · rw [h, beq_iff_eq.mp hc]
    · rfl
  have hmarks : ∀ m ∈ ['-', ':', '.', '+', 't', 'z'], ('σ' == m) = ('ς' == m) := by simp
  exact ⟨hboth (by decide), hboth (by decide), hboth (by decide), fun m hm =>
    hboth (p := fun c => c == m) (hmarks m hm)⟩

/-! ### Reducing -/

/-- A text with dates, identifiers and numbers replaced. -/
def reduce (cs : List Char) : List Char :=
  replaceAll numberShape "[NUM]".toList
    (replaceAll uuidShape "[UUID]".toList (replaceAll dateShape "[DATE]".toList cs))

/-- The normal form of a failure is its lower-cased text, reduced. -/
lemma normalizeChars_eq (message trace : List Char) :
    normalizeChars message trace =
      reduce (lowercase (message ++ ':' :: ':' :: trace.take traceLimit)) := by
  unfold normalizeChars reduce
  rw [List.append_assoc]
  rfl

/-- A shape lies within the text. -/
lemma covered_le (s : List Char) (o : Option (List Char)) : covered s o ≤ s.length := by
  cases o with
  | none => exact Nat.zero_le _
  | some t => exact Nat.sub_le _ _

/-- The shape does not look through a `::`, from neither side. -/
structure StopsAtJoin (shape : Shape) : Prop where
  within : ∀ before us, shape before us ≤ us.length
  ahead : ∀ before us vs, shape before (us ++ ':' :: ':' :: vs) = shape before us
  colon : ∀ before vs, shape before (':' :: vs) = 0
  behind : ∀ vs, shape (some ':') vs = shape none vs

/-- A `::` parts what is replaced. -/
lemma StopsAtJoin.replaceAll {shape : Shape} (h : StopsAtJoin shape) (mark us vs : List Char) :
    replaceAll shape mark (us ++ ':' :: ':' :: vs) =
      Signature.replaceAll shape mark us ++ ':' :: ':' :: Signature.replaceAll shape mark vs := by
  have hreach : ∀ before cs, shape before (cs ++ ':' :: ':' :: vs) ≤ cs.length := fun before cs =>
    (h.ahead before cs vs).trans_le (h.within before cs)
  have hseen : (fun before cs => shape before (cs ++ ':' :: ':' :: vs)) = shape :=
    funext fun before => funext fun cs => h.ahead before cs vs
  unfold Signature.replaceAll
  rw [replaceFrom_append hreach (Nat.zero_le _), hseen, replaceFrom_of_eq_zero (h.colon _ _),
    replaceFrom_of_eq_zero (h.colon _ _), replaceFrom_before_congr (h.behind vs)]

/-- A colon with another one behind ends dates and numbers. -/
lemma barrier_join (v : List Char) : Barrier (':' :: ':' :: v) := by
  constructor
  · rintro c hc
    obtain rfl : ':' = c := Option.some.inj hc
    decide
  · rintro c hc
    obtain rfl : ':' = c := Option.some.inj hc
    decide

lemma stopsAtJoin_dateShape : StopsAtJoin dateShape where
  within _ us := covered_le us _
  ahead before us vs := (digitBlind_append (barrier_join vs)).dateShape before before us
  colon _ _ := rfl
  behind _ := rfl

lemma stopsAtJoin_uuidShape : StopsAtJoin uuidShape where
  within before us := by
    unfold uuidShape
    split_ifs
    · exact Nat.zero_le _
    · split
      · exact Nat.zero_le _
      · split_ifs
        · exact Nat.zero_le _
        · exact covered_le us _
  ahead _ us vs :=
    (uuidBlind_append (by decide) (by decide) (by decide) (':' :: vs)).uuidShape rfl us
  colon before vs := by
    unfold uuidShape
    split_ifs <;> rfl
  behind _ := rfl

lemma stopsAtJoin_numberShape : StopsAtJoin numberShape where
  within _ _ := (List.takeWhile_sublist isDecimal).length_le
  ahead before us vs := (digitBlind_append (barrier_join vs)).numberShape before before us
  colon _ _ := rfl
  behind _ := rfl

/-- A `::` parts what is reduced. -/
theorem reduce_join (us vs : List Char) :
    reduce (us ++ ':' :: ':' :: vs) = reduce us ++ ':' :: ':' :: reduce vs := by
  unfold reduce
  rw [stopsAtJoin_dateShape.replaceAll, stopsAtJoin_uuidShape.replaceAll,
    stopsAtJoin_numberShape.replaceAll]

/-- Where a character outside of the shapes stands, a shape sees neither from the one side what is
on the other, nor the character itself. -/
structure StopsAt (m : Char) (shape : Shape) : Prop where
  within : ∀ before us, shape before us ≤ us.length
  ahead : ∀ before us vs, shape before (us ++ m :: vs) = shape before us
  here : ∀ before vs, shape before (m :: vs) = 0
  behind : ∀ vs, shape (some m) vs = shape none vs

/-- A character outside of the shapes parts what is replaced. -/
lemma StopsAt.replaceAll {m : Char} {shape : Shape} (h : StopsAt m shape)
    (mark us vs : List Char) :
    replaceAll shape mark (us ++ m :: vs) =
      Signature.replaceAll shape mark us ++ m :: Signature.replaceAll shape mark vs := by
  have hreach : ∀ before cs, shape before (cs ++ m :: vs) ≤ cs.length := fun before cs =>
    (h.ahead before cs vs).trans_le (h.within before cs)
  have hseen : (fun before cs => shape before (cs ++ m :: vs)) = shape :=
    funext fun before => funext fun cs => h.ahead before cs vs
  unfold Signature.replaceAll
  rw [replaceFrom_append hreach (Nat.zero_le _), hseen, replaceFrom_of_eq_zero (h.here _ _),
    replaceFrom_before_congr (h.behind vs)]

section Separates

variable {m : Char} (hm : Separates m)
include hm

lemma Separates.stopsAt_dateShape : StopsAt m dateShape where
  within := stopsAtJoin_dateShape.within
  ahead before us vs := (hm.digitBlind vs).dateShape before before us
  here before vs := (hm.digitBlind vs).dateShape before before []
  behind _ := rfl

lemma Separates.stopsAt_uuidShape : StopsAt m uuidShape where
  within := stopsAtJoin_uuidShape.within
  ahead _ us vs :=
    (uuidBlind_append hm.hex (hm.mark '-' (by decide)) hm.word vs).uuidShape rfl us
  here before vs := by
    have hblind := uuidBlind_append hm.hex (hm.mark '-' (by decide)) hm.word vs
    refine (hblind.uuidShape rfl []).trans ?_
    unfold uuidShape
    split_ifs <;> rfl
  behind vs := by
    unfold uuidShape
    rw [Option.any_some, hm.word]
    rfl

lemma Separates.stopsAt_numberShape : StopsAt m numberShape where
  within := stopsAtJoin_numberShape.within
  ahead before us vs := (hm.digitBlind vs).numberShape before before us
  here before vs := (hm.digitBlind vs).numberShape before before []
  behind _ := rfl

/-- A character outside of the shapes parts what is reduced. -/
theorem Separates.reduce_append (us vs : List Char) :
    reduce (us ++ m :: vs) = reduce us ++ m :: reduce vs := by
  unfold reduce
  rw [hm.stopsAt_dateShape.replaceAll, hm.stopsAt_uuidShape.replaceAll,
    hm.stopsAt_numberShape.replaceAll]

end Separates

/-- A map within the classes that leaves the marks may be made before or after reducing. -/
theorem KeepsClasses.reduce_map (hf : KeepsClasses f)
    (hmarks : ∀ mark ∈ ["[DATE]", "[UUID]", "[NUM]"], mark.toList.map f = mark.toList)
    (cs : List Char) : reduce (cs.map f) = (reduce cs).map f := by
  have hdigit := hf.digitBlind
  have huuid := hf.uuidBlind
  have hdate : ∀ cs, replaceAll dateShape "[DATE]".toList (cs.map f) =
      (replaceAll dateShape "[DATE]".toList cs).map f :=
    replaceFrom_map (hmarks _ (by decide)) (fun before cs => hdigit.dateShape _ _ cs) 0 none
  have hid : ∀ cs, replaceAll uuidShape "[UUID]".toList (cs.map f) =
      (replaceAll uuidShape "[UUID]".toList cs).map f := by
    refine replaceFrom_map (hmarks _ (by decide))
      (fun before cs => huuid.uuidShape ?_ cs) 0 none
    cases before with
    | none => rfl
    | some c => exact hf.word c
  have hnumber : ∀ cs, replaceAll numberShape "[NUM]".toList (cs.map f) =
      (replaceAll numberShape "[NUM]".toList cs).map f :=
    replaceFrom_map (hmarks _ (by decide)) (fun before cs => hdigit.numberShape _ _ cs) 0 none
  unfold reduce
  rw [hdate, hid, hnumber]

/-- The two lower sigmas may be taken for one before or after reducing. -/
theorem reduce_map_desigma (cs : List Char) :
    reduce (cs.map desigma) = (reduce cs).map desigma :=
  keepsClasses_desigma.reduce_map (by decide) cs

end Retrial.Signature
