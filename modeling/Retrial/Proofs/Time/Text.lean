import Retrial.Proofs.Json.Leaves
import Retrial.Proofs.Time.Calendar
import Retrial.Time.Text

/-!
# Reading instants back

Every instant that can be written is read back from its text, to the nanosecond
(`ofText?_text`): years outside of 0 to 9999 keep their sign, a leap second is the 60th of its
minute, and the decimal places left out are zeros.
-/

namespace Retrial.Time

open Text Json

/-! ### Numbers -/

/-- Digits are no blanks. -/
lemma isBlank_of_isDigit {c : Char} (h : c.isDigit = true) : isBlank c = false := by
  have hrange : 48 ≤ c.toNat ∧ c.toNat ≤ 57 := by
    simp only [Char.isDigit, Bool.and_eq_true, decide_eq_true_eq] at h
    exact ⟨h.1, h.2⟩
  unfold isBlank inRanges
  simp only [List.any_cons, List.any_nil, Bool.or_false, Bool.or_eq_false_iff,
    Bool.and_eq_false_iff, decide_eq_false_iff_not]
  omega

/-- Blanks are dropped up to what is none. -/
lemma dropBlanks_cons {c : Char} (h : isBlank c = false) (s : List Char) :
    dropBlanks (c :: s) = c :: s := by
  unfold dropBlanks
  rw [List.dropWhile_cons_of_neg (by simp [h])]

/-- A number is taken off: all digits that there may be, or all that there are. -/
lemma takeNumber_digits {ds : List Char} (hds : Digits ds) (hne : ds ≠ []) {width : Nat}
    {s : List Char} (h : ds.length = width ∨ ds.length ≤ width ∧ s.head?.all fun c => !c.isDigit) :
    takeNumber width (ds ++ s) = some (Nat.ofDigitChars 10 ds 0, s) := by
  have htaken : ((ds ++ s).take width).takeWhile Char.isDigit = ds := by
    obtain hfull | ⟨hle, hend⟩ := h
    · rw [← hfull, List.take_left, List.takeWhile_eq_self_iff.mpr hds]
    · rw [List.take_append, List.take_of_length_le hle, List.takeWhile_append_of_pos hds]
      cases hrest : s.take (width - ds.length) with
      | nil => simp
      | cons c more =>
        have hhead : s.head? = some c := by
          cases s with
          | nil => simp at hrest
          | cons c' s =>
            cases hw : width - ds.length with
            | zero => simp [hw] at hrest
            | succ n =>
              rw [hw, List.take_succ_cons] at hrest
              rw [(List.cons.inj hrest).1]
              rfl
        rw [hhead] at hend
        rw [List.takeWhile_cons_of_neg (by simpa using hend), List.append_nil]
  have hfold : ds.foldl (fun n c => n * 10 + (c.toNat - 48)) 0 = Nat.ofDigitChars 10 ds 0 := by
    unfold Nat.ofDigitChars
    congr 1
    funext n c
    rw [Nat.mul_comm]
    rfl
  unfold takeNumber
  simp only [htaken, hfold, List.drop_left]
  rw [if_neg (by simpa using hne)]

/-- The digits of a padded number. -/
lemma toList_zeroPad (width n : Nat) :
    (zeroPad width n).toList =
      List.replicate (width - (Nat.toDigits 10 n).length) '0' ++ Nat.toDigits 10 n := by
  have hdigits : (toString n).toList = Nat.toDigits 10 n := Nat.toList_repr
  have hlength : (toString n).length = (Nat.toDigits 10 n).length := by
    rw [← hdigits, String.length_toList]
  unfold zeroPad
  simp only [String.toList_append, String.toList_ofList, hdigits, hlength]

/-- A padded number is made of digits. -/
lemma digits_zeroPad (width n : Nat) : Digits (zeroPad width n).toList := by
  rw [toList_zeroPad]
  exact (digits_replicate _).append (digits_toDigits n)

/-- A padded number has digits. -/
lemma zeroPad_ne_nil (width n : Nat) : (zeroPad width n).toList ≠ [] := by
  rw [toList_zeroPad]
  simp [Nat.toDigits_ne_nil]

/-- Padding does not change a number. -/
lemma ofDigitChars_zeroPad (width n : Nat) :
    Nat.ofDigitChars 10 (zeroPad width n).toList 0 = n := by
  have hzeros : ∀ k, Nat.ofDigitChars 10 (List.replicate k '0') 0 = 0 := by
    intro k
    induction k with
    | zero => rfl
    | succ k ih => exact ih
  rw [toList_zeroPad]
  unfold Nat.ofDigitChars
  rw [List.foldl_append]
  change Nat.ofDigitChars 10 (Nat.toDigits 10 n) (Nat.ofDigitChars 10 (List.replicate _ '0') 0) = n
  rw [hzeros, Nat.ofDigitChars_ten_toDigits]

/-- A number that has no more digits than its width is padded to the width. -/
lemma length_zeroPad {width n : Nat} (hwidth : 0 < width) (hn : n < 10 ^ width) :
    (zeroPad width n).toList.length = width := by
  have hle := (Nat.length_toDigits_le_iff (by decide) hwidth).mpr hn
  rw [toList_zeroPad, List.length_append, List.length_replicate]
  omega

/-- A padded number of the right width is taken off, whatever follows. -/
lemma takeNumber_zeroPad {width n : Nat} (hwidth : 0 < width) (hn : n < 10 ^ width)
    (s : List Char) : takeNumber width ((zeroPad width n).toList ++ s) = some (n, s) := by
  rw [takeNumber_digits (digits_zeroPad width n) (zeroPad_ne_nil width n)
    (Or.inl (length_zeroPad hwidth hn)), ofDigitChars_zeroPad]

/-! ### Parts of a time -/

/-- No blanks are dropped before a padded number. -/
lemma dropBlanks_zeroPad (width n : Nat) (s : List Char) :
    dropBlanks ((zeroPad width n).toList ++ s) = (zeroPad width n).toList ++ s := by
  have hdigits := digits_zeroPad width n
  cases hlist : (zeroPad width n).toList with
  | nil => exact absurd hlist (zeroPad_ne_nil width n)
  | cons c ds =>
    rw [hlist] at hdigits
    exact dropBlanks_cons (isBlank_of_isDigit (hdigits c List.mem_cons_self)) _

/-- A number of two digits is taken off. -/
lemma takeField_zeroPad {n : Nat} (hn : n < 100) (s : List Char) :
    takeField ((zeroPad 2 n).toList ++ s) = some (n, s) := by
  unfold takeField
  rw [dropBlanks_zeroPad, takeNumber_zeroPad (by decide) (by omega)]

/-- A separator is taken off. -/
lemma takeMark_cons {c : Char} (h : isBlank c = false) (s : List Char) :
    takeMark c (c :: s) = some s := by
  unfold takeMark
  rw [dropBlanks_cons h]
  exact if_pos (by simp)

/-- A year is taken off. -/
lemma takeYear_yearText (year : Int) (s : List Char) :
    takeYear ((yearText year).toList ++ '-' :: s) = some (year, '-' :: s) := by
  have hsigned : ∀ n, takeNumber ((zeroPad 4 n).toList ++ '-' :: s).length
      ((zeroPad 4 n).toList ++ '-' :: s) = some (n, '-' :: s) := by
    intro n
    rw [takeNumber_digits (digits_zeroPad 4 n) (zeroPad_ne_nil 4 n)
      (Or.inr ⟨by simp, rfl⟩), ofDigitChars_zeroPad]
  unfold yearText
  split_ifs with hfour hneg
  · have hplain : takeNumber 4 ((zeroPad 4 year.toNat).toList ++ '-' :: s) =
        some (year.toNat, '-' :: s) := takeNumber_zeroPad (by decide) (by omega) _
    have hdigits := digits_zeroPad 4 year.toNat
    unfold takeYear
    rw [dropBlanks_zeroPad]
    cases hlist : (zeroPad 4 year.toNat).toList with
    | nil => exact absurd hlist (zeroPad_ne_nil 4 year.toNat)
    | cons c ds =>
      rw [hlist] at hdigits hplain
      have hc := hdigits c List.mem_cons_self
      rw [List.cons_append] at hplain ⊢
      split
      · rename_i heq
        rw [(List.cons.inj heq).1] at hc
        exact absurd hc (by decide)
      · rename_i heq
        rw [(List.cons.inj heq).1] at hc
        exact absurd hc (by decide)
      · rw [hplain]
        simp only [Option.map_some, Int.toNat_of_nonneg hfour.1]
  · have hsign : ("-" : String).toList = ['-'] := rfl
    rw [String.toList_append, hsign, List.singleton_append, List.cons_append]
    unfold takeYear
    rw [dropBlanks_cons (by decide)]
    simp only [hsigned, Option.map_some]
    congr 2
    omega
  · have hsign : ("+" : String).toList = ['+'] := rfl
    rw [String.toList_append, hsign, List.singleton_append, List.cons_append]
    unfold takeYear
    rw [dropBlanks_cons (by decide)]
    simp only [hsigned, Option.map_some]
    congr 2
    omega

/-- A fraction of some decimal places is taken off. -/
lemma takeFraction_zeroPad {places n : Nat} (hplaces : 0 < places) (hle : places ≤ 9)
    (hn : n < 10 ^ places) (s : List Char) :
    takeFraction ('.' :: ((zeroPad places n).toList ++ 'Z' :: s)) =
      some (n * 10 ^ (9 - places), 'Z' :: s) := by
  have hlength := length_zeroPad hplaces hn
  have hdigits : ((zeroPad places n).toList ++ 'Z' :: s).takeWhile Char.isDigit =
      (zeroPad places n).toList := by
    rw [List.takeWhile_append_of_pos (digits_zeroPad places n),
      List.takeWhile_cons_of_neg (by decide), List.append_nil]
  unfold takeFraction
  simp only [hdigits]
  rw [takeNumber_digits (digits_zeroPad places n) (zeroPad_ne_nil places n)
    (Or.inr ⟨by omega, rfl⟩), ofDigitChars_zeroPad]
  simp only [hlength, Nat.min_eq_right hle, List.drop_left' hlength]
  rfl

/-- The decimal places of an instant are taken off. -/
lemma takeFraction_fractionText (t : Instant) (s : List Char) :
    takeFraction (t.fractionText.toList ++ 'Z' :: s) =
      some (t.nanos % nanosPerSecond, 'Z' :: s) := by
  have hlt : t.nanos % nanosPerSecond < 1000000000 := Nat.mod_lt _ (by decide)
  have hpoint : ("." : String).toList = ['.'] := rfl
  unfold Instant.fractionText
  generalize t.nanos % nanosPerSecond = n at hlt ⊢
  simp only [beq_iff_eq]
  split_ifs with hnone hmillis hmicros
  · rw [hnone]
    rfl
  · rw [String.toList_append, hpoint, List.singleton_append, List.cons_append,
      takeFraction_zeroPad (by decide) (by decide) (by omega)]
    congr 2
    omega
  · rw [String.toList_append, hpoint, List.singleton_append, List.cons_append,
      takeFraction_zeroPad (by decide) (by decide) (by omega)]
    congr 2
    omega
  · rw [String.toList_append, hpoint, List.singleton_append, List.cons_append,
      takeFraction_zeroPad (by decide) (by decide) (by omega)]
    congr 2
    omega

/-! ### Instants -/

/-- The seconds of an instant are those of its day and its time of day. -/
lemma seconds_eq (t : Instant) :
    t.seconds = t.day * 86400 + t.secondOfDay.toNat ∧ t.secondOfDay.toNat < 86400 ∧
      (t.secondOfDay.toNat : Int) % 60 = t.seconds % 60 := by
  unfold Instant.day Instant.secondOfDay secondsPerDay
  omega

/-- A valid instant is made of its day and its time of day. -/
lemma ofLocal?_parts {t : Instant} (h : t.Valid) :
    Instant.ofLocal? (Date.ofDays t.day) (t.secondOfDay.toNat / 3600)
      (t.secondOfDay.toNat / 60 % 60) (t.secondOfDay.toNat % 60 + if t.isLeap then 1 else 0)
      (t.nanos % nanosPerSecond) 0 = some t := by
  obtain ⟨hrange, hnanos, hleap⟩ := h
  obtain ⟨hseconds, hlt, hminute⟩ := seconds_eq t
  have hday : minDay ≤ t.day ∧ t.day ≤ maxDay := by
    simpa [Instant.inRange] using hrange
  obtain ⟨hyear0, hyear1⟩ := year_ofDays hday.1 hday.2
  have hnano : nanosPerSecond = 1000000000 := rfl
  generalize t.secondOfDay.toNat = s at *
  have hsecond : s % 60 + (if t.isLeap then 1 else 0) ≤ 60 := by
    split_ifs <;> omega
  have hleapSecond : (s % 60 + (if t.isLeap then 1 else 0) == 60) = t.isLeap := by
    cases hl : t.isLeap with
    | true =>
      have := hleap hl
      simp
      omega
    | false =>
      simp
      omega
  have hexact : ((Date.ofDays t.day).toDays * secondsPerDay + (s / 3600 : Nat) * 3600 +
      (s / 60 % 60 : Nat) * 60 +
      (if t.isLeap then 59 else s % 60 + (if t.isLeap then 1 else 0) : Nat) : Int) - 0 =
      t.seconds := by
    rw [toDays_ofDays]
    unfold secondsPerDay
    cases hl : t.isLeap with
    | true =>
      have := hleap hl
      simp only [if_true]
      omega
    | false =>
      simp only [Bool.false_eq_true, if_false]
      omega
  have hfraction : (if t.isLeap then nanosPerSecond + t.nanos % nanosPerSecond
      else t.nanos % nanosPerSecond) = t.nanos := by
    unfold Instant.isLeap
    simp only [decide_eq_true_eq, hnano] at hnanos ⊢
    split_ifs <;> omega
  unfold Instant.ofLocal?
  rw [if_pos (by simp [exists_ofDays, hyear0, hyear1, hsecond]; omega)]
  simp only [hleapSecond, hexact, hfraction]
  exact if_pos hrange

/-- The parts of an instant's text. -/
lemma toList_text (t : Instant) :
    t.text.toList = (yearText (Date.ofDays t.day).year).toList ++ '-' ::
      ((zeroPad 2 (Date.ofDays t.day).month).toList ++ '-' ::
        ((zeroPad 2 (Date.ofDays t.day).day).toList ++ 'T' ::
          ((zeroPad 2 (t.secondOfDay.toNat / 3600)).toList ++ ':' ::
            ((zeroPad 2 (t.secondOfDay.toNat / 60 % 60)).toList ++ ':' ::
              ((zeroPad 2 (t.secondOfDay.toNat % 60 + if t.isLeap then 1 else 0)).toList ++
                (t.fractionText.toList ++ ['Z'])))))) := by
  have hminus : ("-" : String).toList = ['-'] := rfl
  have hcolon : (":" : String).toList = [':'] := rfl
  have htime : ("T" : String).toList = ['T'] := rfl
  have hzone : ("Z" : String).toList = ['Z'] := rfl
  unfold Instant.text Instant.exactText Date.text Instant.clockText
  simp only [String.toList_append, hminus, hcolon, htime, hzone, List.append_assoc,
    List.nil_append, List.cons_append]

/-- A part that has been read goes on to the next. -/
lemma bind_of_eq_some {α β : Type} {o : Option α} {a : α} (h : o = some a) {f : α → Option β} :
    (do let x ← o; f x) = f a := by
  rw [h]
  rfl

/-- A text is read part by part. -/
lemma ofChars?_parts (year : Int) {month day hour minute second nanos : Nat} {fraction : List Char}
    (hmonth : month < 100) (hday : day < 100) (hhour : hour < 100) (hminute : minute < 100)
    (hsecond : second < 100) (hfraction : takeFraction (fraction ++ ['Z']) = some (nanos, ['Z'])) :
    Instant.ofChars? ((yearText year).toList ++ '-' :: ((zeroPad 2 month).toList ++ '-' ::
      ((zeroPad 2 day).toList ++ 'T' :: ((zeroPad 2 hour).toList ++ ':' ::
        ((zeroPad 2 minute).toList ++ ':' :: ((zeroPad 2 second).toList ++
          (fraction ++ ['Z']))))))) =
      Instant.ofLocal? ⟨year, month, day⟩ hour minute second nanos 0 := by
  have hminus : isBlank '-' = false := by decide
  have hcolon : isBlank ':' = false := by decide
  refine (bind_of_eq_some (takeYear_yearText year _)).trans ?_
  refine (bind_of_eq_some (takeMark_cons hminus _)).trans ?_
  refine (bind_of_eq_some (takeField_zeroPad hmonth _)).trans ?_
  refine (bind_of_eq_some (takeMark_cons hminus _)).trans ?_
  refine (bind_of_eq_some (takeField_zeroPad hday _)).trans ?_
  refine (bind_of_eq_some rfl).trans ?_
  refine (bind_of_eq_some (takeField_zeroPad hhour _)).trans ?_
  refine (bind_of_eq_some (takeMark_cons hcolon _)).trans ?_
  refine (bind_of_eq_some (takeField_zeroPad hminute _)).trans ?_
  refine (bind_of_eq_some (takeMark_cons hcolon _)).trans ?_
  refine (bind_of_eq_some (takeField_zeroPad hsecond _)).trans ?_
  refine (bind_of_eq_some hfraction).trans ?_
  rfl

/-- A valid instant is read back from its text. -/
theorem ofText?_text {t : Instant} (h : t.Valid) : Instant.ofText? t.text = some t := by
  have hdate := exists_ofDays t.day
  have hlength : ∀ year month, monthLength year month ≤ 31 := by
    intro year month
    unfold monthLength
    split_ifs <;> decide
  have hmonthLength := hlength (Date.ofDays t.day).year (Date.ofDays t.day).month
  simp only [Date.exists, Bool.and_eq_true, decide_eq_true_eq] at hdate
  obtain ⟨-, hlt, -⟩ := seconds_eq t
  have hleap : (if t.isLeap then 1 else 0) ≤ 1 := by split_ifs <;> decide
  unfold Instant.ofText?
  rw [toList_text, ofChars?_parts _ (by omega) (by omega) (by omega) (by omega) (by omega)
    (takeFraction_fractionText t [])]
  exact ofLocal?_parts h

/-- A valid instant in a record is read back. -/
lemma reads_instant {t : Instant} (h : t.Valid) : Reads Instant.read (.text t.text) t := by
  intro cs rest s hcs hrest hs
  unfold Instant.read
  rw [reads_string t.text cs rest s hcs hrest hs]
  simp only [ofText?_text h]

end Retrial.Time
