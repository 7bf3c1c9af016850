import Retrial.Proofs.Json.Origins
import Retrial.Proofs.Time.Text

/-!
# Instants that have been read are valid

The reader of instants is lenient, but what it gives can always be written again: a fraction counts
less than a second, offsets are whole minutes, so that a leap second stays at the end of a minute,
and the day is checked after the offset has been taken off.
-/

namespace Retrial.Time

open Json

/-! ### Fractions and offsets -/

/-- A number of some digits lies below the power of ten of as many zeros. -/
lemma foldl_digits_lt {ds : List Char} (hds : Digits ds) (n : Nat) :
    ds.foldl (fun n c => n * 10 + (c.toNat - 48)) n < (n + 1) * 10 ^ ds.length := by
  induction ds generalizing n with
  | nil => simp
  | cons c ds ih =>
    obtain ⟨hc, hds⟩ := List.forall_mem_cons.mp hds
    have hdigit : c.toNat - 48 ≤ 9 := by
      simp only [Char.isDigit, Bool.and_eq_true, decide_eq_true_eq] at hc
      have hle : c.toNat ≤ 57 := hc.2
      omega
    have hstep : n * 10 + (c.toNat - 48) + 1 ≤ (n + 1) * 10 := by omega
    calc (c :: ds).foldl (fun n c => n * 10 + (c.toNat - 48)) n
        < (n * 10 + (c.toNat - 48) + 1) * 10 ^ ds.length := ih hds _
      _ ≤ (n + 1) * 10 * 10 ^ ds.length := Nat.mul_le_mul_right _ hstep
      _ = (n + 1) * 10 ^ (c :: ds).length := by
        rw [List.length_cons, Nat.pow_succ', Nat.mul_assoc]

/-- The digits among the first characters are the first digits. -/
lemma length_takeWhile_take (p : Char → Bool) (width : Nat) (s : List Char) :
    ((s.take width).takeWhile p).length = min width (s.takeWhile p).length := by
  induction s generalizing width with
  | nil => simp
  | cons c s ih =>
    cases width with
    | zero => simp
    | succ width =>
      by_cases hc : p c = true
      · rw [List.take_succ_cons, List.takeWhile_cons_of_pos hc, List.takeWhile_cons_of_pos hc,
          List.length_cons, List.length_cons, ih]
        omega
      · rw [List.take_succ_cons, List.takeWhile_cons_of_neg hc, List.takeWhile_cons_of_neg hc]
        simp

/-- A number that is taken off has no more digits than there are, and no more than its width. -/
lemma lt_of_takeNumber {width n : Nat} {s rest : List Char}
    (h : takeNumber width s = some (n, rest)) :
    n < 10 ^ min width (s.takeWhile Char.isDigit).length := by
  unfold takeNumber at h
  simp only at h
  split_ifs at h
  obtain ⟨hn, -⟩ := Prod.mk.inj (Option.some.inj h)
  have hdigits : Digits ((s.take width).takeWhile Char.isDigit) :=
    fun c hc => List.mem_takeWhile_imp hc
  have hlt := foldl_digits_lt hdigits 0
  rw [length_takeWhile_take, Nat.zero_add, Nat.one_mul, hn] at hlt
  exact hlt

/-- A fraction counts less than a second. -/
lemma lt_of_takeFraction {n : Nat} {s rest : List Char}
    (h : takeFraction s = some (n, rest)) : n < nanosPerSecond := by
  unfold takeFraction at h
  split at h
  · rename_i s
    simp only at h
    split at h
    · cases h
    · rename_i m more hnumber
      obtain ⟨rfl, -⟩ := Prod.mk.inj (Option.some.inj h)
      have hlt := lt_of_takeNumber hnumber
      calc m * Nat.pow 10 (9 - min 9 (s.takeWhile Char.isDigit).length)
          < 10 ^ min 9 (s.takeWhile Char.isDigit).length *
              10 ^ (9 - min 9 (s.takeWhile Char.isDigit).length) :=
            Nat.mul_lt_mul_of_pos_right hlt (Nat.pow_pos (by decide))
        _ = 10 ^ 9 := by rw [← Nat.pow_add, Nat.add_sub_cancel' (Nat.min_le_left _ _)]
  · obtain ⟨rfl, -⟩ := Prod.mk.inj (Option.some.inj h)
    decide

/-- An offset is a whole number of minutes. -/
lemma emod_of_takeOffset {offset : Int} {s rest : List Char}
    (h : takeOffset s = some (offset, rest)) : offset % 60 = 0 := by
  unfold takeOffset at h
  split at h
  · cases h
  · rename_i c s
    simp only at h
    generalize (if c == '+' then some 1 else if c == '-' || c == Char.ofNat 0x2212 then some (-1)
      else none : Option Int) = sign? at h
    split_ifs at h
    · obtain ⟨rfl, -⟩ := Prod.mk.inj (Option.some.inj h)
      rfl
    · obtain ⟨rfl, -⟩ := Prod.mk.inj (Option.some.inj h)
      rfl
    · split at h
      · split at h
        · split_ifs at h
          obtain ⟨rfl, -⟩ := Prod.mk.inj (Option.some.inj h)
          exact Int.emod_eq_zero_of_dvd (Dvd.dvd.mul_left (by omega) _)
        · cases h
      · cases h

/-! ### Instants -/

/-- A date and a time of day with a fraction below a second and an offset of whole minutes make a
valid instant, if any. -/
lemma valid_of_ofLocal? {date : Date} {hour minute second nanos : Nat} {offset : Int} {t : Instant}
    (h : Instant.ofLocal? date hour minute second nanos offset = some t)
    (hnanos : nanos < nanosPerSecond) (hoffset : offset % 60 = 0) : t.Valid := by
  unfold Instant.ofLocal? at h
  simp only at h
  split_ifs at h with hparts hleap hrange hrange
  · obtain rfl := Option.some.inj h
    refine ⟨hrange, ?_, fun _ => ?_⟩
    · simp only
      omega
    · simp only [secondsPerDay]
      omega
  · obtain rfl := Option.some.inj h
    refine ⟨hrange, ?_, fun hisLeap => ?_⟩
    · simp only
      omega
    · simp only [Instant.isLeap, decide_eq_true_eq] at hisLeap
      omega

/-- What a chain of steps gives, its first step and the rest have given. -/
lemma exists_of_bind_eq_some {α β : Type} {o : Option α} {f : α → Option β} {b : β}
    (h : (do let x ← o; f x) = some b) : ∃ a, o = some a ∧ f a = some b :=
  Option.bind_eq_some_iff.mp h

/-- A time of day after a date makes a valid instant, if any. -/
lemma valid_of_timeOfDay {date : Date} {s : List Char} {t : Instant}
    (h : (do
      let (hour, s) ← takeField s
      let s ← takeMark ':' s
      let (minute, s) ← takeField s
      let s ← takeMark ':' s
      let (second, s) ← takeField s
      let (nanos, s) ← takeFraction s
      let (offset, s) ← takeOffset (dropBlanks s)
      if (dropBlanks s).isEmpty then Instant.ofLocal? date hour minute second nanos offset
      else none) = some t) : t.Valid := by
  obtain ⟨⟨hour, s⟩, -, h⟩ := exists_of_bind_eq_some h
  obtain ⟨s, -, h⟩ := exists_of_bind_eq_some h
  obtain ⟨⟨minute, s⟩, -, h⟩ := exists_of_bind_eq_some h
  obtain ⟨s, -, h⟩ := exists_of_bind_eq_some h
  obtain ⟨⟨second, s⟩, -, h⟩ := exists_of_bind_eq_some h
  obtain ⟨⟨nanos, s⟩, hnanos, h⟩ := exists_of_bind_eq_some h
  obtain ⟨⟨offset, s⟩, hoffset, h⟩ := exists_of_bind_eq_some h
  simp only at h
  split_ifs at h
  exact valid_of_ofLocal? h (lt_of_takeFraction hnanos) (emod_of_takeOffset hoffset)

/-- An instant that has been read is valid. -/
theorem valid_of_ofChars? {s : List Char} {t : Instant} (h : Instant.ofChars? s = some t) :
    t.Valid := by
  unfold Instant.ofChars? at h
  obtain ⟨⟨year, s⟩, -, h⟩ := exists_of_bind_eq_some h
  obtain ⟨s, -, h⟩ := exists_of_bind_eq_some h
  obtain ⟨⟨month, s⟩, -, h⟩ := exists_of_bind_eq_some h
  obtain ⟨s, -, h⟩ := exists_of_bind_eq_some h
  obtain ⟨⟨day, s⟩, -, h⟩ := exists_of_bind_eq_some h
  simp only at h
  -- one separator stands between the day and the time of day
  split at h
  · split_ifs at h
    · exact valid_of_timeOfDay h
    · cases h
  · cases h

/-- An instant that has been read from a record is valid. -/
lemma valid_of_gives {t : Instant} (h : Json.Gives Instant.read t) : t.Valid := by
  obtain ⟨s, rest, h⟩ := h
  unfold Instant.read at h
  split at h
  · cases h
  · split at h
    · rename_i t' htext
      cases h
      exact valid_of_ofChars? htext
    · cases h

end Retrial.Time
