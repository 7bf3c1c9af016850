import Mathlib
import Retrial.Time.Instant

/-!
# The order of instants

Instants stand in a linear order: by their seconds, and in the same second by their nanoseconds.
More days back lead to an earlier instant (`Instant.daysBack_le`), and the only reason why there is
none so many days earlier is that its day lies outside of those that times can lie in
(`Instant.minusDays?_eq`): the bound on spans is wider than the calendar.
-/

namespace Retrial.Time.Instant

variable {a b c t : Instant} {days days' : Int}

/-- The order in numbers. -/
lemma le_iff :
    a.le b = true ↔ a.seconds < b.seconds ∨ a.seconds = b.seconds ∧ a.nanos ≤ b.nanos := by
  simp [le]

/-- No instant is later than a later one. -/
lemma le_trans (hab : a.le b = true) (hbc : b.le c = true) : a.le c = true := by
  rw [le_iff] at hab hbc ⊢
  omega

/-- Of two instants one is not later than the other. -/
lemma le_total (a b : Instant) : a.le b = true ∨ b.le a = true := by
  rw [le_iff, le_iff]
  omega

/-- Instants of which neither is later are the same. -/
lemma le_antisymm (hab : a.le b = true) (hba : b.le a = true) : a = b := by
  rw [le_iff] at hab hba
  have hseconds : a.seconds = b.seconds := by omega
  have hnanos : a.nanos = b.nanos := by omega
  cases a
  cases b
  congr

/-- No instant lies on a later day than a later one. -/
lemma day_le (hab : a.le b = true) : a.day ≤ b.day := by
  rw [le_iff] at hab
  unfold day secondsPerDay
  omega

/-- The instants in range are those between the first and the last day. -/
lemma inRange_iff : t.inRange = true ↔ minDay ≤ t.day ∧ t.day ≤ maxDay := by
  simp [inRange]

/-- The earliest instant is the earliest of those in range. -/
lemma earliest_le (h : t.inRange = true) : earliest.le t = true := by
  obtain ⟨hfirst, -⟩ := inRange_iff.mp h
  rw [le_iff]
  unfold earliest
  unfold day at hfirst
  simp only [secondsPerDay] at hfirst ⊢
  omega

/-! ### Days back -/

/-- The instant from which days are counted: out of a leap second it goes to the side moved to. -/
def besideLeap (t : Instant) (days : Int) : Instant :=
  if t.isLeap && days != 0 then
    ⟨if 0 < days then t.seconds + 1 else t.seconds, t.nanos - nanosPerSecond⟩
  else t

/-- What would be the instant a number of days earlier if times could lie on any day. -/
def daysBack (t : Instant) (days : Int) : Instant :=
  ⟨(t.besideLeap days).seconds - days * secondsPerDay, (t.besideLeap days).nanos⟩

/-- The side moved to is at most a second away. -/
lemma besideLeap_seconds (t : Instant) (days : Int) :
    t.seconds ≤ (t.besideLeap days).seconds ∧
      (t.besideLeap days).seconds ≤ t.seconds + if 0 < days then 1 else 0 := by
  unfold besideLeap
  split_ifs
  · exact ⟨Int.le_add_one (Int.le_refl _), Int.le_refl _⟩
  · exact ⟨Int.le_refl _, by simp⟩
  all_goals omega

/-- More days back lead to an earlier instant, also from within a leap second. -/
lemma daysBack_le (t : Instant) (h : days ≤ days') :
    (t.daysBack days').le (t.daysBack days) = true := by
  rw [le_iff]
  obtain rfl | hlt := h.eq_or_lt
  · exact Or.inr ⟨rfl, Nat.le_refl _⟩
  · obtain ⟨hlow, -⟩ := besideLeap_seconds t days
    obtain ⟨-, hhigh⟩ := besideLeap_seconds t days'
    unfold daysBack secondsPerDay
    simp only
    split_ifs at hhigh
    all_goals omega

/-- There is an instant a number of days earlier exactly if its day is one that times can lie on. -/
lemma minusDays?_eq (h : t.inRange = true) (days : Int) :
    t.minusDays? days =
      if (t.daysBack days).inRange then some (t.daysBack days) else none := by
  have hspan : t.minusDays? days =
      if maxSpan < days * secondsPerDay || days * secondsPerDay < -maxSpan then none
      else if (t.daysBack days).inRange then some (t.daysBack days) else none := rfl
  rw [hspan]
  split_ifs with hlong hin
  · -- so long a span leads beyond the calendar
    have hfirst : minDay = -96465292 := by decide
    have hlast : maxDay = 95026236 := by decide
    obtain ⟨hlow, hhigh⟩ := besideLeap_seconds t days
    rw [inRange_iff] at h hin
    unfold day at h hin
    unfold daysBack at hin
    rw [Bool.or_eq_true, decide_eq_true_eq, decide_eq_true_eq] at hlong
    simp only [secondsPerDay, maxSpan] at hlong h hin
    split_ifs at hhigh
    all_goals omega
  all_goals rfl

end Retrial.Time.Instant
