import Retrial.Proofs.Statistics.Ranking
import Retrial.Report.Basic

/-!
# Bars in the table of statistics

Each of the tests that failed most often has a bar, filled in proportion to its count.  The cells of
a bar are worked out in words of 64 bits, where a product can be too large, a divisor zero, and a
difference below zero (`Report.barCells?`).  None of this happens (`Report.barCells?_eq`): the
greatest count is taken from the first entry of a ranking, so that no count is above it, and it is
never zero.

So the table of any statistics is what it should be (`Report.statistics_bars`): bars of one width,
the first one full, and none longer than the one above it.
-/

namespace Retrial

open Text

namespace Report

/-! ### Bars in words of 64 bits -/

/-- A product of words, if it is a word. -/
def wordProduct? (a b : Nat) : Option Nat := if a * b < 2 ^ 64 then some (a * b) else none

/-- A quotient of words, if it is defined. -/
def wordQuotient? (a b : Nat) : Option Nat := if b = 0 then none else some (a / b)

/-- A difference of words, if it is a word. -/
def wordDifference? (a b : Nat) : Option Nat := if b ≤ a then some (a - b) else none

/-- The filled and the empty cells of a bar, worked out in words. -/
def barCells? (count greatest : Nat) : Option (Nat × Nat) := do
  let product ← wordProduct? count barWidth
  let filled ← wordQuotient? product greatest
  let empty ← wordDifference? barWidth filled
  return (filled, empty)

/-- Cells as a text. -/
def cellsText (cells : Nat × Nat) : String :=
  String.ofList (List.replicate cells.1 '█' ++ List.replicate cells.2 '░')

/-- The line of a test with the cells of its bar. -/
def barLine (e : String × Nat) (cells : Nat × Nat) : String :=
  " " ++ padEnd 30 e.1 ++ " " ++ cellsText cells ++ " " ++ toString e.2 ++ "\n"

variable {count count' greatest top : Nat} {s : Statistics} {e : String × Nat}
  {entries : List (String × Nat)}

/-- No more is filled than there is. -/
lemma barFill_le (h : count ≤ greatest) : barFill count greatest ≤ barWidth :=
  Nat.div_le_of_le_mul (Nat.mul_le_mul_right barWidth h)

/-- A smaller count does not fill more. -/
lemma barFill_mono (h : count ≤ count') : barFill count greatest ≤ barFill count' greatest :=
  Nat.div_le_div_right (Nat.mul_le_mul_right barWidth h)

/-- The greatest count fills all of its bar. -/
lemma barFill_self (h : 0 < count) : barFill count count = barWidth := Nat.mul_div_cancel_left _ h

/-- The cells of a bar can be worked out if its count is small enough for the product, and not
above the greatest one. -/
lemma barCells?_eq (hcount : count ≤ (2 ^ 64 - 1) / barWidth) (hpos : 0 < greatest)
    (hle : count ≤ greatest) :
    barCells? count greatest =
      some (barFill count greatest, barWidth - barFill count greatest) := by
  have hproduct : wordProduct? count barWidth = some (count * barWidth) := by
    refine if_pos ?_
    have hmul := (Nat.le_div_iff_mul_le (by decide)).mp hcount
    omega
  have hquotient : wordQuotient? (count * barWidth) greatest = some (barFill count greatest) :=
    if_neg hpos.ne'
  have hdifference : wordDifference? barWidth (barFill count greatest) =
      some (barWidth - barFill count greatest) := if_pos (barFill_le hle)
  unfold barCells?
  rw [hproduct, Option.bind_eq_bind, Option.bind_some, hquotient, Option.bind_some, hdifference]
  rfl

/-! ### Counts in the order of the ranking -/

/-- The greatest count is not zero. -/
lemma greatestCount_pos (entries : List (String × Nat)) : 0 < greatestCount entries := by
  cases entries with
  | nil => exact Nat.one_pos
  | cons e es => exact Nat.lt_of_lt_of_le Nat.one_pos (Nat.le_max_right _ _)

/-- In entries whose counts go down the greatest count is not below any. -/
lemma le_greatestCount (h : entries.Pairwise fun a b => b.2 ≤ a.2) (he : e ∈ entries) :
    e.2 ≤ greatestCount entries := by
  cases entries with
  | nil => cases he
  | cons first rest =>
    refine Nat.le_trans ?_ (Nat.le_max_left _ _)
    obtain rfl | he := List.mem_cons.mp he
    · exact Nat.le_refl _
    · exact List.rel_of_pairwise_cons h he

/-- The counts of the tests that failed most often go down. -/
lemma topFailing_counts (s : Statistics) (top : Nat) :
    (s.topFailing top).Pairwise fun a b => b.2 ≤ a.2 := by
  have hsorted := (Statistics.ranking_sorted s.failuresByTest).sublist (List.take_sublist top _)
  refine hsorted.imp fun {a b} (h : Statistics.Above a b) => ?_
  unfold Statistics.Above at h
  omega

/-- The tests that failed most often are counted. -/
lemma get?_of_mem_topFailing (he : e ∈ s.topFailing top) :
    s.failuresByTest.get? e.1 = some e.2 :=
  Statistics.mem_ranking.mp (List.mem_of_mem_take he)

/-! ### The table -/

/-- The lines of the tests, with the cells of their bars. -/
lemma failingLines_eq (entries : List (String × Nat)) :
    failingLines entries = entries.map fun e => barLine e
      (barFill e.2 (greatestCount entries), barWidth - barFill e.2 (greatestCount entries)) := rfl

/-- The table of statistics ends with the lines of the tests that failed most often. -/
lemma exists_statisticsTable_eq (r : Report) (s : Statistics) (top : Nat) :
    ∃ head, r.statisticsTable s top = head ++ String.join (failingLines (s.topFailing top)) := by
  unfold statisticsTable
  cases hfailing : s.topFailing top with
  | nil => exact ⟨_, rfl⟩
  | cons e es =>
    simp only [List.isEmpty_cons, Bool.false_eq_true, if_false]
    rw [← String.append_assoc, ← String.append_assoc]
    exact ⟨_, rfl⟩

/-- The table of statistics ends with a line for each of the tests that failed most often, in their
order.  The cells of its bar can be worked out in words of 64 bits, if the counts are small enough
for the product, and are as many for every bar; no bar has more filled cells than the one above it,
and the first one is filled completely unless its count is zero. -/
theorem statistics_bars (s : Statistics) (top : Nat) (colored : Bool)
    (hcounts : ∀ id count, s.failuresByTest.get? id = some count → count ≤ (2 ^ 64 - 1) / 20) :
    ∃ (head : String) (cells : List (Nat × Nat)),
      (Report.mk .table colored).statistics s top =
          head ++ String.join (List.zipWith barLine (s.topFailing top) cells) ∧
        List.Forall₂ (fun e c => barCells? e.2 (greatestCount (s.topFailing top)) = some c ∧
          (cellsText c).length = 20) (s.topFailing top) cells ∧
        cells.Pairwise (fun above below => below.1 ≤ above.1) ∧
        ∀ e ∈ (s.topFailing top).head?, ∀ c ∈ cells.head?, (c = (20, 0) ↔ e.2 ≠ 0) := by
  obtain ⟨head, htable⟩ := exists_statisticsTable_eq ⟨.table, colored⟩ s top
  have hdown := topFailing_counts s top
  generalize hentries : s.topFailing top = entries at htable hdown
  let cellsOf (e : String × Nat) : Nat × Nat :=
    (barFill e.2 (greatestCount entries), barWidth - barFill e.2 (greatestCount entries))
  refine ⟨head, entries.map cellsOf, ?_, ?_, ?_, ?_⟩
  · rw [List.zipWith_map_right, List.zipWith_self, ← failingLines_eq]
    exact htable
  · rw [List.forall₂_map_right_iff]
    refine List.forall₂_same.mpr fun e he => ?_
    have hle := le_greatestCount hdown he
    have hcount := hcounts e.1 e.2 (get?_of_mem_topFailing (hentries ▸ he))
    refine ⟨barCells?_eq hcount (greatestCount_pos entries) hle, ?_⟩
    have hfill : barFill e.2 (greatestCount entries) ≤ 20 := barFill_le hle
    simp only [cellsText, cellsOf, String.length_ofList, List.length_append, List.length_replicate]
    exact Nat.add_sub_of_le hfill
  · exact List.pairwise_map.mpr (hdown.imp fun h => barFill_mono h)
  · intro e he c hc
    obtain ⟨rest, rfl⟩ : ∃ rest, entries = e :: rest := by
      cases entries with
      | nil => cases he
      | cons first rest => exact ⟨rest, by rw [Option.some.inj he]⟩
    obtain rfl : cellsOf e = c := Option.some.inj hc
    have hgreatest : greatestCount (e :: rest) = max e.2 1 := rfl
    simp only [cellsOf, hgreatest]
    by_cases hzero : e.2 = 0
    · simp [hzero, barFill, barWidth]
    · rw [Nat.max_eq_left (by omega), barFill_self (by omega)]
      simp [hzero, barWidth]

/-- Counts of three tests, of which one is counted without failures. -/
def someCounts : Statistics :=
  { Statistics.start 7 ⟨0, 0⟩ with failuresByTest :=
    ((Dict.empty.insert "search" 2).insert "logout" 0).insert "cart" 3 }

/-- The bars of three tests: a full one, one of two thirds, and an empty one. -/
theorem statistics_bars_threeTests :
    (∀ id count, someCounts.failuresByTest.get? id = some count → count ≤ (2 ^ 64 - 1) / 20) ∧
      ∃ head, (Report.mk .table false).statistics someCounts 3 =
        head ++ String.join [barLine ("cart", 3) (20, 0), barLine ("search", 2) (13, 7),
          barLine ("logout", 0) (0, 20)] := by
  have hcounts : ∀ id count, someCounts.failuresByTest.get? id = some count →
      count ≤ (2 ^ 64 - 1) / 20 := by
    intro id count hget
    have hmem := Dict.mem_entries.mpr hget
    have hall : ∀ e ∈ someCounts.failuresByTest.entries, e.2 ≤ (2 ^ 64 - 1) / 20 := by decide
    exact hall _ hmem
  have htop : someCounts.topFailing 3 = [("cart", 3), ("search", 2), ("logout", 0)] := by cbv
  obtain ⟨head, cells, htable, hcells, -⟩ := statistics_bars someCounts 3 false hcounts
  rw [htop] at htable hcells
  obtain _ | ⟨⟨hfirst, -⟩, hcells⟩ := hcells
  obtain _ | ⟨⟨hsecond, -⟩, hcells⟩ := hcells
  obtain _ | ⟨⟨hthird, -⟩, hcells⟩ := hcells
  obtain _ := hcells
  obtain rfl := Option.some.inj hfirst
  obtain rfl := Option.some.inj hsecond
  obtain rfl := Option.some.inj hthird
  exact ⟨hcounts, head, htable⟩

end Report

end Retrial
