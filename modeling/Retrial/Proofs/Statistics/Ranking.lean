import Retrial.Proofs.Collection.Dict
import Retrial.Statistics

/-!
# The tests that failed most often

Tests are ranked by their failures, those with as many by their names, so that no two stand in the
same place and there is one ranking only (`Statistics.ranking_sorted`).  The tests that failed most
often are its first entries.  They are the only list of so many entries, or of all, that stands in
the order of the ranking and above everything it leaves out (`Statistics.Leads.eq_take`).
-/

namespace Retrial

namespace Statistics

variable {a b c : String × Nat} {d : Dict Nat} {n : Nat} {top : List (String × Nat)}

/-- An entry stands above another: it counts more failures, or as many and its name is first. -/
def Above (a b : String × Nat) : Prop := b.2 < a.2 ∨ a.2 = b.2 ∧ a.1 < b.1

/-- All entries of a dictionary in the order of their ranks. -/
def ranking (d : Dict Nat) : List (String × Nat) := d.entries.mergeSort ranksBefore

/-- A list of entries of a dictionary leads all others: it holds so many, or all, each once and in
the order of the ranking, and they stand above those that are left out. -/
structure Leads (d : Dict Nat) (n : Nat) (top : List (String × Nat)) : Prop where
  length : top.length = min n d.size
  listed : ∀ e ∈ top, d.get? e.1 = some e.2
  nodup : (top.map Prod.fst).Nodup
  sorted : top.Pairwise Above
  above : ∀ id count, d.get? id = some count → (id, count) ∉ top → ∀ e ∈ top, Above e (id, count)

/-! ### The order of entries -/

/-- The order in numbers and names. -/
lemma ranksBefore_iff : ranksBefore a b = true ↔ b.2 < a.2 ∨ a.2 = b.2 ∧ a.1 ≤ b.1 := by
  simp [ranksBefore]

/-- What ranks before an entry ranks before those that this one ranks before. -/
lemma ranksBefore_trans (hab : ranksBefore a b = true) (hbc : ranksBefore b c = true) :
    ranksBefore a c = true := by
  rw [ranksBefore_iff] at hab hbc ⊢
  obtain hab | ⟨hab, hnames⟩ := hab
  · exact Or.inl (by omega)
  · obtain hbc | ⟨hbc, hnames'⟩ := hbc
    · exact Or.inl (by omega)
    · exact Or.inr ⟨hab.trans hbc, hnames.trans hnames'⟩

/-- Of two entries one ranks before the other. -/
lemma ranksBefore_total (a b : String × Nat) : (ranksBefore a b || ranksBefore b a) = true := by
  rw [Bool.or_eq_true, ranksBefore_iff, ranksBefore_iff]
  obtain hlt | heq | hgt := Nat.lt_trichotomy a.2 b.2
  · exact Or.inr (Or.inl hlt)
  · exact (le_total a.1 b.1).imp (fun h => Or.inr ⟨heq, h⟩) fun h => Or.inr ⟨heq.symm, h⟩
  · exact Or.inl (Or.inl hgt)

/-- Entries that rank before each other are the same. -/
lemma ranksBefore_antisymm (hab : ranksBefore a b = true) (hba : ranksBefore b a = true) :
    a = b := by
  rw [ranksBefore_iff] at hab hba
  have hcount : a.2 = b.2 := by omega
  have hname : a.1 = b.1 := by
    obtain hab | ⟨-, hab⟩ := hab
    · omega
    · obtain hba | ⟨-, hba⟩ := hba
      · omega
      · exact le_antisymm hab hba
  exact Prod.ext hname hcount

/-- What ranks before an entry under another name stands above it. -/
lemma above_of_ranksBefore (h : ranksBefore a b = true) (hne : a.1 ≠ b.1) : Above a b := by
  rw [ranksBefore_iff] at h
  exact h.imp id fun ⟨hcount, hname⟩ => ⟨hcount, lt_of_le_of_ne hname hne⟩

/-- No entry stands above itself. -/
lemma not_above_self (a : String × Nat) : ¬Above a a := by
  unfold Above
  simp

/-- Of two entries only one stands above the other. -/
lemma Above.asymm (h : Above a b) : ¬Above b a := by
  unfold Above at h ⊢
  rintro (hlt | ⟨heq, hname⟩)
  · omega
  · obtain hlt | ⟨-, hname'⟩ := h
    · omega
    · exact lt_asymm hname hname'

/-- A list in the order of the ranking holds each entry once. -/
lemma nodup_of_sorted {l : List (String × Nat)} (h : l.Pairwise Above) : l.Nodup :=
  h.imp fun {a b} (hab : Above a b) (heq : a = b) => not_above_self b (heq ▸ hab)

/-- Lists in the order of the ranking that hold the same entries are the same. -/
lemma eq_of_perm_of_sorted {l l' : List (String × Nat)} (h : l.Perm l') (hl : l.Pairwise Above)
    (hl' : l'.Pairwise Above) : l = l' :=
  h.eq_of_pairwise (fun _ _ _ _ hab hba => absurd hba hab.asymm) hl hl'

/-! ### The ranking -/

/-- Sorting puts entries in the order of their ranks. -/
lemma pairwise_mergeSort_ranksBefore (es : List (String × Nat)) :
    (es.mergeSort ranksBefore).Pairwise fun a b => ranksBefore a b = true :=
  @List.pairwise_mergeSort _ ranksBefore (fun _ _ _ => ranksBefore_trans) ranksBefore_total es

/-- The ranking holds the entries of the dictionary. -/
lemma mem_ranking {e : String × Nat} : e ∈ ranking d ↔ d.get? e.1 = some e.2 := by
  unfold ranking
  rw [List.mem_mergeSort]
  exact Dict.mem_entries

/-- Each name is ranked once. -/
lemma nodup_ranking (d : Dict Nat) : ((ranking d).map Prod.fst).Nodup :=
  ((List.mergeSort_perm d.entries ranksBefore).map Prod.fst).nodup_iff.mpr d.nodup_keys

/-- As many entries are ranked as there are. -/
lemma length_ranking (d : Dict Nat) : (ranking d).length = d.size := List.length_mergeSort _

/-- In the ranking each entry stands above those that come later. -/
lemma ranking_sorted (d : Dict Nat) : (ranking d).Pairwise Above := by
  have hranks : (ranking d).Pairwise fun a b => ranksBefore a b = true :=
    pairwise_mergeSort_ranksBefore d.entries
  have hnames : (ranking d).Pairwise fun a b => a.1 ≠ b.1 :=
    List.pairwise_map.mp (nodup_ranking d)
  exact (hranks.and hnames).imp fun h => above_of_ranksBefore h.1 h.2

/-- The ranking does not depend on the order in which the entries come. -/
lemma mergeSort_eq_ranking {es : List (String × Nat)} (h : es.Perm d.entries) :
    es.mergeSort ranksBefore = ranking d := by
  have hperm : (es.mergeSort ranksBefore).Perm (ranking d) :=
    (List.mergeSort_perm es _).trans (h.trans (List.mergeSort_perm d.entries _).symm)
  exact hperm.eq_of_pairwise (fun _ _ _ _ => ranksBefore_antisymm)
    (pairwise_mergeSort_ranksBefore es) (pairwise_mergeSort_ranksBefore d.entries)

/-! ### The first of the ranking -/

/-- The first entries of the ranking lead all others. -/
lemma leads_take_ranking (d : Dict Nat) (n : Nat) : Leads d n ((ranking d).take n) := by
  have hsub : ((ranking d).take n).Sublist (ranking d) := List.take_sublist _ _
  refine ⟨?_, fun e he => mem_ranking.mp (hsub.mem he), (nodup_ranking d).sublist (hsub.map _),
    (ranking_sorted d).sublist hsub, fun id count hget hout e he => ?_⟩
  · rw [List.length_take, length_ranking]
  · -- what is ranked but not among the first is among the rest
    have hranked : (id, count) ∈ (ranking d).take n ++ (ranking d).drop n := by
      rw [List.take_append_drop]
      exact mem_ranking.mpr hget
    have hsorted := ranking_sorted d
    rw [← List.take_append_drop n (ranking d), List.pairwise_append] at hsorted
    exact hsorted.2.2 e he _ ((List.mem_append.mp hranked).resolve_left hout)

/-- Only the first entries of the ranking lead all others. -/
lemma Leads.eq_take (h : Leads d n top) : (ranking d).take n = top := by
  let rest := (ranking d).filter fun e => e ∉ top
  have hsorted : (top ++ rest).Pairwise Above := by
    refine List.pairwise_append.mpr ⟨h.sorted, (ranking_sorted d).filter _, fun e he e' he' => ?_⟩
    obtain ⟨hranked, hout⟩ := List.mem_filter.mp he'
    exact h.above e'.1 e'.2 (mem_ranking.mp hranked) (by simpa using hout) e he
  have hperm : (ranking d).Perm (top ++ rest) := by
    refine (List.perm_ext_iff_of_nodup (nodup_of_sorted (ranking_sorted d))
      (nodup_of_sorted hsorted)).mpr fun e => ?_
    simp only [rest, List.mem_append, List.mem_filter, decide_eq_true_eq]
    constructor
    · intro hranked
      exact (em (e ∈ top)).imp id fun hout => ⟨hranked, hout⟩
    · rintro (hin | ⟨hranked, -⟩)
      · exact mem_ranking.mpr (h.listed e hin)
      · exact hranked
  have heq : ranking d = top ++ rest := eq_of_perm_of_sorted hperm (ranking_sorted d) hsorted
  have htake : (ranking d).take n = (ranking d).take top.length := by
    rw [List.take_eq_take_iff, length_ranking, h.length]
    omega
  rw [htake, heq, List.take_left]

/-- The tests that failed most often are the one list that leads all others.  Fewer of them are a
prefix of more, and they depend neither on the order in which the counts come nor on anything but
what is found under each name. -/
theorem topFailing_eq_iff (s : Statistics) (n : Nat) :
    (∀ top, s.topFailing n = top ↔ Leads s.failuresByTest n top) ∧
    (∀ m, n ≤ m → s.topFailing n <+: s.topFailing m) ∧
    (∀ es : List (String × Nat), es.Perm s.failuresByTest.entries →
      s.topFailing n = (es.mergeSort ranksBefore).take n) ∧
    ∀ t : Statistics, (∀ id, t.failuresByTest.get? id = s.failuresByTest.get? id) →
      t.topFailing n = s.topFailing n := by
  have htop (n : Nat) : s.topFailing n = (ranking s.failuresByTest).take n := rfl
  refine ⟨fun top => ⟨fun heq => ?_, fun hleads => ?_⟩, fun m hle => ?_, fun es hperm => ?_,
    fun t hget => ?_⟩
  · rw [← heq, htop]
    exact leads_take_ranking _ n
  · rw [htop]
    exact hleads.eq_take
  · rw [htop, htop, List.take_isPrefix_take]
    exact Or.inl hle
  · rw [mergeSort_eq_ranking hperm, htop]
  · unfold topFailing
    rw [Dict.ext_get? hget]

/-- Of tests that failed equally often the one with the first name is in, the other is out. -/
example :
    ({ start 7 ⟨0, 0⟩ with failuresByTest :=
      ((Dict.empty.insert "search" 2).insert "login" 2).insert "cart" 3 } :
      Statistics).topFailing 2 = [("cart", 3), ("login", 2)] := by
  cbv

end Statistics

end Retrial
