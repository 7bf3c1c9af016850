import Mathlib
import Retrial.Collection.Dict

/-!
# Dictionaries by their entries

A dictionary lists each of its keys once, so a look-up finds exactly the entries of the list, and
the entries, put one by one into the empty dictionary, make up the dictionary again: an entry whose
key is beyond all others goes to the end.
-/

namespace Retrial

namespace Dict

variable {α : Type} {d : Dict α} {k : String} {v : α}

/-- Each key is listed once. -/
lemma nodup_keys (d : Dict α) : d.keys.Nodup := by
  refine List.Pairwise.map _ (fun a b hab heq => ?_) d.sorted
  exact absurd (heq ▸ hab : b.1 < b.1) (String.lt_irrefl _)

/-- The keys are those that something is found under. -/
lemma mem_keys : k ∈ d.keys ↔ (d.get? k).isSome = true := by
  have hnone : d.get? k = none ↔ k ∉ d.keys := by
    unfold get? keys
    rw [List.lookup_eq_none_iff]
    simp only [List.mem_map, not_exists, not_and, bne_iff_ne, ne_eq]
    exact ⟨fun h e he heq => h e he heq.symm, fun h e he heq => h e he heq.symm⟩
  rw [Option.isSome_iff_ne_none, ne_eq, hnone, not_not]

/-- There are as many entries as keys. -/
lemma length_keys (d : Dict α) : d.keys.length = d.size := List.length_map _

/-- The entries are what is found. -/
lemma mem_entries : (k, v) ∈ d.entries ↔ d.get? k = some v := by
  refine ⟨fun hmem => ?_, fun hget => ?_⟩
  · obtain ⟨before, after, hsplit⟩ := List.append_of_mem hmem
    refine List.lookup_eq_some_iff.mpr ⟨before, after, hsplit, fun e he => ?_⟩
    have hsorted := d.sorted
    rw [hsplit] at hsorted
    have hlt : e.1 < k := (List.pairwise_append.mp hsorted).2.2 e he (k, v) List.mem_cons_self
    have hne : k ≠ e.1 := fun heq => String.lt_irrefl k (heq ▸ hlt)
    simpa using hne
  · obtain ⟨before, after, hsplit, -⟩ := List.lookup_eq_some_iff.mp hget
    simp [hsplit]

/-- Dictionaries in which the same is found are the same. -/
lemma ext_get? {d d' : Dict α} (h : ∀ k, d.get? k = d'.get? k) : d = d' := by
  have hperm : d.entries.Perm d'.entries := by
    have hnodup (d : Dict α) : d.entries.Nodup := List.Nodup.of_map _ d.nodup_keys
    refine (List.perm_ext_iff_of_nodup (hnodup d) (hnodup d')).mpr ?_
    rintro ⟨k, v⟩
    rw [mem_entries, mem_entries, h k]
  have hentries : d.entries = d'.entries :=
    hperm.eq_of_pairwise
      (fun a b _ _ hab hba => absurd (String.lt_trans hab hba) (String.lt_irrefl a.1))
      d.sorted d'.sorted
  cases d
  cases d'
  congr 1

/-- The dictionary with each content changed in the same way. -/
def mapValues (f : α → α) (d : Dict α) : Dict α where
  entries := d.entries.map fun e => (e.1, f e.2)
  sorted := List.pairwise_map.mpr d.sorted

/-- Changing nothing changes nothing. -/
lemma mapValues_id (d : Dict α) : d.mapValues id = d := by
  cases d with
  | mk es hsorted =>
    unfold mapValues
    congr 1
    exact List.map_id es

/-- What is found has been changed. -/
lemma get?_mapValues (f : α → α) (d : Dict α) (k : String) :
    (d.mapValues f).get? k = (d.get? k).map f := by
  cases d with
  | mk es hsorted =>
    unfold mapValues get?
    simp only
    clear hsorted
    induction es with
    | nil => rfl
    | cons e es ih =>
      rw [List.map_cons, List.lookup_cons, List.lookup_cons]
      cases hk : k == e.1 with
      | true => rfl
      | false => exact ih

/-- A dictionary in which something is found is not empty. -/
lemma size_pos_of_contains (h : d.contains k = true) : 0 < d.size := by
  rw [← length_keys]
  exact List.length_pos_of_mem (mem_keys.mpr h)

/-- A key beyond all others goes to the end. -/
lemma insertEntry_of_forall_lt {es : List (String × α)} (h : ∀ e ∈ es, e.1 < k) :
    insertEntry k v es = es ++ [(k, v)] := by
  induction es with
  | nil => rfl
  | cons e es ih =>
    obtain ⟨he, hes⟩ := List.forall_mem_cons.mp h
    have hnlt : ¬k < e.1 := fun hk => String.lt_irrefl _ (String.lt_trans hk he)
    have hne : k ≠ e.1 := fun heq => String.lt_irrefl _ (heq ▸ he : e.1 < e.1)
    rw [insertEntry, if_neg hnlt, if_neg hne, ih hes, List.cons_append]

/-- Entries beyond all those of a dictionary are put in after them. -/
lemma entries_foldl_insert (es : List (String × α)) (d : Dict α)
    (h : (d.entries ++ es).Pairwise fun a b => a.1 < b.1) :
    (es.foldl (fun acc e => acc.insert e.1 e.2) d).entries = d.entries ++ es := by
  induction es generalizing d with
  | nil => simp
  | cons e es ih =>
    have hbelow : ∀ a ∈ d.entries, a.1 < e.1 := fun a ha =>
      (List.pairwise_append.mp h).2.2 a ha e List.mem_cons_self
    have hput : (d.insert e.1 e.2).entries = d.entries ++ [e] := insertEntry_of_forall_lt hbelow
    have hrest : ((d.insert e.1 e.2).entries ++ es).Pairwise fun a b => a.1 < b.1 := by
      rw [hput, List.append_assoc]
      exact h
    rw [List.foldl_cons, ih _ hrest, hput, List.append_assoc, List.singleton_append]

/-- The entries of a dictionary, put in one by one, make it up again. -/
lemma foldl_insert_entries (d : Dict α) :
    d.entries.foldl (fun acc e => acc.insert e.1 e.2) empty = d := by
  have hes := entries_foldl_insert d.entries empty d.sorted
  cases h : d.entries.foldl (fun acc e => acc.insert e.1 e.2) empty with
  | mk es hsorted =>
    cases d with
    | mk es' hsorted' =>
      rw [h] at hes
      congr 1

end Dict

namespace NameSet

/-- Adding a name to a set adds this name only. -/
lemma contains_add (s : NameSet) (name other : String) :
    (s.add name).contains other = true ↔ other = name ∨ s.contains other = true := by
  unfold NameSet.add Dict.contains
  rw [Dict.get?_insert]
  split <;> simp_all

/-- The set of one name. -/
lemma contains_single (name other : String) :
    (NameSet.single name).contains other = true ↔ other = name := by
  rw [NameSet.single, contains_add]
  simp [Dict.contains]

end NameSet

end Retrial
