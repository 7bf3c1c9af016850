/-!
# Dictionaries

A dictionary holds its entries in increasing order of their keys, each key once. Keys are compared
as sequences of code points. Two dictionaries with the same look-ups are equal, so a dictionary is
the same value however it was built.

A set of names is a dictionary without content.
-/

namespace Retrial

/-- Entries in strictly increasing order of their keys. -/
structure Dict (α : Type) where
  entries : List (String × α)
  sorted : entries.Pairwise fun a b => a.1 < b.1

namespace Dict

variable {α β : Type}

/-- No entries. -/
def empty : Dict α := ⟨[], List.Pairwise.nil⟩

instance : Inhabited (Dict α) := ⟨empty⟩

instance [BEq α] : BEq (Dict α) := ⟨fun a b => a.entries == b.entries⟩

/-- The content under a key. -/
def get? (d : Dict α) (k : String) : Option α := d.entries.lookup k

/-- Whether there is an entry under a key. -/
def contains (d : Dict α) (k : String) : Bool := (d.get? k).isSome

/-- The number of entries. -/
def size (d : Dict α) : Nat := d.entries.length

/-- The keys, in increasing order. -/
def keys (d : Dict α) : List String := d.entries.map (·.1)

/-- The contents, in increasing order of their keys. -/
def values (d : Dict α) : List α := d.entries.map (·.2)

/-- Puts an entry in its place among sorted entries, instead of one under the same key. -/
def insertEntry (k : String) (v : α) : List (String × α) → List (String × α)
  | [] => [(k, v)]
  | e :: es =>
    if k < e.1 then (k, v) :: e :: es
    else if k = e.1 then (k, v) :: es
    else e :: insertEntry k v es

theorem mem_insertEntry {k : String} {v : α} {es : List (String × α)} {e : String × α}
    (h : e ∈ insertEntry k v es) : e = (k, v) ∨ e ∈ es := by
  induction es with
  | nil => simpa [insertEntry] using h
  | cons d ds ih =>
    unfold insertEntry at h
    split at h
    · simpa using h
    · split at h
      · rcases List.mem_cons.1 h with h | h
        · exact Or.inl h
        · exact Or.inr (List.mem_cons_of_mem _ h)
      · rcases List.mem_cons.1 h with h | h
        · exact Or.inr (h ▸ List.mem_cons_self)
        · exact (ih h).imp id (List.mem_cons_of_mem _)

theorem lt_of_not_lt_of_ne {a b : String} (h : ¬a < b) (hne : a ≠ b) : b < a := by
  rcases Decidable.em (b < a) with hb | hb
  · exact hb
  · exact absurd (String.le_antisymm (String.not_lt.1 hb) (String.not_lt.1 h)) hne

theorem sorted_insertEntry (k : String) (v : α) {es : List (String × α)}
    (h : es.Pairwise fun a b => a.1 < b.1) :
    (insertEntry k v es).Pairwise fun a b => a.1 < b.1 := by
  induction es with
  | nil => simp [insertEntry]
  | cons d ds ih =>
    rw [List.pairwise_cons] at h
    unfold insertEntry
    split
    · rename_i hlt
      refine List.pairwise_cons.2 ⟨?_, List.pairwise_cons.2 h⟩
      intro e he
      rcases List.mem_cons.1 he with rfl | he
      · exact hlt
      · exact String.lt_trans hlt (h.1 e he)
    · rename_i hlt
      split
      · rename_i heq
        exact List.pairwise_cons.2 ⟨fun e he => heq ▸ h.1 e he, h.2⟩
      · rename_i hne
        refine List.pairwise_cons.2 ⟨?_, ih h.2⟩
        intro e he
        rcases mem_insertEntry he with rfl | he
        · exact lt_of_not_lt_of_ne hlt hne
        · exact h.1 e he

/-- Sets the content under a key. -/
def insert (d : Dict α) (k : String) (v : α) : Dict α :=
  ⟨insertEntry k v d.entries, sorted_insertEntry k v d.sorted⟩

/-- Changes the content under a key, where there is one. -/
def modify (d : Dict α) (k : String) (f : α → α) : Dict α :=
  match d.get? k with
  | none => d
  | some v => d.insert k (f v)

/-- Sets the content under a key that has none yet. -/
def insertNew (d : Dict α) (k : String) (v : α) : Dict α :=
  if d.contains k then d else d.insert k v

theorem lookup_insertEntry (k k' : String) (v : α) (es : List (String × α)) :
    (insertEntry k v es).lookup k' = if k' = k then some v else es.lookup k' := by
  induction es with
  | nil =>
    by_cases h : k' = k
    · simp [insertEntry, h]
    · have : (k' == k) = false := by simpa using h
      simp [insertEntry, h, List.lookup_cons, this]
  | cons d ds ih =>
    obtain ⟨dk, dv⟩ := d
    unfold insertEntry
    split
    · by_cases h : k' = k
      · simp [h]
      · have : (k' == k) = false := by simpa using h
        simp [h, List.lookup_cons, this]
    · split
      · rename_i hk
        simp only at hk
        subst hk
        by_cases h : k' = k
        · simp [h]
        · have : (k' == k) = false := by simpa using h
          simp [h, List.lookup_cons, this]
      · rename_i hne
        simp only at hne
        by_cases h : k' = dk
        · subst h
          have : k' ≠ k := fun h' => hne h'.symm
          simp [this]
        · have h2 : (k' == dk) = false := by simpa using h
          simp [List.lookup_cons, h2, ih]

@[simp] theorem get?_empty (k : String) : (empty : Dict α).get? k = none := rfl

theorem get?_insert (d : Dict α) (k k' : String) (v : α) :
    (d.insert k v).get? k' = if k' = k then some v else d.get? k' :=
  lookup_insertEntry k k' v d.entries

@[simp] theorem get?_insert_self (d : Dict α) (k : String) (v : α) :
    (d.insert k v).get? k = some v := by simp [get?_insert]

theorem get?_insert_of_ne (d : Dict α) {k k' : String} (v : α) (h : k' ≠ k) :
    (d.insert k v).get? k' = d.get? k' := by simp [get?_insert, h]

theorem get?_modify (d : Dict α) (k k' : String) (f : α → α) :
    (d.modify k f).get? k' = if k' = k then (d.get? k).map f else d.get? k' := by
  unfold modify
  cases h : d.get? k with
  | none =>
    by_cases hk : k' = k
    · simp [hk, h]
    · simp [hk]
  | some v =>
    by_cases hk : k' = k
    · simp [hk]
    · simp [hk, get?_insert]

theorem get?_insertNew (d : Dict α) (k k' : String) (v : α) :
    (d.insertNew k v).get? k' = if k' = k then some ((d.get? k).getD v) else d.get? k' := by
  unfold insertNew contains
  cases h : d.get? k with
  | none =>
    by_cases hk : k' = k
    · simp [hk]
    · simp [hk, get?_insert]
  | some w =>
    by_cases hk : k' = k
    · simp [hk, h]
    · simp [hk]

end Dict

/-- A set of names. -/
abbrev NameSet : Type := Dict Unit

namespace NameSet

/-- The names in increasing order. -/
def toList (s : NameSet) : List String := s.keys

/-- The set with one more name. -/
def add (s : NameSet) (name : String) : NameSet := s.insert name ()

/-- The set of one name. -/
def single (name : String) : NameSet := add Dict.empty name

/-- The set of a list of names. -/
def ofList (names : List String) : NameSet := names.foldl add Dict.empty

end NameSet

end Retrial
