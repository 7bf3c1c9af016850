import Retrial.Collection.Dict
import Retrial.Proofs.Pool.Grouping

/-!
# The groups as a stable partition

Grouping cases by their services keeps two orders: the services stand as they first occur, and the
cases of each service stand as they do in the list.  Only one list of groups does so
(`ServiceGroup.Partitions.unique`), and if the cases of the groups are put one after another and
grouped again, the groups are the same.

The same groups come about where groups are never searched but found through an index, which says
in which place the group of a service stands.  An `IndexedGroups` cannot be built with an index that
names a wrong place, and what it is after some cases is what the list of groups is
(`IndexedGroups.groups_ofCases`).
-/

namespace Retrial

/-! ### First occurrences -/

section EraseDups

variable {α : Type} [DecidableEq α] {l l' : List α} {a : α}

/-- One more entry counts unless it occurs before. -/
lemma eraseDups_append_singleton (l : List α) (a : α) :
    (l ++ [a]).eraseDups = if a ∈ l then l.eraseDups else l.eraseDups ++ [a] := by
  rw [List.eraseDups_append, List.cons_removeAll, List.nil_removeAll]
  by_cases h : a ∈ l
  · simp [h]
  · simp [h, List.eraseDups_cons]

/-- Entries that do not occur before are counted by themselves. -/
lemma eraseDups_append_of_disjoint (h : l.Disjoint l') :
    (l ++ l').eraseDups = l.eraseDups ++ l'.eraseDups := by
  have hkept : l'.removeAll l = l' := by
    refine List.filter_eq_self.mpr fun a ha => ?_
    simpa using fun hal => h hal ha
  rw [List.eraseDups_append, hkept]

/-- Of equal entries one counts. -/
lemma eraseDups_of_forall_eq (hne : l ≠ []) (h : ∀ b ∈ l, b = a) : l.eraseDups = [a] := by
  cases l with
  | nil => exact absurd rfl hne
  | cons b l =>
    obtain ⟨rfl, hl⟩ := List.forall_mem_cons.mp h
    have hnone : l.filter (fun c => !c == b) = [] := by
      refine List.filter_eq_nil_iff.mpr fun c hc => ?_
      simp [hl c hc]
    rw [List.eraseDups_cons, hnone, List.eraseDups_nil]

end EraseDups

namespace ServiceGroup

variable {gs gs' : List ServiceGroup} {g g' : ServiceGroup} {cases : List Case} {c : Case}

/-! ### Partitions -/

/-- A list of groups is a stable partition of a list of cases. -/
structure Partitions (gs : List ServiceGroup) (cases : List Case) : Prop where
  /-- The services are those of the cases, each once, in the order in which they first occur. -/
  services : gs.map (fun g => g.service) = (cases.map fun c => c.service).eraseDups
  /-- A group holds the cases of its service, each as often as it occurs, in their order. -/
  cases_eq : ∀ g ∈ gs, g.cases = cases.filter fun c => c.service == g.service
  /-- No group is empty. -/
  nonempty : ∀ g ∈ gs, g.cases ≠ []
  /-- The groups together hold the cases of the list. -/
  perm : (gs.flatMap fun g => g.cases).Perm cases

/-- There is one stable partition only: the services say which groups there are, and what a group
holds is said by its service. -/
lemma Partitions.unique (h : Partitions gs cases) (h' : Partitions gs' cases) : gs = gs' := by
  have hof {gs : List ServiceGroup} (h : Partitions gs cases) :
      gs = (cases.map fun c => c.service).eraseDups.map fun s =>
        ⟨s, cases.filter fun c => c.service == s⟩ := by
    rw [← h.services, List.map_map]
    refine (List.map_id gs).symm.trans (List.map_congr_left fun g hg => ?_)
    simp only [id, Function.comp_apply, ← h.cases_eq g hg]
  exact (hof h).trans (hof h').symm

/-- One more case adds its service unless there is a group of it. -/
lemma services_addTo (gs : List ServiceGroup) (c : Case) :
    (addTo gs c).map (fun g => g.service) =
      if c.service ∈ gs.map fun g => g.service then gs.map fun g => g.service
      else (gs.map fun g => g.service) ++ [c.service] := by
  induction gs with
  | nil => rfl
  | cons g gs ih =>
    unfold addTo
    by_cases hg : g.service = c.service
    · simp [hg]
    · have hne : c.service ≠ g.service := Ne.symm hg
      simp only [beq_iff_eq, hg, if_false, List.map_cons, ih, List.mem_cons, hne, false_or]
      split <;> rfl

/-- The services of the groups stand in the order in which they first occur. -/
lemma services_ofCases (cases : List Case) :
    (ofCases cases).map (fun g => g.service) = (cases.map fun c => c.service).eraseDups := by
  induction cases using List.reverseRecOn with
  | nil => rfl
  | append_singleton cases c ih =>
    -- groups are only ever added at the end, as first occurrences are
    have hmem : c.service ∈ (cases.map fun c => c.service).eraseDups ↔
        c.service ∈ cases.map fun c => c.service := List.mem_eraseDups
    rw [ofCases_append_singleton, services_addTo, ih, List.map_append, List.map_singleton,
      eraseDups_append_singleton]
    simp only [hmem]

/-- The groups of a list of cases are a stable partition of it. -/
lemma partitions_ofCases (cases : List Case) : Partitions (ofCases cases) cases where
  services := services_ofCases cases
  cases_eq := (sorted_ofCases cases).cases_eq
  nonempty := by
    intro g hg hnil
    -- the service of the group is that of some case, which the group then holds
    have hservice : g.service ∈ cases.map fun c => c.service := by
      rw [← List.mem_eraseDups, ← services_ofCases]
      exact List.mem_map_of_mem hg
    obtain ⟨c, hc, heq⟩ := List.mem_map.mp hservice
    have hheld : c ∈ g.cases := by
      rw [(sorted_ofCases cases).cases_eq g hg]
      exact List.mem_filter.mpr ⟨hc, by simpa using heq⟩
    rw [hnil] at hheld
    cases hheld
  perm := perm_flatMap_ofCases cases

/-! ### Grouping the cases of groups -/

/-- Groups as they can be told apart: they have different services, none is empty, and all cases of
a group are of its service. -/
structure Apart (gs : List ServiceGroup) : Prop where
  nodup : (gs.map fun g => g.service).Nodup
  nonempty : ∀ g ∈ gs, g.cases ≠ []
  own : ∀ g ∈ gs, ∀ c ∈ g.cases, c.service = g.service

namespace Apart

lemma tail (h : Apart (g :: gs)) : Apart gs where
  nodup := (List.nodup_cons.mp h.nodup).2
  nonempty := fun g' hg' => h.nonempty g' (List.mem_cons_of_mem g hg')
  own := fun g' hg' => h.own g' (List.mem_cons_of_mem g hg')

/-- A later group has another service than the first. -/
lemma ne_of_mem_tail (h : Apart (g :: gs)) (hg' : g' ∈ gs) : g'.service ≠ g.service := by
  intro heq
  have hnot : g.service ∉ gs.map fun g => g.service := (List.nodup_cons.mp h.nodup).1
  apply hnot
  rw [← heq]
  exact List.mem_map_of_mem hg'

/-- So has a later case. -/
lemma service_ne_of_mem_tail (h : Apart (g :: gs)) (hc : c ∈ gs.flatMap fun g => g.cases) :
    c.service ≠ g.service := by
  obtain ⟨g', hg', hc'⟩ := List.mem_flatMap.mp hc
  rw [h.tail.own g' hg' c hc']
  exact h.ne_of_mem_tail hg'

/-- The services of the cases first occur in the order of the groups. -/
lemma services_flatMap (h : Apart gs) :
    ((gs.flatMap fun g => g.cases).map fun c => c.service).eraseDups =
      gs.map fun g => g.service := by
  induction gs with
  | nil => rfl
  | cons g gs ih =>
    have hfirst : (g.cases.map fun c => c.service).eraseDups = [g.service] := by
      apply eraseDups_of_forall_eq
      · simpa using h.nonempty g List.mem_cons_self
      · intro s hs
        obtain ⟨c, hc, rfl⟩ := List.mem_map.mp hs
        exact h.own g List.mem_cons_self c hc
    have hdisjoint : (g.cases.map fun c => c.service).Disjoint
        ((gs.flatMap fun g => g.cases).map fun c => c.service) := by
      intro s hs hs'
      obtain ⟨c, hc, rfl⟩ := List.mem_map.mp hs
      obtain ⟨c', hc', heq⟩ := List.mem_map.mp hs'
      exact h.service_ne_of_mem_tail hc' (heq.trans (h.own g List.mem_cons_self c hc))
    rw [List.flatMap_cons, List.map_append, eraseDups_append_of_disjoint hdisjoint, hfirst,
      ih h.tail, List.map_cons, List.singleton_append]

/-- The cases of the service of a group are those of the group. -/
lemma filter_flatMap (h : Apart gs) (hg : g ∈ gs) :
    (gs.flatMap fun g => g.cases).filter (fun c => c.service == g.service) = g.cases := by
  induction gs with
  | nil => cases hg
  | cons first gs ih =>
    rw [List.flatMap_cons, List.filter_append]
    rcases List.mem_cons.mp hg with rfl | hg
    · have hall : g.cases.filter (fun c => c.service == g.service) = g.cases := by
        refine List.filter_eq_self.mpr fun c hc => ?_
        simpa using h.own g List.mem_cons_self c hc
      have hnone : (gs.flatMap fun g => g.cases).filter (fun c => c.service == g.service) = [] := by
        refine List.filter_eq_nil_iff.mpr fun c hc => ?_
        simpa using h.service_ne_of_mem_tail hc
      rw [hall, hnone, List.append_nil]
    · have hnone : first.cases.filter (fun c => c.service == g.service) = [] := by
        refine List.filter_eq_nil_iff.mpr fun c hc => ?_
        simpa [h.own first List.mem_cons_self c hc] using (h.ne_of_mem_tail hg).symm
      rw [hnone, List.nil_append, ih h.tail hg]

/-- Groups that can be told apart are a stable partition of their own cases. -/
lemma partitions (h : Apart gs) : Partitions gs (gs.flatMap fun g => g.cases) where
  services := h.services_flatMap.symm
  cases_eq := fun _ hg => (h.filter_flatMap hg).symm
  nonempty := h.nonempty
  perm := List.Perm.refl _

end Apart

/-- The groups of a list of cases can be told apart. -/
lemma apart_ofCases (cases : List Case) : Apart (ofCases cases) where
  nodup := (sorted_ofCases cases).nodup
  nonempty := (partitions_ofCases cases).nonempty
  own := by
    intro g hg c hc
    rw [(sorted_ofCases cases).cases_eq g hg] at hc
    simpa using (List.mem_filter.mp hc).2

/-! ### Groups that are found through an index -/

/-- What stands in a place of a list with one more entry. -/
lemma getElem?_append_singleton_eq_some {α : Type} (l : List α) (a b : α) (i : Nat) :
    (l ++ [a])[i]? = some b ↔ l[i]? = some b ∨ l.length = i ∧ a = b := by
  rcases Nat.lt_trichotomy i l.length with hlt | rfl | hgt
  · simp [List.getElem?_append_left hlt, Nat.ne_of_gt hlt]
  · simp
  · simp [List.getElem?_eq_none, Nat.le_of_lt hgt, Nat.ne_of_lt hgt, Nat.succ_le_of_lt hgt]

/-- An index names the places of groups: what is found under a service is the place of the group of
this service. -/
def Names (index : Dict Nat) (gs : List ServiceGroup) : Prop :=
  ∀ s i, index.get? s = some i ↔ (gs.map fun g => g.service)[i]? = some s

namespace Names

variable {index : Dict Nat} {i : Nat}

/-- No service has two places. -/
lemma nodup (h : Names index gs) : (gs.map fun g => g.service).Nodup := by
  rw [List.nodup_iff_getElem?_ne_getElem?]
  intro i j hij hj heq
  have hi : (gs.map fun g => g.service)[j]? = some (gs.map fun g => g.service)[j] :=
    List.getElem?_eq_getElem hj
  have hfound := (h _ i).mpr (heq.trans hi)
  rw [(h _ j).mpr hi] at hfound
  cases hfound
  exact lt_irrefl _ hij

/-- A service that is found is that of a group. -/
lemma mem (h : Names index gs) {s : String} (hi : index.get? s = some i) :
    s ∈ gs.map fun g => g.service :=
  List.mem_of_getElem? ((h s i).mp hi)

/-- A service that is not found is that of no group. -/
lemma not_mem (h : Names index gs) {s : String} (hnone : index.get? s = none) :
    s ∉ gs.map fun g => g.service := by
  intro hmem
  obtain ⟨i, hi⟩ := List.mem_iff_getElem?.mp hmem
  rw [(h s i).mpr hi] at hnone
  cases hnone

/-- The place that is found for a case is that of the one group to which the case belongs. -/
lemma modify_eq (h : Names index gs) (hi : index.get? c.service = some i) :
    gs.modify i (fun g => { g with cases := g.cases ++ [c] }) = gs.map (withCase c) := by
  refine List.ext_getElem? fun j => ?_
  rw [List.getElem?_modify, List.getElem?_map]
  cases hj : gs[j]? with
  | none => simp
  | some g =>
    -- the index has one place for a service, so no other group is of this one
    have hplace : i = j ↔ g.service = c.service := by
      have hfound : index.get? g.service = some j := (h g.service j).mpr (by simp [hj])
      constructor
      · rintro rfl
        have hsame := (h c.service i).mp hi
        rw [(h g.service i).mp hfound] at hsame
        exact Option.some.inj hsame
      · intro heq
        rw [heq, hi] at hfound
        exact Option.some.inj hfound
    by_cases heq : g.service = c.service
    · simp [withCase, hplace.mpr heq, heq]
    · have hij : ¬i = j := fun hij => heq (hplace.mp hij)
      simp [withCase, hij, heq]

/-- Nothing names a place where there are no groups. -/
lemma empty : Names Dict.empty [] := by
  intro s i
  simp

/-- A case in its group leaves all groups in their places. -/
lemma modify (h : Names index gs) (i : Nat) (c : Case) :
    Names index (gs.modify i fun g => { g with cases := g.cases ++ [c] }) := by
  have hservices : (gs.modify i fun g => { g with cases := g.cases ++ [c] }).map
      (fun g => g.service) = gs.map fun g => g.service := by
    refine List.ext_getElem? fun j => ?_
    rw [List.getElem?_map, List.getElem?_modify, List.getElem?_map, Option.map_eq_map,
      Option.map_map]
    congr 1
    funext g
    simp only [Function.comp_apply]
    split <;> rfl
  intro s j
  rw [hservices]
  exact h s j

/-- A new group stands in the place after all others. -/
lemma append (h : Names index gs) (hnone : index.get? c.service = none) :
    Names (index.insert c.service gs.length) (gs ++ [⟨c.service, [c]⟩]) := by
  intro s i
  have hplaces : ((gs ++ [(⟨c.service, [c]⟩ : ServiceGroup)]).map fun g => g.service)[i]? = some s ↔
      index.get? s = some i ∨ gs.length = i ∧ c.service = s := by
    rw [List.map_append, List.map_singleton, getElem?_append_singleton_eq_some, List.length_map,
      h s i]
  rw [Dict.get?_insert, hplaces]
  by_cases hs : s = c.service
  · rw [if_pos hs, hs, hnone]
    simp
  · rw [if_neg hs]
    simp [Ne.symm hs]

end Names

end ServiceGroup

/-- Groups with an index that names their places. -/
structure IndexedGroups where
  index : Dict Nat
  groups : List ServiceGroup
  names : ServiceGroup.Names index groups

namespace IndexedGroups

/-- No groups. -/
def empty : IndexedGroups := ⟨Dict.empty, [], ServiceGroup.Names.empty⟩

/-- Adds a case to the group in the place that is found for its service; where none is found, a new
group is put at the end. -/
def add (x : IndexedGroups) (c : Case) : IndexedGroups :=
  match h : x.index.get? c.service with
  | some i =>
    ⟨x.index, x.groups.modify i fun g => { g with cases := g.cases ++ [c] }, x.names.modify i c⟩
  | none =>
    ⟨x.index.insert c.service x.groups.length, x.groups ++ [⟨c.service, [c]⟩], x.names.append h⟩

/-- The groups of a list of cases, with their index. -/
def ofCases (cases : List Case) : IndexedGroups := cases.foldl add empty

/-- A case is added to the group in which it belongs. -/
lemma groups_add (x : IndexedGroups) (c : Case) :
    (x.add c).groups = ServiceGroup.addTo x.groups c := by
  unfold add
  split
  next i hi =>
    rw [ServiceGroup.addTo_of_mem x.names.nodup (x.names.mem hi)]
    exact x.names.modify_eq hi
  next hnone => exact (ServiceGroup.addTo_of_not_mem (x.names.not_mem hnone)).symm

/-- With an index the groups are the same. -/
lemma groups_ofCases (cases : List Case) : (ofCases cases).groups = ServiceGroup.ofCases cases :=
  (List.foldl_hom groups fun x c => (groups_add x c).symm).symm

end IndexedGroups

namespace ServiceGroup

/-- The groups of a list of cases are the one stable partition of it.  The cases of the groups, one
group after another, are grouped in the same way, and an index of the groups changes nothing. -/
theorem ofCases_partitions (cases : List Case) :
    (∀ gs, ofCases cases = gs ↔ Partitions gs cases) ∧
      ofCases ((ofCases cases).flatMap fun g => g.cases) = ofCases cases ∧
      (IndexedGroups.ofCases cases).groups = ofCases cases := by
  refine ⟨fun gs => ⟨?_, ?_⟩, ?_, IndexedGroups.groups_ofCases cases⟩
  · rintro rfl
    exact partitions_ofCases cases
  · intro h
    exact (partitions_ofCases cases).unique h
  · exact (partitions_ofCases _).unique (apart_ofCases cases).partitions

/-- The group of a service stands where its first case does, and later cases come to it. -/
example :
    (ofCases [⟨"a1", "m", "A", []⟩, ⟨"b1", "m", "B", []⟩, ⟨"a2", "m", "A", []⟩]).map
      (fun g => (g.service, g.cases.map fun c => c.id)) = [("A", ["a1", "a2"]), ("B", ["b1"])] := by
  decide

end ServiceGroup

end Retrial
