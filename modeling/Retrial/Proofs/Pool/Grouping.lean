import Mathlib
import Retrial.Case

/-!
# The groups of a list of cases

The groups have different services, and the group of a service holds exactly the cases of this
service, in the order of the list.  So the groups together hold the cases of the list, each as often
as the list does.
-/

namespace Retrial

/-- Going through a list key by key, each key once, is going through all of it in some order. -/
lemma perm_flatMap_filter {α κ : Type} [DecidableEq κ] (key : α → κ) {ks : List κ}
    (hks : ks.Nodup) {l : List α} (hl : ∀ a ∈ l, key a ∈ ks) :
    (ks.flatMap fun k => l.filter fun a => key a == k).Perm l := by
  induction ks generalizing l with
  | nil =>
    have hnil : l = [] := List.eq_nil_iff_forall_not_mem.mpr fun a ha => by cases hl a ha
    simp [hnil]
  | cons k ks ih =>
    rw [List.nodup_cons] at hks
    -- The other keys see only what does not have this one.
    have hothers : (ks.flatMap fun k' => l.filter fun a => key a == k') =
        ks.flatMap fun k' => (l.filter fun a => !(key a == k)).filter fun a => key a == k' := by
      refine List.flatMap_congr fun k' hk' => ?_
      rw [List.filter_filter]
      refine List.filter_congr fun a _ => ?_
      by_cases h : key a = k'
      · have hne : k' ≠ k := fun h' => hks.1 (h' ▸ hk')
        simp [h, hne]
      · simp [h]
    have hrest := ih hks.2 (l := l.filter fun a => !(key a == k)) fun a ha => by
      obtain ⟨hmem, hne⟩ := List.mem_filter.mp ha
      rcases List.mem_cons.mp (hl a hmem) with h | h
      · simp [h] at hne
      · exact h
    rw [List.flatMap_cons, hothers]
    exact (hrest.append_left _).trans (List.filter_append_perm _ l)

namespace ServiceGroup

variable {gs : List ServiceGroup} {g : ServiceGroup} {cases : List Case} {c : Case}

/-- The groups of a list of cases as they should be: no service twice, and in the group of a service
all cases of this service. -/
structure Sorted (gs : List ServiceGroup) (cases : List Case) : Prop where
  nodup : (gs.map fun g => g.service).Nodup
  cases_eq : ∀ g ∈ gs, g.cases = cases.filter fun c => c.service == g.service
  covers : ∀ c ∈ cases, c.service ∈ gs.map fun g => g.service

/-- The group with one more case, if it is of the case's service. -/
def withCase (c : Case) (g : ServiceGroup) : ServiceGroup :=
  if g.service == c.service then { g with cases := g.cases ++ [c] } else g

@[simp] lemma service_withCase (c : Case) (g : ServiceGroup) :
    (g.withCase c).service = g.service := by
  unfold withCase
  split <;> rfl

/-- Groups of other services stay. -/
lemma map_withCase_of_not_mem (h : c.service ∉ gs.map fun g => g.service) :
    gs.map (withCase c) = gs := by
  refine (List.map_congr_left fun g hg => ?_).trans (List.map_id gs)
  have hne : g.service ≠ c.service := fun heq => h (heq ▸ List.mem_map_of_mem hg)
  simp [withCase, hne]

/-- A case of a known service goes to the group of this service. -/
lemma addTo_of_mem (hnd : (gs.map fun g => g.service).Nodup)
    (h : c.service ∈ gs.map fun g => g.service) : addTo gs c = gs.map (withCase c) := by
  induction gs with
  | nil => cases h
  | cons g gs ih =>
    rw [List.map_cons, List.nodup_cons] at hnd
    by_cases hg : g.service = c.service
    · have hothers : gs.map (withCase c) = gs := map_withCase_of_not_mem (hg ▸ hnd.1)
      simp [addTo, withCase, hg, hothers]
    · have hmem : c.service ∈ gs.map fun g => g.service := by
        rcases List.mem_cons.mp h with h | h
        · exact absurd h.symm hg
        · exact h
      simp [addTo, withCase, hg, ih hnd.2 hmem]

/-- A case of a new service is a new group. -/
lemma addTo_of_not_mem (h : c.service ∉ gs.map fun g => g.service) :
    addTo gs c = gs ++ [⟨c.service, [c]⟩] := by
  induction gs with
  | nil => rfl
  | cons g gs ih =>
    rw [List.map_cons, List.mem_cons, not_or] at h
    simp [addTo, Ne.symm h.1, ih h.2]

/-- Adding a case keeps the groups as they should be. -/
lemma Sorted.addTo (h : Sorted gs cases) (c : Case) : Sorted (addTo gs c) (cases ++ [c]) := by
  by_cases hc : c.service ∈ gs.map fun g => g.service
  · rw [addTo_of_mem h.nodup hc]
    have hservices :
        (gs.map (withCase c)).map (fun g => g.service) = gs.map fun g => g.service := by
      simp [Function.comp_def]
    refine ⟨hservices ▸ h.nodup, ?_, ?_⟩
    · intro g hg
      obtain ⟨g', hg', rfl⟩ := List.mem_map.mp hg
      rw [service_withCase, List.filter_append, ← h.cases_eq g' hg']
      by_cases heq : g'.service = c.service
      · simp [withCase, heq]
      · simp [withCase, heq, Ne.symm heq]
    · intro c' hc'
      rw [hservices]
      rcases List.mem_append.mp hc' with h' | h'
      · exact h.covers c' h'
      · exact List.mem_singleton.mp h' ▸ hc
  · rw [addTo_of_not_mem hc]
    have hnone : cases.filter (fun c' => c'.service == c.service) = [] := by
      refine List.filter_eq_nil_iff.mpr fun c' hc' heq => hc ?_
      exact beq_iff_eq.mp heq ▸ h.covers c' hc'
    refine ⟨?_, ?_, ?_⟩
    · rw [List.map_append]
      refine h.nodup.append (List.nodup_singleton _) ?_
      intro s hs hs'
      have heq : s = c.service := List.mem_singleton.mp hs'
      exact hc (heq ▸ hs)
    · intro g hg
      rcases List.mem_append.mp hg with hg | hg
      · have hne : c.service ≠ g.service := fun heq => hc (heq ▸ List.mem_map_of_mem hg)
        simp [h.cases_eq g hg, hne]
      · simp [List.mem_singleton.mp hg, hnone]
    · intro c' hc'
      rw [List.map_append]
      rcases List.mem_append.mp hc' with h' | h'
      · exact List.mem_append_left _ (h.covers c' h')
      · exact List.mem_append_right _ (by simp [List.mem_singleton.mp h'])

/-- The groups of a list of cases are as they should be. -/
theorem sorted_ofCases (cases : List Case) : Sorted (ofCases cases) cases := by
  induction cases using List.reverseRecOn with
  | nil => exact ⟨List.nodup_nil, by simp, by simp⟩
  | append_singleton cases c ih =>
    rw [ofCases_append_singleton]
    exact ih.addTo c

/-- The groups together hold every case as often as the list does. -/
theorem perm_flatMap_ofCases (cases : List Case) :
    ((ofCases cases).flatMap fun g => g.cases).Perm cases := by
  have h := sorted_ofCases cases
  have hperm := perm_flatMap_filter (fun c : Case => c.service) h.nodup h.covers
  rw [List.flatMap_map] at hperm
  rwa [List.flatMap_congr fun g hg => h.cases_eq g hg]

end ServiceGroup

end Retrial
