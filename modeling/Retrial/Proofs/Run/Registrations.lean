import Retrial.Proofs.Collection.Dict
import Retrial.Run.Context

/-!
# What a registry has been told

A registry is told of modules in any order and any number of times: some calls register a module
under a reference, others only declare that there is one.  Of all that, two things are left for each
reference, the module that was registered last and whether the reference was mentioned at all
(`Registry.get?_told`), and from these follows what is loaded (`Registry.Expected`).

A call that declares a reference does nothing but mention it, so its place among the other calls
does not matter: where only such calls are moved, the registry is the same
(`Registry.DeclaresMoved.told_eq`).
-/

namespace Retrial

namespace Registry

variable {μ : Type}

/-- What a registry is told. -/
inductive Call (μ : Type)
  | register (moduleRef : String) (m : μ)
  | declare (moduleRef : String)
deriving DecidableEq

variable {r : Registry μ} {calls calls' : List (Call μ)} {call : Call μ} {x : String} {m : μ}
  {answer : Except EngineFault μ}

namespace Call

/-- The reference that is mentioned. -/
def moduleRef : Call μ → String
  | register moduleRef _ => moduleRef
  | declare moduleRef => moduleRef

/-- Whether a module is registered. -/
def registers : Call μ → Bool
  | register _ _ => true
  | declare _ => false

/-- The module that is registered under a reference. -/
def moduleFor? (x : String) : Call μ → Option μ
  | register moduleRef m => if moduleRef = x then some m else none
  | declare _ => none

/-- Tells a registry. -/
def enter (r : Registry μ) : Call μ → Registry μ
  | register moduleRef m => r.register moduleRef m
  | declare moduleRef => r.declare moduleRef

/-- A module is registered under a reference by one call only. -/
lemma moduleFor?_eq_some_iff : call.moduleFor? x = some m ↔ call = register x m := by
  cases call with
  | register moduleRef m' =>
    by_cases h : moduleRef = x
    · simp [moduleFor?, h]
    · simp [moduleFor?, h]
  | declare moduleRef => simp [moduleFor?]

/-- Nothing is registered under another reference than the one that is mentioned. -/
lemma moduleFor?_of_ne (h : call.moduleRef ≠ x) : call.moduleFor? x = none := by
  rw [Option.eq_none_iff_forall_ne_some]
  intro m hm
  rw [moduleFor?_eq_some_iff] at hm
  exact h (hm ▸ rfl)

/-- A call that leaves a module is one that registers. -/
lemma registers_of_moduleFor? (h : call.moduleFor? x = some m) : call.registers = true := by
  rw [moduleFor?_eq_some_iff] at h
  exact h ▸ rfl

/-- Nothing is registered under a reference if no call does so. -/
lemma filterMap_moduleFor?_eq_nil_iff :
    calls.filterMap (moduleFor? x) = [] ↔ ∀ m, register x m ∉ calls := by
  rw [List.filterMap_eq_nil_iff]
  constructor
  · intro h m hm
    have hnone := h _ hm
    rw [moduleFor?_eq_some_iff.mpr rfl] at hnone
    cases hnone
  · intro h call hcall
    rw [Option.eq_none_iff_forall_ne_some]
    intro m hm
    rw [moduleFor?_eq_some_iff] at hm
    exact h m (hm ▸ hcall)

/-- **One call.** It changes what is known of the reference that it mentions, and of no other: this
one is known from then on, with the module that is registered or else with the one it had. -/
lemma get?_enter (r : Registry μ) (call : Call μ) (x : String) :
    (call.enter r).modules.get? x =
      if call.moduleRef = x then some ((call.moduleFor? x).or (r.modules.get? x).join)
      else r.modules.get? x := by
  cases call with
  | register moduleRef m =>
    simp only [enter, Registry.register, Dict.get?_insert, Call.moduleRef, moduleFor?]
    by_cases h : moduleRef = x
    · simp [h]
    · simp [h, Ne.symm h]
  | declare moduleRef =>
    simp only [enter, Registry.declare, Dict.get?_insertNew, Call.moduleRef, moduleFor?]
    by_cases h : moduleRef = x
    · subst h
      cases r.modules.get? moduleRef <;> simp
    · simp [h, Ne.symm h]

end Call

/-! ### Any number of calls -/

/-- The registry that has been told some calls, one after another. -/
def told (calls : List (Call μ)) : Registry μ := calls.foldl Call.enter empty

/-- The module that was registered last under a reference. -/
def lastRegistered? (x : String) (calls : List (Call μ)) : Option μ :=
  (calls.filterMap (Call.moduleFor? x)).getLast?

/-- One more call registers the last module, if it registers one under this reference. -/
lemma lastRegistered?_append_singleton (x : String) (calls : List (Call μ)) (call : Call μ) :
    lastRegistered? x (calls ++ [call]) = (call.moduleFor? x).or (lastRegistered? x calls) := by
  unfold lastRegistered?
  rw [List.filterMap_append, List.getLast?_append]
  cases h : call.moduleFor? x <;> simp [h]

/-- A module was registered last if no other one was registered later. -/
lemma lastRegistered?_eq_some_iff :
    lastRegistered? x calls = some m ↔
      ∃ earlier later, calls = earlier ++ .register x m :: later ∧
        ∀ m', .register x m' ∉ later := by
  unfold lastRegistered?
  rw [List.getLast?_eq_some_iff]
  constructor
  · rintro ⟨ms, h⟩
    -- the last module is that of some call, and no later call leaves one
    obtain ⟨earlier, rest, rfl, -, hrest⟩ := List.filterMap_eq_append_iff.mp h
    obtain ⟨between, call, later, rfl, -, hcall, hlater⟩ := List.filterMap_eq_cons_iff.mp hrest
    rw [Call.moduleFor?_eq_some_iff] at hcall
    refine ⟨earlier ++ between, later, ?_, Call.filterMap_moduleFor?_eq_nil_iff.mp hlater⟩
    rw [hcall, List.append_assoc]
  · rintro ⟨earlier, later, rfl, hlater⟩
    refine ⟨earlier.filterMap (Call.moduleFor? x), ?_⟩
    rw [List.filterMap_append, List.filterMap_cons_some (Call.moduleFor?_eq_some_iff.mpr rfl),
      Call.filterMap_moduleFor?_eq_nil_iff.mpr hlater]

/-- No module was registered last if none was registered. -/
lemma lastRegistered?_eq_none_iff :
    lastRegistered? x calls = none ↔ ∀ m, .register x m ∉ calls := by
  unfold lastRegistered?
  rw [List.getLast?_eq_none_iff, Call.filterMap_moduleFor?_eq_nil_iff]

/-- What was registered was mentioned. -/
lemma lastRegistered?_of_not_mem (h : x ∉ calls.map Call.moduleRef) :
    lastRegistered? x calls = none := by
  rw [lastRegistered?_eq_none_iff]
  intro m hm
  exact h (List.mem_map_of_mem hm)

/-- What is known of a reference after some calls: the module that was registered last, if there is
one, once the reference was mentioned. -/
lemma get?_told (calls : List (Call μ)) (x : String) :
    (told calls).modules.get? x =
      if x ∈ calls.map Call.moduleRef then some (lastRegistered? x calls) else none := by
  induction calls using List.reverseRecOn with
  | nil => rfl
  | append_singleton calls call ih =>
    have hstep : told (calls ++ [call]) = call.enter (told calls) := List.foldl_append
    have hknown : ((told calls).modules.get? x).join = lastRegistered? x calls := by
      rw [ih]
      split
      next => rfl
      next hmem => exact (lastRegistered?_of_not_mem hmem).symm
    rw [hstep, Call.get?_enter, lastRegistered?_append_singleton, List.map_append,
      List.map_singleton, hknown]
    by_cases hcall : call.moduleRef = x
    · simp [hcall]
    · simp [hcall, Ne.symm hcall, Call.moduleFor?_of_ne hcall, ih]

/-- A reference is known once it was mentioned. -/
lemma contains_told : (told calls).contains x = true ↔ ∃ call ∈ calls, call.moduleRef = x := by
  unfold contains Dict.contains
  rw [get?_told, ← List.mem_map]
  split <;> simp [*]

/-! ### Loading -/

/-- The answer that some calls make one expect when a reference is loaded. -/
inductive Expected (calls : List (Call μ)) (x : String) : Except EngineFault μ → Prop
  /-- The module that was registered last, whatever was declared before or after. -/
  | registered (earlier later : List (Call μ)) {m : μ}
      (h : calls = earlier ++ .register x m :: later) (hlast : ∀ m', .register x m' ∉ later) :
      Expected calls x (.ok m)
  /-- The reference was declared, but nothing was ever registered. -/
  | declared (h : .declare x ∈ calls) (hnone : ∀ m, .register x m ∉ calls) :
      Expected calls x (.error (.missingEntryPoint x))
  /-- The reference was never mentioned. -/
  | unmentioned (h : ∀ call ∈ calls, call.moduleRef ≠ x) :
      Expected calls x (.error (.moduleNotFound x))

/-- What is loaded is expected. -/
lemma expected_load (calls : List (Call μ)) (x : String) :
    Expected calls x ((told calls).load x) := by
  unfold load
  rw [get?_told]
  by_cases hmem : x ∈ calls.map Call.moduleRef
  · rw [if_pos hmem]
    cases hlast : lastRegistered? x calls with
    | some m =>
      obtain ⟨earlier, later, h, hlater⟩ := lastRegistered?_eq_some_iff.mp hlast
      exact .registered earlier later h hlater
    | none =>
      have hnone := lastRegistered?_eq_none_iff.mp hlast
      obtain ⟨call, hcall, rfl⟩ := List.mem_map.mp hmem
      -- the call that mentions the reference does not register, so it declares
      cases call with
      | register moduleRef m => exact absurd hcall (hnone m)
      | declare moduleRef => exact .declared hcall hnone
  · rw [if_neg hmem]
    refine .unmentioned fun call hcall heq => hmem ?_
    exact heq ▸ List.mem_map_of_mem hcall

/-- What is expected is loaded. -/
lemma Expected.load_eq (h : Expected calls x answer) : (told calls).load x = answer := by
  unfold load
  rw [get?_told]
  cases h with
  | @registered earlier later m h hlast =>
    have hmem : x ∈ calls.map Call.moduleRef :=
      List.mem_map.mpr ⟨.register x m, by simp [h], rfl⟩
    rw [if_pos hmem, lastRegistered?_eq_some_iff.mpr ⟨earlier, later, h, hlast⟩]
  | declared h hnone =>
    have hmem : x ∈ calls.map Call.moduleRef := List.mem_map_of_mem h
    rw [if_pos hmem, lastRegistered?_eq_none_iff.mpr hnone]
  | unmentioned h =>
    have hmem : x ∉ calls.map Call.moduleRef := by
      intro hmem
      obtain ⟨call, hcall, heq⟩ := List.mem_map.mp hmem
      exact h call hcall heq
    rw [if_neg hmem]

/-! ### Moving what declares -/

/-- Some calls come from others by moving those that declare: they are the same calls in another
order, and those that register have kept theirs. -/
structure DeclaresMoved (calls calls' : List (Call μ)) : Prop where
  perm : calls'.Perm calls
  registers : calls'.filter Call.registers = calls.filter Call.registers

namespace DeclaresMoved

/-- The same module was registered last. -/
lemma lastRegistered?_eq (h : DeclaresMoved calls calls') (x : String) :
    lastRegistered? x calls' = lastRegistered? x calls := by
  -- calls that declare leave no modules, so they can be left out
  have hfilter (calls : List (Call μ)) :
      (calls.filter Call.registers).filterMap (Call.moduleFor? x) =
        calls.filterMap (Call.moduleFor? x) := by
    rw [List.filterMap_filter]
    refine List.filterMap_congr fun call _ => ?_
    cases hm : call.moduleFor? x with
    | none => simp
    | some m => simp [Call.registers_of_moduleFor? hm]
  unfold lastRegistered?
  rw [← hfilter calls', h.registers, hfilter calls]

/-- The registry is the same. -/
lemma told_eq (h : DeclaresMoved calls calls') : told calls' = told calls := by
  have hmodules : (told calls').modules = (told calls).modules := by
    apply Dict.ext_get?
    intro x
    rw [get?_told, get?_told, h.lastRegistered?_eq]
    simp only [(h.perm.map Call.moduleRef).mem_iff]
  exact congrArg Registry.mk hmodules

end DeclaresMoved

/-- **A registry remembers what it was told last, and forgets nothing.** What is loaded is what was
last registered under the reference; without that it says whether the reference was ever declared.
A reference is known if it was mentioned.  Where declaring calls are moved to other places, nothing
else is loaded afterwards. -/
theorem load_told (calls : List (Call μ)) (x : String) :
    (∀ answer, (told calls).load x = answer ↔ Expected calls x answer) ∧
      ((told calls).contains x = true ↔ ∃ call ∈ calls, call.moduleRef = x) ∧
      ∀ calls', DeclaresMoved calls calls' → (told calls').load x = (told calls).load x := by
  refine ⟨fun answer => ⟨?_, Expected.load_eq⟩, contains_told, fun calls' hmoved => ?_⟩
  · rintro rfl
    exact expected_load calls x
  · rw [hmoved.told_eq]

/-- A module that is declared, registered, registered again and declared again, and another that is
declared in between. -/
def mixedCalls : List (Call Nat) :=
  [.declare "login", .register "login" 1, .declare "search", .register "login" 2,
    .declare "login"]

/-- The same with all that declares at the end. -/
def sortedCalls : List (Call Nat) :=
  [.register "login" 1, .register "login" 2, .declare "search", .declare "login",
    .declare "login"]

/-- The theorem applies to them: the second module is loaded, wherever it is declared. -/
theorem load_told_mixedCalls :
    DeclaresMoved mixedCalls sortedCalls ∧
      (told sortedCalls).load "login" = (told mixedCalls).load "login" ∧
      (told mixedCalls).load "login" = .ok 2 ∧
      (told mixedCalls).load "search" = .error (.missingEntryPoint "search") ∧
      (told mixedCalls).load "cart" = .error (.moduleNotFound "cart") := by
  have hmoved : DeclaresMoved mixedCalls sortedCalls := ⟨by decide, by decide⟩
  have hlogin := load_told mixedCalls "login"
  have hregistered : Expected mixedCalls "login" (.ok 2) :=
    .registered (mixedCalls.take 3) [.declare "login"] rfl (by simp)
  have hdeclared : Expected mixedCalls "search" (.error (.missingEntryPoint "search")) :=
    .declared (by decide) (by simp [mixedCalls])
  have hunmentioned : Expected mixedCalls "cart" (.error (.moduleNotFound "cart")) :=
    .unmentioned (by decide)
  exact ⟨hmoved, hlogin.2.2 sortedCalls hmoved, (hlogin.1 _).mpr hregistered,
    ((load_told mixedCalls "search").1 _).mpr hdeclared,
    ((load_told mixedCalls "cart").1 _).mpr hunmentioned⟩

end Registry

end Retrial
