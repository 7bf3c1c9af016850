import Retrial.Collection.Dict
import Retrial.Problem

/-!
# Contexts and modules

A context holds values by name for one attempt. The attempt's module may read and change it; the
next attempt gets a fresh one.

The registry knows modules by reference. A module that has only been declared is known but has
nothing to run. Registering replaces whatever was there; declaring replaces nothing.
-/

namespace Retrial

/-- Values of any kind by name. -/
structure Context (ν : Type) where
  values : Dict ν
deriving Inhabited

namespace Context

variable {ν : Type}

/-- A context without values. -/
def fresh : Context ν := ⟨Dict.empty⟩

/-- The value of a name. -/
def get? (c : Context ν) (name : String) : Option ν := c.values.get? name

/-- The context with a value under a name, instead of the one that was there. -/
def set (c : Context ν) (name : String) (v : ν) : Context ν := ⟨c.values.insert name v⟩

end Context

/-- Modules by reference, of any kind of module. -/
structure Registry (μ : Type) where
  modules : Dict (Option μ)
deriving Inhabited

namespace Registry

variable {μ : Type}

/-- Nothing known. -/
def empty : Registry μ := ⟨Dict.empty⟩

/-- Registers a module. -/
def register (r : Registry μ) (moduleRef : String) (m : μ) : Registry μ :=
  ⟨r.modules.insert moduleRef (some m)⟩

/-- Declares a module that has nothing to run, unless the reference is known. -/
def declare (r : Registry μ) (moduleRef : String) : Registry μ :=
  ⟨r.modules.insertNew moduleRef none⟩

/-- Whether a reference is known. -/
def contains (r : Registry μ) (moduleRef : String) : Bool := r.modules.contains moduleRef

/-- The module of a reference. -/
def load (r : Registry μ) (moduleRef : String) : Except EngineFault μ :=
  match r.modules.get? moduleRef with
  | some (some m) => .ok m
  | some none => .error (.missingEntryPoint moduleRef)
  | none => .error (.moduleNotFound moduleRef)

end Registry

end Retrial
