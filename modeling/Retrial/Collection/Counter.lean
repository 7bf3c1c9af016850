/-!
# Counters

A counter counts in words of 64 bits: past the largest of them it starts again at zero.
-/

namespace Retrial

/-- A count of 64 bits. -/
structure Counter where
  word : UInt64
deriving DecidableEq, Repr, Inhabited

namespace Counter

/-- The number that a counter shows. -/
def toNat (c : Counter) : Nat := c.word.toNat

/-- The counter after a number of steps from zero. -/
def ofNat (n : Nat) : Counter := ⟨UInt64.ofNat n⟩

instance : Coe Counter Nat := ⟨toNat⟩

instance : Coe Nat Counter := ⟨ofNat⟩

/-- The counter after some more steps. -/
def plus (c : Counter) (n : Nat) : Counter := ofNat (c.toNat + n)

theorem toNat_lt (c : Counter) : c.toNat < UInt64.size := c.word.toNat_lt_size

@[simp] theorem toNat_ofNat (n : Nat) : (ofNat n).toNat = n % UInt64.size := rfl

@[simp] theorem toNat_plus (c : Counter) (n : Nat) :
    (c.plus n).toNat = (c.toNat + n) % UInt64.size :=
  toNat_ofNat _

theorem toNat_injective {c d : Counter} (h : c.toNat = d.toNat) : c = d := by
  cases c
  cases d
  exact congrArg mk (UInt64.toNat_inj.mp h)

@[simp] theorem ofNat_toNat (c : Counter) : ofNat c.toNat = c :=
  toNat_injective (by rw [toNat_ofNat, Nat.mod_eq_of_lt c.toNat_lt])

@[simp] theorem plus_zero (c : Counter) : c.plus 0 = c := ofNat_toNat c

@[simp] theorem plus_plus (c : Counter) (m n : Nat) : (c.plus m).plus n = c.plus (m + n) :=
  toNat_injective (by simp [Nat.add_assoc])

@[simp] theorem ofNat_plus (m n : Nat) : (ofNat m).plus n = ofNat (m + n) :=
  toNat_injective (by simp)

/-- As long as a counter does not overflow, it counts. -/
theorem toNat_plus_of_lt {c : Counter} {n : Nat} (h : c.toNat + n < UInt64.size) :
    (c.plus n).toNat = c.toNat + n := by
  rw [toNat_plus, Nat.mod_eq_of_lt h]

/-- As long as it does not overflow, a counter that starts at zero shows its steps. -/
theorem toNat_ofNat_of_lt {n : Nat} (h : n < UInt64.size) : (ofNat n).toNat = n := by
  rw [toNat_ofNat, Nat.mod_eq_of_lt h]

/-- One more step is a change. -/
theorem plus_one_ne (c : Counter) : c.plus 1 ≠ c := by
  intro h
  have hlt := c.toNat_lt
  have hnext := congrArg toNat h
  rw [toNat_plus] at hnext
  unfold UInt64.size at hlt hnext
  omega

end Counter

end Retrial
