/-!
# Identifiers

Displays and layers are numbered from 1 in order of creation and numbers are never used twice, so
the order of two identifiers is the order of creation. `Numbering` hands them out until the 64-bit
counter is used up.
-/

set_option autoImplicit false

namespace Scanout

structure LayerId where
  number : UInt64
  deriving DecidableEq, Inhabited

structure DisplayId where
  number : UInt64
  deriving DecidableEq, Inhabited

structure ConfigId where
  number : UInt32
  deriving DecidableEq, Inhabited

def LayerId.text (id : LayerId) : String := "LayerId(" ++ toString id.number.toNat ++ ")"

def LayerId.compare (id other : LayerId) : Ordering :=
  Ord.compare id.number.toNat other.number.toNat

def DisplayId.text (id : DisplayId) : String := "DisplayId(" ++ toString id.number.toNat ++ ")"

/-- The counter from which identifiers are taken. -/
structure Numbering where
  next : UInt64 := 1
  deriving DecidableEq, Inhabited

/-- The next number, or none once the counter would start over. -/
def Numbering.allocate? (numbering : Numbering) : Option (UInt64 × Numbering) :=
  if numbering.next.toNat + 1 < UInt64.size then some (numbering.next, ⟨numbering.next + 1⟩)
  else none

theorem Numbering.allocate?_next {numbering after : Numbering} {number : UInt64}
    (allocated : numbering.allocate? = some (number, after)) :
    number = numbering.next ∧ after.next.toNat = numbering.next.toNat + 1 := by
  unfold allocate? at allocated
  split at allocated
  · obtain ⟨rfl, rfl⟩ := Prod.mk.inj (Option.some.inj allocated)
    refine ⟨rfl, ?_⟩
    rw [UInt64.toNat_add, UInt64.toNat_one]
    exact Nat.mod_eq_of_lt ‹_›
  · cases allocated

end Scanout
