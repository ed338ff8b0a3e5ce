/-!
# Saturating registers

A number that does not fit a register is held as the register's greatest value. The main facts,
`toNat_saturate64` and `toNat_saturate32`, say which number a register then holds. The checked
operations have no result where the exact one does not fit.
-/

set_option autoImplicit false

namespace Scanout

/-- The number in a register of 32 bits, or the register's greatest value. -/
def saturate32 (number : Nat) : UInt32 := UInt32.ofNat (min number (UInt32.size - 1))

/-- The number in a register of 64 bits, or the register's greatest value. -/
def saturate64 (number : Nat) : UInt64 := UInt64.ofNat (min number (UInt64.size - 1))

theorem toNat_saturate32 (number : Nat) :
    (saturate32 number).toNat = min number (UInt32.size - 1) :=
  UInt32.toNat_ofNat_of_lt' (Nat.lt_of_le_of_lt (Nat.min_le_right _ _) (by decide))

theorem toNat_saturate64 (number : Nat) :
    (saturate64 number).toNat = min number (UInt64.size - 1) :=
  UInt64.toNat_ofNat_of_lt' (Nat.lt_of_le_of_lt (Nat.min_le_right _ _) (by decide))

/-- The sum, or the greatest value of the register if the sum does not fit. -/
def saturatingAdd (a b : UInt64) : UInt64 := saturate64 (a.toNat + b.toNat)

def saturatingMul (a b : UInt64) : UInt64 := saturate64 (a.toNat * b.toNat)

def checkedAdd? (a b : UInt64) : Option UInt64 :=
  if a.toNat + b.toNat < UInt64.size then some (a + b) else none

def checkedSub? (a b : UInt64) : Option UInt64 := if b ≤ a then some (a - b) else none

def checkedDiv? (a b : UInt64) : Option UInt64 := if b = 0 then none else some (a / b)

end Scanout
