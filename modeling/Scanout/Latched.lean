/-!
# Latched values

A latched value keeps apart what was last asked for (*pending*) and what was last committed. Every
change reports its net effect on dirtiness, so that an owner can keep a count of its dirty values
without looking at them: a value that returns to its committed state is clean again.

Values are compared with `==`, which need not be reflexive.
-/

set_option autoImplicit false

namespace Scanout

/-- The net effect of a change on a value's dirtiness. -/
inductive DirtyDelta where
  | unchanged
  | becameDirty
  | becameClean
  deriving DecidableEq, Inhabited

namespace DirtyDelta

def name : DirtyDelta → String
  | unchanged => "Unchanged"
  | becameDirty => "BecameDirty"
  | becameClean => "BecameClean"

/-- The count of dirty values after the change; it never falls below zero. -/
def applyTo (delta : DirtyDelta) (count : Nat) : Nat :=
  match delta with
  | unchanged => count
  | becameDirty => count + 1
  | becameClean => count - 1

def isTransition (delta : DirtyDelta) : Bool := delta != unchanged

end DirtyDelta

/-- A value with a pending and a committed state. -/
structure Latched (α : Type) where
  committed : α
  pending : α
  deriving DecidableEq, Inhabited

namespace Latched

variable {α : Type}

def ofValue (value : α) : Latched α := ⟨value, value⟩

variable [BEq α]

def isDirty (latched : Latched α) : Bool := latched.pending != latched.committed

/-- Asks for `value`. Asking for the pending state again changes nothing. -/
def setPending (latched : Latched α) (value : α) : Latched α × DirtyDelta :=
  if value == latched.pending then (latched, .unchanged)
  else
    let changed := { latched with pending := value }
    match latched.isDirty, changed.isDirty with
    | false, true => (changed, .becameDirty)
    | true, false => (changed, .becameClean)
    | _, _ => (changed, .unchanged)

def latch (latched : Latched α) : Latched α × DirtyDelta :=
  if latched.isDirty then ({ latched with committed := latched.pending }, .becameClean)
  else (latched, .unchanged)

inductive Move (α : Type) where
  | set (value : α)
  | latch

def apply (latched : Latched α) : Move α → Latched α × DirtyDelta
  | .set value => latched.setPending value
  | .latch => latched.latch

end Latched

/-- A latched value beside a count of dirty values to which its effects are applied. -/
structure Counted (α : Type) where
  latched : Latched α
  count : Nat
  deriving DecidableEq, Inhabited

/-- One step of a counted value: a change of the value, or an effect that comes from elsewhere. -/
inductive CountedStep (α : Type) where
  | move (move : Latched.Move α)
  | effect (delta : DirtyDelta)

namespace Counted

variable {α : Type} [BEq α]

def step (counted : Counted α) : CountedStep α → Counted α × DirtyDelta
  | .move move =>
    let (latched, delta) := counted.latched.apply move
    (⟨latched, delta.applyTo counted.count⟩, delta)
  | .effect delta => (⟨counted.latched, delta.applyTo counted.count⟩, delta)

def steps (counted : Counted α) : List (CountedStep α) → List (Counted α × DirtyDelta)
  | [] => []
  | first :: rest =>
    let (after, delta) := counted.step first
    (after, delta) :: after.steps rest

end Counted

end Scanout
