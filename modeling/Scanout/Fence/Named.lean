import Scanout.Fence.Basic

/-!
# Fences by name

Names for fences and for the signals that their producers hold. A name may be given anew: the signal
that had it before is then dropped, which abandons its fence.
-/

set_option autoImplicit false

namespace Scanout

/-- Fences and signals by name, with the states of all fences. -/
structure NamedFences where
  table : FenceTable := {}
  fences : List (String × Fence) := []
  signals : List (String × Nat) := []
  deriving Inhabited

namespace NamedFences

/-- The fence with this name; without a name, one that is satisfied. -/
def fence (named : NamedFences) (name : Option String) : Fence :=
  (name.bind fun key => named.fences.lookup key).getD .noop

def put (named : NamedFences) (name : String) (fence : Fence) : NamedFences :=
  { named with fences := (name, fence) :: named.fences.filter fun entry => entry.1 != name }

/-- Forgets a fence, and tells whether it was there. -/
def drop (named : NamedFences) (name : String) : Bool × NamedFences :=
  ((named.fences.lookup name).isSome,
    { named with fences := named.fences.filter fun entry => entry.1 != name })

/-- Completes the fence whose signal has this name, and tells whether the signal was there. -/
def finish (named : NamedFences) (name : String) (status : FenceStatus) : Bool × NamedFences :=
  match named.signals.lookup name with
  | none => (false, named)
  | some primitive =>
    (true, { named with
      table := named.table.finish primitive status
      signals := named.signals.filter fun entry => entry.1 != name })

/-- Makes a pending fence and its signal, both of one name. -/
def create (named : NamedFences) (name : String) : Fence × NamedFences :=
  let (primitive, table) := named.table.issue
  let issued := { named with table := table }.put name (.shared primitive)
  let dropped := (issued.finish name .abandoned).2
  (.shared primitive, { dropped with signals := (name, primitive) :: dropped.signals })

end NamedFences

end Scanout
