import Scanout.Identity

/-!
# The stacking order

Layers are stacked back to front by their Z key; layers of one key keep their order of creation.
The order is a list of entries in which each entry comes before the next; an entry occurs once.
Moving a layer to another key takes its entry out and puts in a new one.
-/

set_option autoImplicit false

namespace Scanout

structure StackEntry where
  z : UInt32
  layer : LayerId
  deriving DecidableEq, Inhabited

/-- The first entry lies behind the second. -/
def StackEntry.before (a b : StackEntry) : Bool :=
  a.z < b.z || (a.z == b.z && a.layer.number < b.layer.number)

/-- Entries back to front. -/
structure StackOrder where
  entries : List StackEntry := []
  deriving DecidableEq, Inhabited

namespace StackOrder

/-- Puts an entry in front of the first one that it does not lie in front of. -/
def insertEntry (entry : StackEntry) : List StackEntry → List StackEntry
  | [] => [entry]
  | next :: rest =>
    if entry.before next then entry :: next :: rest
    else if entry = next then next :: rest
    else next :: insertEntry entry rest

def insert (order : StackOrder) (z : UInt32) (layer : LayerId) : StackOrder :=
  ⟨insertEntry ⟨z, layer⟩ order.entries⟩

def remove (order : StackOrder) (z : UInt32) (layer : LayerId) : StackOrder :=
  ⟨order.entries.filter (· != ⟨z, layer⟩)⟩

def holds (order : StackOrder) (z : UInt32) (layer : LayerId) : Bool :=
  order.entries.contains ⟨z, layer⟩

/-- Moves a layer from one key to another, if it is there. -/
def move? (order : StackOrder) (layer : LayerId) (oldZ newZ : UInt32) : Option StackOrder :=
  if order.holds oldZ layer then some ((order.remove oldZ layer).insert newZ layer) else none

/-- The layers back to front. -/
def layers (order : StackOrder) : List LayerId := order.entries.map (·.layer)

theorem mem_insertEntry {entry other : StackEntry} {entries : List StackEntry} :
    other ∈ insertEntry entry entries ↔ other = entry ∨ other ∈ entries := by
  induction entries with
  | nil => simp [insertEntry]
  | cons next rest inductionHypothesis =>
    simp only [insertEntry]
    split
    · simp
    · split
      · rename_i same
        subst same
        simp
      · simp only [List.mem_cons, inductionHypothesis]
        exact ⟨fun found => found.elim (fun h => .inr (.inl h))
            (fun h => h.elim .inl (fun h => .inr (.inr h))),
          fun found => found.elim (fun h => .inr (.inl h))
            (fun h => h.elim .inl (fun h => .inr (.inr h)))⟩

end StackOrder

end Scanout
