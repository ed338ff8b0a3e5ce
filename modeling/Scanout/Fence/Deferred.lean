import Scanout.Fence.Basic

/-!
# The last two fences

A consumer may be given the fence of the frame before the one in flight. `DeferredFences` keeps the
two most recent fences of a stream, which starts with two fences that are satisfied.
-/

set_option autoImplicit false

namespace Scanout

/-- The two most recent fences of a stream. -/
structure DeferredFences where
  older : Fence := .noop
  newer : Fence := .noop
  /-- The number of fences pushed out so far. -/
  dropped : Nat := 0
  deriving DecidableEq, Inhabited

namespace DeferredFences

def depth : Nat := 2

/-- The fences that are kept, oldest first. -/
def toList (fences : DeferredFences) : List Fence := [fences.older, fences.newer]

/-- Appends a fence; the oldest one drops out. -/
def push (fences : DeferredFences) (fence : Fence) : DeferredFences × Fence :=
  (⟨fences.newer, fence, fences.dropped + 1⟩, fences.older)

/-- The fence of the frame before the latest. -/
def deferred (fences : DeferredFences) : Fence := fences.older

def latest (fences : DeferredFences) : Fence := fences.newer

theorem toList_push (fences : DeferredFences) (fence : Fence) :
    (fences.push fence).1.toList = fences.toList.drop 1 ++ [fence] := rfl

def text (fences : DeferredFences) (table : FenceTable) : String :=
  "DeferredFenceQueue \x7b fences: [" ++ table.text fences.older ++ ", "
    ++ table.text fences.newer ++ "], dropped_count: " ++ toString fences.dropped ++ " \x7d"

end DeferredFences

end Scanout
