/-!
# Fences

A fence marks a point in the future at which a buffer may be used. It is either satisfied from the
start and has nothing behind it, or it shares a primitive with the one signal that completes it.
Copies of a fence share the primitive.

A `FenceTable` holds the state of every primitive. A primitive is pending while its signal is held;
`finish` completes it once and for all, as signaled or, if the signal was dropped, as abandoned.
-/

set_option autoImplicit false

namespace Scanout

inductive FenceStatus where
  | pending
  | signaled
  | abandoned
  deriving DecidableEq, Inhabited

def FenceStatus.name : FenceStatus → String
  | .pending => "Pending"
  | .signaled => "Signaled"
  | .abandoned => "Abandoned"

/-- Why a wait for a fence fails. -/
inductive FenceError where
  | timeout
  | abandoned
  deriving DecidableEq, Inhabited

def FenceError.name : FenceError → String
  | .timeout => "Timeout"
  | .abandoned => "Abandoned"

def FenceError.message : FenceError → String
  | .timeout => "fence wait timed out"
  | .abandoned => "fence producer abandoned the fence"

/-- A handle to a fence. Primitives are numbered in order of creation. -/
inductive Fence where
  /-- Nothing to wait for. -/
  | noop
  | shared (primitive : Nat)
  deriving DecidableEq, Inhabited

namespace Fence

def isNoop (fence : Fence) : Bool := fence == .noop

/-- The number of the fence's primitive, from 1 on. -/
def id? : Fence → Option Nat
  | noop => none
  | shared primitive => some (primitive + 1)

/-- Two handles of one fence; fences without a primitive are all alike. -/
def sameAs (fence other : Fence) : Bool := fence == other

end Fence

/-- The states of all primitives, in order of creation. -/
structure FenceTable where
  statuses : Array FenceStatus := #[]
  deriving DecidableEq, Inhabited

namespace FenceTable

def issue (table : FenceTable) : Nat × FenceTable :=
  (table.statuses.size, ⟨table.statuses.push .pending⟩)

/-- The state of a primitive. One that was never issued has no producer. -/
def statusOf (table : FenceTable) (primitive : Nat) : FenceStatus :=
  table.statuses[primitive]?.getD .abandoned

def status (table : FenceTable) : Fence → FenceStatus
  | .noop => .signaled
  | .shared primitive => table.statusOf primitive

/-- Completes a pending primitive; a complete one stays as it is. -/
def finish (table : FenceTable) (primitive : Nat) (status : FenceStatus) : FenceTable :=
  if table.statusOf primitive = .pending then ⟨table.statuses.setIfInBounds primitive status⟩
  else table

def signal (table : FenceTable) (primitive : Nat) : FenceTable := table.finish primitive .signaled

/-- The producer goes away without a signal. -/
def abandon (table : FenceTable) (primitive : Nat) : FenceTable :=
  table.finish primitive .abandoned

def resultOf : FenceStatus → Except FenceError Unit
  | .abandoned => .error .abandoned
  | .pending => .ok ()
  | .signaled => .ok ()

/-- A wait without a limit: it has no result while the fence is pending. -/
def wait? (table : FenceTable) (fence : Fence) : Option (Except FenceError Unit) :=
  match table.status fence with
  | .pending => none
  | status => some (resultOf status)

/-- A wait that gives up, when nobody completes the fence meanwhile. -/
def waitTimeout (table : FenceTable) (fence : Fence) : Except FenceError Unit :=
  (table.wait? fence).getD (.error .timeout)

def text (table : FenceTable) : Fence → String
  | .noop => "Fence(noop)"
  | .shared primitive =>
    "Fence(#" ++ toString (primitive + 1) ++ " " ++ (table.statusOf primitive).name ++ ")"

def signalText (primitive : Nat) : String :=
  "FenceSignal \x7b fence_id: " ++ toString (primitive + 1) ++ ", .. \x7d"

end FenceTable

/-- What an answer tells about a fence: nothing if there is no primitive, else its number and its
state at that moment. -/
def FenceTable.view (table : FenceTable) (fence : Fence) : Option (Nat × FenceStatus) :=
  fence.id?.map fun id => (id, table.status fence)

end Scanout
