import Scanout.Backend.Interface

/-!
# Faulty backends

`Backend.faulty` makes any backend break its contract on demand: answers of the wrong length, and
calls that fail as if the device were lost. `Backend.minimal` leaves out the calls that a backend
need not implement.
-/

set_option autoImplicit false

namespace Scanout

structure Faults where
  listing : Option BackendError := none
  /-- By how much an answer to prepare is too long, or too short if negative. -/
  decisions : Int := 0
  /-- By how much the release fences of a commit are too many, or too few if negative. -/
  releases : Int := 0
  power : Bool := false
  activeConfig : Bool := false
  deriving DecidableEq, Inhabited

structure Faulty (σ : Type) where
  faults : Faults := {}
  inner : σ

/-- A list that is too long by `excess`, or too short if `excess` is negative. The last entry is
repeated as often as needed. -/
def stretched {α : Type} (excess : Int) (entries : List α) : List α :=
  match excess with
  | .ofNat more => entries ++ (entries.getLast?.map (List.replicate more)).getD []
  | .negSucc fewer => entries.take (entries.length - (fewer + 1))

namespace Faulty

variable {σ : Type}

def pass {answer : Type} (call : σ → Except BackendError answer × σ) (state : Faulty σ) :
    Except BackendError answer × Faulty σ :=
  let (result, inner) := call state.inner
  (result, { state with inner := inner })

end Faulty

def Backend.faulty {σ : Type} (backend : Backend σ) : Backend (Faulty σ) where
  displayConfigs state :=
    match state.faults.listing with
    | some cause => (.error cause, state)
    | none => state.pass backend.displayConfigs
  prepare frame state :=
    let (result, after) := state.pass (backend.prepare frame)
    (result.map (stretched state.faults.decisions), after)
  commit frame state :=
    let (result, after) := state.pass (backend.commit frame)
    (result.map fun fences =>
      { fences with release := stretched state.faults.releases fences.release }, after)
  setActiveConfig index state :=
    if state.faults.activeConfig then
      (.error .deviceLost, { state with faults := { state.faults with activeConfig := false } })
    else state.pass (backend.setActiveConfig index)
  setPowerMode mode state :=
    if state.faults.power then
      (.error .deviceLost, { state with faults := { state.faults with power := false } })
    else state.pass (backend.setPowerMode mode)

/-- The backend with only the calls that every backend has. -/
def Backend.minimal {σ : Type} (backend : Backend σ) : Backend σ where
  displayConfigs := backend.displayConfigs
  prepare := backend.prepare
  commit := backend.commit

end Scanout
