import Scanout.Proofs.Device.Opened

/-!
# Calls within calls

Whoever registers a callback for ticks hands it the buffered ones, batch by batch, and calls it for
each; a callback that runs may take in ticks and register and unregister callbacks itself. So what
is under way inside a device is a stack of activities. `Nest.step` is one step on top of this stack,
taken by the client wherever its own code runs and by the device elsewhere.

The buffer itself is the device's: the steps are those of `Device.arrive`, `Device.install`,
`Device.uninstall` and `Device.nextBatch`.
-/

set_option autoImplicit false

namespace Scanout.Vsync

/-- Something that is under way inside a device. -/
inductive Activity where
  /-- A callback is given the buffered ticks, batch by batch. -/
  | flush (callback : CallbackId)
  /-- A callback is still to be given these ticks of a batch. -/
  | deliver (callback : CallbackId) (deadlines : List HostTime)
  /-- A callback runs. -/
  | client
  deriving DecidableEq

def Activity.isFlush : Activity → Bool
  | flush _ => true
  | _ => false

/-- A device and what is under way inside it, innermost first. -/
structure Nest where
  device : Device
  stack : List Activity := []

inductive Move where
  /-- The client takes in a tick. -/
  | tick (deadline : HostTime)
  | register (callback : CallbackId)
  | unregister
  | finish
  /-- The device goes on with what it is doing itself. -/
  | goOn

namespace Nest

/-- The client's code runs, in a callback or outside of all calls. -/
def isAtClient (nest : Nest) : Bool :=
  match nest.stack with
  | [] => true
  | .client :: _ => true
  | _ => false

/-- The innermost activity hands over a batch with its next step. -/
def handsOver (nest : Nest) : Bool :=
  match nest.stack with
  | .flush callback :: _ => (nest.device.nextBatch callback).1.isSome
  | _ => false

def clientStep (nest : Nest) : Move → Nest
  | .tick deadline =>
    match nest.device.arrive deadline with
    | (none, device) => { nest with device := device }
    | (some _, device) => ⟨device, .client :: nest.stack⟩
  | .register callback =>
    ⟨nest.device.install callback .vsync, .flush callback :: nest.stack⟩
  | .unregister => { nest with device := nest.device.uninstall .vsync }
  | .finish => { nest with stack := nest.stack.tail }
  | .goOn => nest

def deviceStep (nest : Nest) : Nest :=
  match nest.stack with
  | .flush callback :: rest =>
    match nest.device.nextBatch callback with
    | (none, device) => ⟨device, rest⟩
    | (some deadlines, device) =>
      ⟨device, .deliver callback deadlines :: .flush callback :: rest⟩
  | .deliver _ [] :: rest => { nest with stack := rest }
  | .deliver callback (_ :: deadlines) :: rest =>
    { nest with stack := .client :: .deliver callback deadlines :: rest }
  | _ => nest

/-- The nest after a step. A step of somebody whose turn it is not changes nothing. -/
def step (nest : Nest) (move : Move) : Nest :=
  if nest.isAtClient then nest.clientStep move
  else
    match move with
    | .goOn => nest.deviceStep
    | _ => nest

def run (nest : Nest) : List Move → Nest
  | [] => nest
  | move :: rest => run (nest.step move) rest

theorem run_append (nest : Nest) (first later : List Move) :
    nest.run (first ++ later) = (nest.run first).run later := by
  induction first generalizing nest with
  | nil => rfl
  | cons move rest ih => exact ih (nest.step move)

/-- A device that has just been opened, with nothing under way. -/
structure Opened (nest : Nest) : Prop where
  device : ∃ (σ : Type) (backend : Backend σ) (settings : Settings) (id : DisplayId)
    (now : HostTime) (state : σ) (notices : List Notice) (after : σ),
    Device.openOn backend settings id now state = ((.ok nest.device, notices), after)
  stack : nest.stack = []

theorem ticks_of_opened {nest : Nest} (opened : nest.Opened) : nest.device.ticks = {} := by
  obtain ⟨σ, backend, settings, id, now, state, notices, after, isOpen⟩ := opened.device
  obtain ⟨configs, timer, same⟩ := Device.openOn_eq_ok isOpen
  rw [same]

/-- A device opened on a scripted backend, with nothing under way. -/
def onScript : Nest := { device := (System.onScript []).device }

theorem opened_onScript : onScript.Opened where
  device := ⟨Stage, .scripted, {}, ⟨1⟩, ⟨0⟩, { script := { configs := [.standard 1920 1080] } }, [],
    _, rfl⟩
  stack := rfl

end Nest

end Scanout.Vsync
