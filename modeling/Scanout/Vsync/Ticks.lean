import Scanout.Clock.HostTime

/-!
# Buffered ticks

Ticks go to the callback that is installed. As long as there is none they are buffered, and a new
callback first gets all of them, oldest first. While a callback is being given buffered ticks, later
ones queue up behind them: `TickQueue.nextBatch` hands over what has gathered, batch by batch, until
nothing is left or another callback has taken over.
-/

set_option autoImplicit false

namespace Scanout.Vsync

/-- Names a callback. Every registration brings a callback of its own. -/
structure CallbackId where
  number : Nat
  deriving DecidableEq, Inhabited

structure TickQueue where
  installed : Option CallbackId := none
  /-- The deadlines of the buffered ticks, oldest first. -/
  pending : List HostTime := []
  /-- The number of callbacks that are being given buffered ticks. -/
  flushing : Nat := 0
  deriving DecidableEq, Inhabited

namespace TickQueue

/-- A tick arrives: the callback that it goes to at once, if it is not buffered. -/
def arrive (queue : TickQueue) (deadline : HostTime) : Option CallbackId × TickQueue :=
  match queue.installed with
  | some callback =>
    if queue.flushing = 0 then (some callback, queue)
    else (none, { queue with pending := queue.pending ++ [deadline] })
  | none => (none, { queue with pending := queue.pending ++ [deadline] })

def install (queue : TickQueue) (callback : CallbackId) : TickQueue :=
  { queue with installed := some callback, flushing := queue.flushing + 1 }

def uninstall (queue : TickQueue) : TickQueue := { queue with installed := none }

/-- The ticks that a callback is given next. There are none once the buffer is empty or the callback
is no longer installed; it is then done with buffered ticks. -/
def nextBatch (queue : TickQueue) (callback : CallbackId) : Option (List HostTime) × TickQueue :=
  if queue.installed = some callback ∧ queue.pending ≠ [] then
    (some queue.pending, { queue with pending := [] })
  else (none, { queue with flushing := queue.flushing - 1 })

end TickQueue

end Scanout.Vsync
