import Scanout.Clock.HostTime
import Scanout.Display.Basic

/-!
# Trace events

What a device reports about its work, one event for each successful step of the protocol, each
change of a layer's life and each tick that was handed over.
-/

set_option autoImplicit false

namespace Scanout

inductive LayerChange where
  | created
  | destroyed
  | movedTo (z : UInt32)
  deriving DecidableEq, Inhabited

inductive Occurrence where
  | validated (typeChanges requests : UInt32) (status : ValidateStatus)
  | accepted
  /-- The frame's number, from 1 on, and the number of its retire fence's primitive. -/
  | presented (frame : UInt64) (retire : Option UInt64)
  /-- A tick was handed over, at once or out of the buffer. -/
  | tick (buffered : Bool)
  | layer (layer : LayerId) (change : LayerChange)
  deriving DecidableEq, Inhabited

/-- What has happened on a display, and when. The time of a tick is its deadline. -/
structure TraceEvent where
  display : DisplayId
  time : HostTime
  what : Occurrence
  deriving DecidableEq, Inhabited

namespace TraceEvent

def isTimed (event : TraceEvent) : Bool :=
  match event.what with
  | .tick _ => false
  | _ => true

def reportedAt (event : TraceEvent) (time : HostTime) : TraceEvent :=
  if event.isTimed then { event with time := time } else event

end TraceEvent

end Scanout
