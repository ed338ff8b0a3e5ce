import Scanout.Trace.Pretty
import Scanout.Trace.Recording

/-!
# Sinks of trace events

A tracer passes each event on to the sink that is installed. Its clock counts the events that the
present sink was told, in steps of `Tracer.step`; ticks keep their deadline and do not count.
-/

set_option autoImplicit false

namespace Scanout

inductive TraceSink where
  | off
  /-- To a sink that ignores them. -/
  | noop
  /-- To the diagnostic output of the program. -/
  | diagnostics
  | pretty
  | record
  deriving DecidableEq, Inhabited

namespace TraceSink

def all : List TraceSink := [off, noop, diagnostics, pretty, record]

def name : TraceSink → String
  | off => "off"
  | noop => "noop"
  | diagnostics => "stderr"
  | pretty => "pretty"
  | record => "record"

end TraceSink

/-- A sink and what has come out of it. -/
structure Tracer where
  sink : TraceSink := .off
  /-- The number of timed events that the sink was told. -/
  seen : Nat := 0
  /-- The text that nobody has taken yet. -/
  text : String := ""
  recording : List UInt8 := []
  deriving Inhabited

namespace Tracer

def step : Duration := ⟨1250⟩

/-- Installs a sink. A new text or recording starts empty. -/
def install (tracer : Tracer) (sink : TraceSink) : Tracer where
  sink := sink
  seen := 0
  text := if sink = .pretty then "" else tracer.text
  recording := if sink = .record then [] else tracer.recording

/-- The number of timed events once the sink knows of this one. -/
def counting (tracer : Tracer) (event : TraceEvent) : Nat :=
  if event.isTimed then tracer.seen + 1 else tracer.seen

def report (tracer : Tracer) (event : TraceEvent) : Tracer :=
  let seen := tracer.counting event
  let stamped := event.reportedAt ⟨UInt64.ofNat (step.nanos * seen)⟩
  match tracer.sink with
  | .off => tracer
  | .noop => { tracer with seen := seen }
  | .diagnostics => { tracer with seen := seen }
  | .pretty => { tracer with seen := seen, text := tracer.text ++ stamped.line }
  | .record => { tracer with seen := seen, recording := tracer.recording ++ stamped.record }

/-- Takes the text that was printed since it was last taken. -/
def takeText (tracer : Tracer) : String × Tracer := (tracer.text, { tracer with text := "" })

end Tracer

end Scanout
