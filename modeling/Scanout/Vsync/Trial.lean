import Scanout.Vsync.Timer

/-!
# Trials of the timer

A trial drives a timer on a clock that stands still, except that waiting for a tick moves it to the
deadline of that tick. The timer's callback may stop the timer and start it again.
-/

set_option autoImplicit false

namespace Scanout.Vsync

structure CallbackAction where
  stops : Bool := false
  /-- The first deadline and the period of a new start. -/
  restarts : Option (HostTime × Duration) := none
  deriving DecidableEq, Inhabited

structure Trial where
  timer : Timer := {}
  clock : HostTime
  action : CallbackAction := {}
  deriving DecidableEq, Inhabited

inductive TrialCommand where
  | start (first : HostTime) (period : Duration)
  | enable (on : Bool)
  | stop
  | period (period : Duration)
  | tick
  | describe
  | inCallback (action : CallbackAction)

inductive TrialAnswer where
  | nothing
  | started
  | failed (cause : TimerError)
  | notices (notices : List Notice)
  /-- The deadline of the tick that was delivered, if one is ever delivered. -/
  | delivered (deadline : Option HostTime)
  | timer (timer : Timer)

namespace Trial

/-- The timer after a callback has done its part. A start that fails changes nothing. -/
def act (timer : Timer) (action : CallbackAction) : Timer :=
  let stopped := if action.stops then timer.stop else timer
  match action.restarts with
  | none => stopped
  | some (first, period) =>
    match stopped.start first period with
    | .error _ => stopped
    | .ok started => started

def run (trial : Trial) : TrialCommand → TrialAnswer × Trial
  | .start first period =>
    match trial.timer.start first period with
    | .error cause => (.failed cause, trial)
    | .ok timer => (.started, { trial with timer := timer })
  | .enable on => (.nothing, { trial with timer := trial.timer.setEnabled on })
  | .stop => (.nothing, { trial with timer := trial.timer.stop })
  | .period period =>
    (.notices (Timer.periodNotices period), { trial with timer := trial.timer.setPeriod period })
  | .tick =>
    match trial.timer.nextTick? trial.clock with
    | none => (.delivered none, trial)
    | some (deadline, timer) =>
      (.delivered (some deadline),
        { timer := act timer trial.action
          action := {}
          clock := if trial.clock.nanos < deadline.nanos then deadline else trial.clock })
  | .describe => (.timer trial.timer, trial)
  | .inCallback action => (.nothing, { trial with action := action })

def runAll (trial : Trial) : List TrialCommand → List TrialAnswer
  | [] => []
  | command :: rest =>
    let (answer, after) := trial.run command
    answer :: after.runAll rest

end Trial

end Scanout.Vsync
