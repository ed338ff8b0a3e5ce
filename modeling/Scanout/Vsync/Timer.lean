import Scanout.Notice
import Scanout.Vsync.Schedule

/-!
# The vsync timer

A timer is stopped, idle (started, delivery off) or running. Starting it begins a new generation;
a timer thread belongs to the generation that started it and ends as soon as that is no longer the
current one. One pass of the thread's loop is `Timer.pass`: it reads the timer and the clock and
either ends, waits, or delivers one tick.

Delivery is switched on and off apart from starting and stopping. Switching it on does not make up
ticks that were missed.
-/

set_option autoImplicit false

namespace Scanout.Vsync

/-- What a client sees of a timer. -/
inductive TimerState where
  | stopped
  /-- The thread waits for delivery to be switched on. -/
  | idle
  | running
  deriving DecidableEq, Inhabited

def TimerState.name : TimerState → String
  | .stopped => "Stopped"
  | .idle => "Idle"
  | .running => "Running"

inductive TimerError where
  | alreadyStarted
  | zeroPeriod
  deriving DecidableEq, Inhabited

def TimerError.name : TimerError → String
  | .alreadyStarted => "AlreadyStarted"
  | .zeroPeriod => "ZeroPeriod"

def TimerError.message : TimerError → String
  | .alreadyStarted => "vsync signaler already started"
  | .zeroPeriod => "vsync period must be non-zero"

/-- The timer's record, which its threads and its clients share. -/
structure Timer where
  started : Bool := false
  generation : Nat := 0
  enabled : Bool := false
  period : Duration := .zero
  nextDeadline : HostTime := ⟨0⟩
  ticks : Nat := 0
  deriving DecidableEq, Inhabited

namespace Timer

def state (timer : Timer) : TimerState :=
  if timer.started then
    if timer.enabled then .running else .idle
  else .stopped

/-- Begins a generation whose first tick is `firstDeadline`. -/
def start (timer : Timer) (firstDeadline : HostTime) (period : Duration) :
    Except TimerError Timer :=
  if period.isZero then .error .zeroPeriod
  else if timer.started then .error .alreadyStarted
  else
    .ok { timer with
      started := true
      generation := timer.generation + 1
      period := period
      nextDeadline := firstDeadline }

def setEnabled (timer : Timer) (enabled : Bool) : Timer := { timer with enabled := enabled }

/-- Changes the period and keeps the next deadline. A zero period is ignored. -/
def setPeriod (timer : Timer) (period : Duration) : Timer :=
  if period.isZero then timer else { timer with period := period }

/-- What `setPeriod` has to say about its argument. -/
def periodNotices (period : Duration) : List Notice :=
  if period.isZero then [.zeroPeriodIgnored] else []

def stop (timer : Timer) : Timer := { timer with started := false }

/-- The outcome of one pass of a timer thread. -/
inductive Pass where
  | exit
  /-- The thread waits until the timer is changed. -/
  | park
  /-- The thread waits for the deadline, or until the timer is changed. -/
  | sleep (deadline : HostTime) (timer : Timer)
  | deliver (deadline : HostTime) (timer : Timer)
  deriving DecidableEq

def delivered (timer : Timer) (deadline : HostTime) : Timer :=
  { timer with
    nextDeadline := deadline.add timer.period
    ticks := timer.ticks + 1 }

/-- One pass of a thread of `generation` that reads the clock at `now`. -/
def pass (timer : Timer) (generation : Nat) (now : HostTime) : Pass :=
  if !timer.started || timer.generation != generation then .exit
  else if !timer.enabled then .park
  else
    let deadline := catchUp timer.nextDeadline timer.period now
    let caughtUp := { timer with nextDeadline := deadline }
    if now.nanos < deadline.nanos then .sleep deadline caughtUp
    else .deliver deadline (caughtUp.delivered deadline)

/-- The pass after a sleep until `deadline` that nothing disturbed. -/
def wake (timer : Timer) (generation : Nat) (deadline : HostTime) : Pass :=
  if !timer.started || timer.generation != generation then .exit
  else if !timer.enabled then .park
  else .deliver deadline (timer.delivered deadline)

/-- The tick that the current generation delivers next if nothing disturbs it, and the timer after
it. There is none unless the timer is running. -/
def nextTick? (timer : Timer) (now : HostTime) : Option (HostTime × Timer) :=
  match timer.pass timer.generation now with
  | .exit => none
  | .park => none
  | .deliver deadline after => some (deadline, after)
  | .sleep deadline asleep =>
    match asleep.wake timer.generation deadline with
    | .deliver _ after => some (deadline, after)
    | _ => none

def text (timer : Timer) : String :=
  "VsyncSignaler \x7b state: " ++ timer.state.name ++ ", .. \x7d"

end Timer

end Scanout.Vsync
