import Scanout.Proofs.Vsync.Generations

/-!
# The state of a timer

Starting and stopping settle whether a timer is started, switching settles whether it delivers, and
neither touches what the other does. The state after any acts is therefore a matter of the last
start or stop and of the last switch, in whatever order these came (`standing_run`).

In particular a start leaves delivery as it finds it. A timer that was switched on before it was
started, or under an earlier start, runs at once and ticks.
-/

set_option autoImplicit false

namespace Scanout.Vsync.Signaler

namespace Event

def starts? : Event → Option Bool
  | began _ => some true
  | stopped => some false
  | _ => none

def switches? : Event → Option Bool
  | switched on => some on
  | _ => none

end Event

def isStarted (events : List Event) : Bool :=
  (events.filterMap Event.starts?).getLast?.getD false

def isSwitchedOn (events : List Event) : Bool :=
  (events.filterMap Event.switches?).getLast?.getD false

/-- The state that these events leave a new timer in. -/
def stateAfter (events : List Event) : TimerState :=
  if isStarted events then
    if isSwitchedOn events then .running else .idle
  else .stopped

/-- The state of a new timer after these acts, and what a start makes of it that succeeds now. -/
structure Standing (acts : List Act) : Prop where
  state : (run {} acts).timer.state = stateAfter (events {} acts)
  begun : ∀ first period generation,
    (run {} acts).event? (.start first period) = some (.began generation) →
    ((run {} acts).step (.start first period)).timer.state
      = if isSwitchedOn (events {} acts) then .running else .idle
  /-- Unless it is switched on after the start, the timer can come to tick exactly if it was
  switched on before. -/
  ticks : ∀ first period generation,
    (run {} acts).event? (.start first period) = some (.began generation) →
    ((∃ later, .enable true ∉ later
        ∧ (((run {} acts).step (.start first period)).events later).any Event.isDelivered)
      ↔ isSwitchedOn (events {} acts))

/-! ## What the events tell of a timer -/

variable {signaler after : Signaler} {event : Option Event}

theorem Acts.started (acts : signaler.Acts after event) :
    after.timer.started = (event.bind Event.starts?).getD signaler.timer.started := by
  cases acts with
  | begins free fresh next enabled ticks => exact fresh
  | _ => rfl

theorem Acts.enabled (acts : signaler.Acts after event) :
    after.timer.enabled = (event.bind Event.switches?).getD signaler.timer.enabled := by
  cases acts with
  | begins free fresh next enabled ticks => exact enabled
  | _ => rfl

/-- What each event sets or leaves alone is in the end what the last of them set. -/
theorem eq_latest (field : Signaler → Bool) {sets? : Event → Option Bool}
    (single : ∀ (signaler : Signaler) act,
      field (signaler.step act) = ((signaler.event? act).bind sets?).getD (field signaler))
    (signaler : Signaler) (acts : List Act) :
    field (signaler.run acts)
      = ((signaler.events acts).filterMap sets?).getLast?.getD (field signaler) := by
  induction acts generalizing signaler with
  | nil => rfl
  | cons act rest ih =>
      rw [run, ih, single, events, List.filterMap_append, List.getLast?_append]
      cases (((signaler.step act).events rest).filterMap sets?).getLast? with
      | some set => rfl
      | none =>
          cases signaler.event? act with
          | none => rfl
          | some event =>
              cases told : sets? event <;> simp [told]

theorem started_run (signaler : Signaler) (acts : List Act) :
    (signaler.run acts).timer.started
      = ((signaler.events acts).filterMap Event.starts?).getLast?.getD signaler.timer.started :=
  eq_latest (·.timer.started) (fun signaler act => (signaler.acts_step act).started) signaler acts

theorem enabled_run (signaler : Signaler) (acts : List Act) :
    (signaler.run acts).timer.enabled
      = ((signaler.events acts).filterMap Event.switches?).getLast?.getD signaler.timer.enabled :=
  eq_latest (·.timer.enabled) (fun signaler act => (signaler.acts_step act).enabled) signaler acts

theorem enabled_new (acts : List Act) :
    (run {} acts).timer.enabled = isSwitchedOn (events {} acts) := enabled_run {} acts

/-! ## A start and what comes after it -/

theorem delivery_ne_switched {index : Nat} {moment : Moment} {on : Bool} :
    signaler.delivery? index moment ≠ some (.switched on) := by
  unfold delivery?
  split
  · nofun
  · simp only [ne_eq, Option.map_eq_some_iff, reduceCtorEq, and_false, exists_false,
      not_false_eq_true]

theorem enable_of_switched {act : Act} {on : Bool}
    (switched : signaler.event? act = some (.switched on)) : act = .enable on := by
  cases act with
  | enable other =>
      cases switched
      rfl
  | start first period =>
      simp only [event?] at switched
      split at switched <;> cases switched
  | spawnFails =>
      simp only [event?, Option.map_eq_some_iff, reduceCtorEq, and_false, exists_false] at switched
  | stop =>
      simp only [event?] at switched
      split at switched <;> cases switched
  | pass index now => exact absurd switched delivery_ne_switched
  | timeout index => exact absurd switched delivery_ne_switched
  | _ => cases switched

/-- Without being switched on, a timer that does not deliver goes on not to. -/
theorem Acts.off (acts : signaler.Acts after event) (off : signaler.timer.enabled = false)
    (left : event ≠ some (.switched true)) :
    after.timer.enabled = false ∧ event.toList.any Event.isDelivered = false := by
  cases acts with
  | begins free fresh next enabled ticks => exact ⟨enabled.trans off, rfl⟩
  | @switches on =>
      cases on with
      | true => exact absurd rfl left
      | false => exact ⟨rfl, rfl⟩
  | delivers there runs =>
      rw [runs.enabled] at off
      cases off
  | _ => exact ⟨off, rfl⟩

theorem silent_until_enabled (off : signaler.timer.enabled = false) {later : List Act}
    (left : .enable true ∉ later) : (signaler.events later).any Event.isDelivered = false := by
  induction later generalizing signaler with
  | nil => rfl
  | cons act rest ih =>
      obtain ⟨other, others⟩ := not_or.mp (List.mem_cons.not.mp left)
      have here : signaler.event? act ≠ some (.switched true) := by
        intro switched
        exact other (enable_of_switched switched).symm
      obtain ⟨still, quiet⟩ := (signaler.acts_step act).off off here
      rw [events, List.any_append, quiet, ih still others]
      rfl

/-- A thread for which the timer runs delivers the first tick when it is due. -/
theorem pass_due {timer : Timer} {generation : Nat} (runs : timer.RunsFor generation) :
    ∃ next, timer.pass generation timer.nextDeadline = .deliver timer.nextDeadline next := by
  have own : ¬(!timer.started || timer.generation != generation) = true := by
    simp only [runs.started, runs.current, bne_self_eq_false, Bool.not_true, Bool.or_false,
      Bool.false_eq_true, not_false_eq_true]
  have on : ¬(!timer.enabled) = true := by
    simp only [runs.enabled, Bool.not_true, Bool.false_eq_true, not_false_eq_true]
  have due := catchUp_of_le timer.period (UInt64.le_refl timer.nextDeadline.nanos)
  refine ⟨timer.delivered timer.nextDeadline, ?_⟩
  simp only [Timer.pass, if_neg own, if_neg on, due]
  exact if_neg (UInt64.lt_irrefl _)

theorem step_of_began {first : HostTime} {period : Duration} {generation : Nat}
    (begun : signaler.event? (.start first period) = some (.began generation)) :
    ∃ timer : Timer, timer.started = true ∧ timer.enabled = signaler.timer.enabled ∧
      timer.generation = generation ∧ timer.nextDeadline = first ∧
      signaler.step (.start first period)
        = { signaler with timer := timer, spawning := some generation } := by
  simp only [event?] at begun
  simp only [step]
  cases free : signaler.spawning with
  | some other =>
      rw [free] at begun
      cases begun
  | none =>
      cases started : signaler.timer.start first period with
      | error cause =>
          rw [free, started] at begun
          cases begun
      | ok timer =>
          rw [free, started] at begun
          cases begun
          unfold Timer.start at started
          split at started
          · cases started
          · split at started
            · cases started
            · refine ⟨timer, ?_⟩
              obtain rfl := Except.ok.inj started
              exact ⟨rfl, rfl, rfl, rfl, rfl⟩

/-- The thread of a start that finds delivery on ticks with its first pass. -/
theorem ticks_of_enabled {first : HostTime} {period : Duration} {generation : Nat}
    (begun : signaler.event? (.start first period) = some (.began generation))
    (on : signaler.timer.enabled = true) :
    ((signaler.step (.start first period)).events
      [.spawn, .pass signaler.threads.length first]).any Event.isDelivered = true := by
  obtain ⟨timer, started, kept, rfl, rfl, stepped⟩ := step_of_began begun
  obtain ⟨next, delivers⟩ := pass_due ⟨started, kept.trans on, rfl⟩
  have joined : (signaler.threads ++ [{ generation := timer.generation }])[signaler.threads.length]?
      = some { generation := timer.generation } := by
    rw [List.getElem?_append_right le_rfl, Nat.sub_self]
    rfl
  rw [stepped]
  simp only [events, event?, step, delivery?, joined, ticker, Ticker.beat?, Ticker.pass?,
    reduceCtorEq, if_false, delivers]
  rfl

/-! ## All acts -/

/-- **The last start or stop and the last switch tell the state of a timer.** A start leaves
delivery as the last switch before it did, so the timer runs at once, and may tick, exactly if that
switched it on. -/
theorem standing_run (acts : List Act) : Standing acts where
  state := by
    have started := started_run {} acts
    have enabled := enabled_new acts
    simp only [Timer.state, started, enabled]
    rfl
  begun first period generation begun := by
    obtain ⟨timer, started, enabled, -, -, stepped⟩ := step_of_began begun
    rw [stepped]
    simp only [Timer.state, started, enabled, enabled_new acts, if_true]
  ticks first period generation begun := by
    have same := enabled_new acts
    constructor
    · rintro ⟨later, left, delivered⟩
      by_contra off
      rw [Bool.not_eq_true, ← same] at off
      obtain ⟨timer, -, enabled, -, -, stepped⟩ := step_of_began begun
      rw [stepped, silent_until_enabled (enabled.trans off) left] at delivered
      cases delivered
    · intro on
      refine ⟨_, ?_, ticks_of_enabled begun (same.trans on)⟩
      simp only [List.mem_cons, reduceCtorEq, List.not_mem_nil, or_self, not_false_eq_true]

/-- Delivery is switched on, the timer started, stopped and started again. -/
def earlyRun : List Act :=
  [.enable true, .start ⟨10⟩ ⟨5⟩, .spawn, .stop, .start ⟨20⟩ ⟨5⟩, .spawn]

/-- Both starts find delivery switched on, so the timer runs as soon as it is started, and the
second thread ticks without any further switch. -/
theorem running_when_started :
    (run {} (earlyRun.take 2)).timer.state = .running ∧
      (run {} (earlyRun.take 5)).timer.state = .running ∧
      events {} (earlyRun ++ [.pass 1 ⟨20⟩])
        = [.switched true, .began 1, .stopped, .began 2, .delivered 2 ⟨20⟩] := by
  refine ⟨?_, ?_, ?_⟩
  · decide
  · decide
  · decide

end Scanout.Vsync.Signaler
