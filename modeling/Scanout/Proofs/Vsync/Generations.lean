import Scanout.Proofs.Vsync.Cadence

/-!
# Generations of timer threads

A timer can be stopped and started again while a thread of an earlier start is still there: it may be
asleep, or run the callback that does both. A `Signaler` is a timer with all threads ever spawned for
it. Clients and threads reach the timer in turns only, each in a section in which it holds the timer
alone; an `Act` is one such section, so a list of acts is one way in which all of them interleave.
Waiting for a thread to end holds nothing, and is no act.

What keeps threads of earlier starts quiet is that each looks, whenever it gets hold of the timer,
whether the timer still runs for its generation (`Timer.RunsFor`). `governed_run` says what follows
from this for every interleaving.
-/

set_option autoImplicit false

namespace Scanout.Vsync

/-- A thread of the generation whose start spawned it. -/
structure Thread where
  generation : Nat
  stance : Stance := .awake
  deriving DecidableEq

structure Signaler where
  timer : Timer := {}
  /-- In the order in which they were spawned. -/
  threads : List Thread := []
  /-- The generation that has begun and whose thread is still to be spawned. Until it is, no other
  start and no stop gets hold of the timer. -/
  spawning : Option Nat := none
  deriving DecidableEq

inductive Act where
  | start (first : HostTime) (period : Duration)
  /-- The thread of a start is there. -/
  | spawn
  | spawnFails
  | enable (on : Bool)
  | setPeriod (period : Duration)
  | stop
  /-- A thread that is awake, woken or back from the callback makes a pass. -/
  | pass (thread : Nat) (now : HostTime)
  /-- The sleep of a thread runs out. -/
  | timeout (thread : Nat)

/-- The thread that acts, if it is not a client. -/
def Act.thread? : Act → Option (Nat × Moment)
  | .pass thread now => some (thread, .pass now)
  | .timeout thread => some (thread, .timeout)
  | _ => none

namespace Signaler

def ticker (signaler : Signaler) (thread : Thread) : Ticker :=
  ⟨signaler.timer, thread.generation, thread.stance⟩

/-- A thread acts on the timer. -/
def advance (signaler : Signaler) (index : Nat) (moment : Moment) : Signaler :=
  match signaler.threads[index]? with
  | none => signaler
  | some thread =>
    let after := (signaler.ticker thread).step moment
    { signaler with
      timer := after.timer
      threads := signaler.threads.set index { thread with stance := after.stance } }

/-- The signaler after an act. An act of somebody who cannot get hold of the timer, or whose call
fails, changes nothing. -/
def step (signaler : Signaler) : Act → Signaler
  | .start first period =>
    match signaler.spawning, signaler.timer.start first period with
    | none, .ok timer => { signaler with timer := timer, spawning := some timer.generation }
    | _, _ => signaler
  | .spawn =>
    match signaler.spawning with
    | none => signaler
    | some generation =>
      { signaler with
        threads := signaler.threads ++ [{ generation := generation }]
        spawning := none }
  | .spawnFails =>
    match signaler.spawning with
    | none => signaler
    | some _ => { signaler with timer := signaler.timer.stop, spawning := none }
  | .enable on => { signaler with timer := signaler.timer.setEnabled on }
  | .setPeriod period => { signaler with timer := signaler.timer.setPeriod period }
  | .stop =>
    if signaler.spawning.isSome then signaler
    else { signaler with timer := signaler.timer.stop }
  | .pass index now => signaler.advance index (.pass now)
  | .timeout index => signaler.advance index .timeout

def run (signaler : Signaler) : List Act → Signaler
  | [] => signaler
  | act :: rest => run (signaler.step act) rest

/-- What an act makes of a timer, as far as its ticks are concerned. -/
inductive Event where
  | began (generation : Nat)
  | stopped
  | switched (on : Bool)
  /-- A thread of this generation decides to deliver a tick. -/
  | delivered (generation : Nat) (deadline : HostTime)
  deriving DecidableEq

def Event.isDelivered : Event → Bool
  | delivered _ _ => true
  | _ => false

/-- The tick that a thread decides to deliver. -/
def delivery? (signaler : Signaler) (index : Nat) (moment : Moment) : Option Event :=
  match signaler.threads[index]? with
  | none => none
  | some thread =>
    ((signaler.ticker thread).beat? moment).map fun beat =>
      .delivered thread.generation beat.deadline

def event? (signaler : Signaler) : Act → Option Event
  | .start first period =>
    match signaler.spawning, signaler.timer.start first period with
    | none, .ok timer => some (.began timer.generation)
    | _, _ => none
  | .spawn => none
  | .spawnFails => signaler.spawning.map fun _ => .stopped
  | .enable on => some (.switched on)
  | .setPeriod _ => none
  | .stop => if signaler.spawning.isSome then none else some .stopped
  | .pass index now => signaler.delivery? index (.pass now)
  | .timeout index => signaler.delivery? index .timeout

def events (signaler : Signaler) : List Act → List Event
  | [] => []
  | act :: rest => (signaler.event? act).toList ++ (signaler.step act).events rest

/-- Ticks are delivered only after a start that no stop follows, by the thread of that start, and
only while delivery is switched on: read on from a point at which this generation runs, if any does,
and delivery is `on`. -/
def Gated : Option Nat → Bool → List Event → Prop
  | _, _, [] => True
  | _, on, .began generation :: rest => Gated (some generation) on rest
  | _, on, .stopped :: rest => Gated none on rest
  | running, _, .switched on :: rest => Gated running on rest
  | running, on, .delivered generation _ :: rest =>
    running = some generation ∧ on = true ∧ Gated running on rest

end Signaler

/-- The timer is started and delivers, and a thread of this generation is not left over. -/
structure Timer.RunsFor (timer : Timer) (generation : Nat) : Prop where
  started : timer.started = true
  enabled : timer.enabled = true
  current : timer.generation = generation

namespace Signaler

/-- What holds of a new timer and its threads after these acts. -/
structure Governed (acts : List Act) : Prop where
  single : ((run {} acts).threads.countP fun thread =>
    thread.generation == (run {} acts).timer.generation) ≤ 1
  /-- A thread that is left over leaves the timer alone from then on, and delivers nothing. -/
  stale : ∀ index thread, (run {} acts).threads[index]? = some thread →
    thread.generation ≠ (run {} acts).timer.generation →
    ∀ later act moment, act.thread? = some (index, moment) →
      ((run {} (acts ++ later)).step act).timer = (run {} (acts ++ later)).timer
        ∧ (run {} (acts ++ later)).event? act = none
  /-- Every delivery is decided on a timer that is started and delivers. -/
  decided : ∀ act generation deadline,
    (run {} acts).event? act = some (.delivered generation deadline) →
    (run {} acts).timer.RunsFor generation
  gated : Gated none false (events {} acts)
  /-- The ticks of all generations are counted. -/
  counted : (run {} acts).timer.ticks = (events {} acts).countP Event.isDelivered

end Signaler

/-! ## One act of a thread -/

namespace Timer

variable {timer : Timer} {generation : Nat}

theorem runsFor_of_guards
    (current : ¬(!timer.started || timer.generation != generation) = true)
    (enabled : ¬(!timer.enabled) = true) : timer.RunsFor generation := by
  simp only [Bool.or_eq_true, not_or, Bool.not_eq_true', Bool.not_eq_false, bne_iff_ne, ne_eq,
    not_not] at current enabled
  exact ⟨current.1, enabled, current.2⟩

/-- What a timer lets a thread of this generation do. -/
inductive Lets (timer : Timer) (generation : Nat) : Pass → Prop where
  | exit : Lets timer generation .exit
  | park : Lets timer generation .park
  | sleep {deadline next : HostTime} (runs : timer.RunsFor generation) :
      Lets timer generation (.sleep deadline { timer with nextDeadline := next })
  | deliver {deadline next : HostTime} (runs : timer.RunsFor generation) :
      Lets timer generation
        (.deliver deadline { timer with nextDeadline := next, ticks := timer.ticks + 1 })

theorem lets_pass (timer : Timer) (generation : Nat) (now : HostTime) :
    timer.Lets generation (timer.pass generation now) := by
  unfold pass
  split
  · exact .exit
  · rename_i current
    split
    · exact .park
    · rename_i enabled
      have runs := runsFor_of_guards current enabled
      dsimp only
      split
      · exact .sleep runs
      · exact .deliver runs

theorem lets_wake (timer : Timer) (generation : Nat) (deadline : HostTime) :
    timer.Lets generation (timer.wake generation deadline) := by
  unfold wake
  split
  · exact .exit
  · rename_i current
    split
    · exact .park
    · rename_i enabled
      exact .deliver (runsFor_of_guards current enabled)

end Timer

namespace Ticker

variable {ticker : Ticker} {moment : Moment}

/-- What a thread can do to its timer. -/
inductive Handles (ticker : Ticker) (moment : Moment) : Prop where
  | alone (silent : ticker.beat? moment = none)
      (same : (ticker.step moment).timer = ticker.timer)
  | dozes {deadline : HostTime} (runs : ticker.timer.RunsFor ticker.generation)
      (silent : ticker.beat? moment = none)
      (later : (ticker.step moment).timer = { ticker.timer with nextDeadline := deadline })
  | delivers {beat : Beat} {next : HostTime} (runs : ticker.timer.RunsFor ticker.generation)
      (struck : ticker.beat? moment = some beat)
      (later : (ticker.step moment).timer
        = { ticker.timer with nextDeadline := next, ticks := ticker.timer.ticks + 1 })

theorem handles_of_lets {reading : HostTime} {outcome : Timer.Pass}
    (passes : ticker.pass? moment = some (reading, outcome))
    (lets : ticker.timer.Lets ticker.generation outcome) : ticker.Handles moment := by
  cases lets with
  | exit => exact .alone (by simp only [beat?, passes]) (by simp only [step, passes, follow])
  | park => exact .alone (by simp only [beat?, passes]) (by simp only [step, passes, follow])
  | sleep runs =>
      apply Handles.dozes runs
      · simp only [beat?, passes]
      · simp only [step, passes, follow]
        rfl
  | deliver runs =>
      apply Handles.delivers runs
      · simp only [beat?, passes]
        rfl
      · simp only [step, passes, follow]
        rfl

theorem handles_pass (ticker : Ticker) (now : HostTime) : ticker.Handles (.pass now) := by
  by_cases ended : ticker.stance = .ended
  · have idle : ticker.pass? (.pass now) = none := if_pos ended
    exact .alone (by simp only [beat?, idle]) (by simp only [step, idle, changed])
  · have passes : ticker.pass? (.pass now)
        = some (now, ticker.timer.pass ticker.generation now) := if_neg ended
    exact handles_of_lets passes (ticker.timer.lets_pass ticker.generation now)

theorem handles_timeout (ticker : Ticker) : ticker.Handles .timeout := by
  cases stance : ticker.stance with
  | asleep deadline reading =>
      have wakes : ticker.pass? .timeout
          = some (reading, ticker.timer.wake ticker.generation deadline) := by
        simp only [pass?, stance]
      exact handles_of_lets wakes (ticker.timer.lets_wake ticker.generation deadline)
  | _ =>
      have idle : ticker.pass? .timeout = none := by simp only [pass?, stance]
      exact .alone (by simp only [beat?, idle]) (by simp only [step, idle, changed])

end Ticker

theorem Act.handles {act : Act} {index : Nat} {moment : Moment}
    (own : act.thread? = some (index, moment)) (ticker : Ticker) : ticker.Handles moment := by
  cases act with
  | pass thread now =>
      obtain ⟨-, rfl⟩ := Prod.mk.inj (Option.some.inj own)
      exact ticker.handles_pass now
  | timeout thread =>
      obtain ⟨-, rfl⟩ := Prod.mk.inj (Option.some.inj own)
      exact ticker.handles_timeout
  | _ => cases own

namespace Signaler

/-! ## One act -/

variable {signaler after : Signaler} {event : Option Event}

/-- What an act can do. -/
inductive Acts (signaler : Signaler) : Signaler → Option Event → Prop where
  /-- Nobody gets hold of the timer, or a call fails. -/
  | blocked : Acts signaler signaler none
  | begins {timer : Timer} (free : signaler.spawning = none) (fresh : timer.started = true)
      (next : timer.generation = signaler.timer.generation + 1)
      (enabled : timer.enabled = signaler.timer.enabled)
      (ticks : timer.ticks = signaler.timer.ticks) :
      Acts signaler { signaler with timer := timer, spawning := some timer.generation }
        (some (.began timer.generation))
  | spawns {generation : Nat} (waits : signaler.spawning = some generation) :
      Acts signaler
        { signaler with
          threads := signaler.threads ++ [{ generation := generation }]
          spawning := none } none
  | stops :
      Acts signaler { signaler with timer := signaler.timer.stop, spawning := none }
        (some .stopped)
  | switches {on : Bool} :
      Acts signaler { signaler with timer := signaler.timer.setEnabled on } (some (.switched on))
  | paces {period : Duration} :
      Acts signaler { signaler with timer := { signaler.timer with period := period } } none
  | rests {index : Nat} {thread : Thread} {stance : Stance}
      (there : signaler.threads[index]? = some thread) :
      Acts signaler
        { signaler with threads := signaler.threads.set index { thread with stance := stance } }
        none
  | dozes {index : Nat} {thread : Thread} {stance : Stance} {deadline : HostTime}
      (there : signaler.threads[index]? = some thread)
      (runs : signaler.timer.RunsFor thread.generation) :
      Acts signaler
        { signaler with
          timer := { signaler.timer with nextDeadline := deadline }
          threads := signaler.threads.set index { thread with stance := stance } } none
  | delivers {index : Nat} {thread : Thread} {stance : Stance} {deadline next : HostTime}
      (there : signaler.threads[index]? = some thread)
      (runs : signaler.timer.RunsFor thread.generation) :
      Acts signaler
        { signaler with
          timer := { signaler.timer with
            nextDeadline := next
            ticks := signaler.timer.ticks + 1 }
          threads := signaler.threads.set index { thread with stance := stance } }
        (some (.delivered thread.generation deadline))

theorem acts_advance {act : Act} {index : Nat} {moment : Moment}
    (own : act.thread? = some (index, moment)) (signaler : Signaler) :
    signaler.Acts (signaler.advance index moment) (signaler.delivery? index moment) := by
  unfold advance delivery?
  cases there : signaler.threads[index]? with
  | none => exact .blocked
  | some thread =>
      cases Act.handles own (signaler.ticker thread) with
      | alone silent same =>
          simp only [silent, same]
          exact .rests there
      | dozes runs silent later =>
          simp only [silent, later]
          exact .dozes there runs
      | delivers runs struck later =>
          simp only [struck, later]
          exact .delivers there runs

theorem acts_start (signaler : Signaler) (first : HostTime) (period : Duration) :
    signaler.Acts (signaler.step (.start first period))
      (signaler.event? (.start first period)) := by
  simp only [step, event?]
  cases free : signaler.spawning with
  | some generation => exact .blocked
  | none =>
      cases started : signaler.timer.start first period with
      | error cause => exact .blocked
      | ok timer =>
          unfold Timer.start at started
          split at started
          · cases started
          · split at started
            · cases started
            · obtain rfl := Except.ok.inj started
              exact .begins free rfl rfl rfl rfl

theorem acts_step (signaler : Signaler) (act : Act) :
    signaler.Acts (signaler.step act) (signaler.event? act) := by
  cases act with
  | start first period => exact signaler.acts_start first period
  | spawn =>
      simp only [step, event?]
      cases waits : signaler.spawning with
      | none => exact .blocked
      | some generation => exact .spawns waits
  | spawnFails =>
      simp only [step, event?]
      cases signaler.spawning with
      | none => exact .blocked
      | some generation => exact .stops
  | enable on => exact .switches
  | setPeriod period =>
      simp only [step, event?, Timer.setPeriod]
      split
      · exact .blocked
      · exact .paces
  | stop =>
      simp only [step, event?]
      cases free : signaler.spawning with
      | some generation => exact .blocked
      | none =>
          simp only [Option.isSome_none, Bool.false_eq_true, if_false]
          exact .stops
  | pass index now =>
      have own : Act.thread? (.pass index now) = some (index, .pass now) := rfl
      exact acts_advance own signaler
  | timeout index =>
      have own : Act.thread? (.timeout index) = some (index, .timeout) := rfl
      exact acts_advance own signaler

/-! ## Who is there -/

def generations (signaler : Signaler) : List Nat := signaler.threads.map Thread.generation

/-- Each thread is of a generation of its own, and of one that has begun. -/
structure Sound (signaler : Signaler) : Prop where
  unique : signaler.generations.Nodup
  begun : ∀ generation ∈ signaler.generations, generation ≤ signaler.timer.generation
  awaited : ∀ generation, signaler.spawning = some generation →
    generation = signaler.timer.generation ∧ generation ∉ signaler.generations

/-- Threads keep their places, and no generation is the current one again. -/
structure Grows (signaler after : Signaler) : Prop where
  kept : signaler.generations <+: after.generations
  forward : signaler.timer.generation ≤ after.timer.generation

theorem generations_set {index : Nat} {thread : Thread} {stance : Stance}
    (there : signaler.threads[index]? = some thread) :
    (signaler.threads.set index { thread with stance := stance }).map Thread.generation
      = signaler.generations := by
  obtain ⟨bound, rfl⟩ := List.getElem?_eq_some_iff.mp there
  rw [List.map_set, ← List.getElem_map Thread.generation, List.set_getElem_self]
  · rfl
  · rwa [List.length_map]

theorem Sound.congr (sound : signaler.Sound) (threads : after.generations = signaler.generations)
    (timer : after.timer.generation = signaler.timer.generation)
    (spawning : after.spawning = signaler.spawning) : after.Sound := by
  refine ⟨?_, ?_, ?_⟩
  · rw [threads]
    exact sound.unique
  · rw [threads, timer]
    exact sound.begun
  · rw [threads, timer, spawning]
    exact sound.awaited

theorem sound_new : Sound {} := ⟨List.nodup_nil, nofun, nofun⟩

theorem Acts.sound (acts : signaler.Acts after event) (sound : signaler.Sound) :
    after.Sound := by
  cases acts with
  | blocked => exact sound
  | @begins timer free fresh next enabled ticks =>
      -- no thread is of the generation that begins
      have older : ∀ generation ∈ signaler.generations, generation < timer.generation := by
        intro generation member
        have := sound.begun generation member
        omega
      refine ⟨sound.unique, ?_, ?_⟩
      · intro generation member
        exact (older generation member).le
      · rintro generation ⟨⟩
        refine ⟨rfl, ?_⟩
        intro member
        exact (older _ member).ne rfl
  | @spawns generation waits =>
      obtain ⟨rfl, absent⟩ := sound.awaited generation waits
      have joined : generations { signaler with
            threads := signaler.threads ++ [{ generation := signaler.timer.generation }]
            spawning := none }
          = signaler.generations.concat signaler.timer.generation := by
        simp only [generations, List.map_append, List.map_cons, List.map_nil,
          List.concat_eq_append]
      refine ⟨?_, ?_, nofun⟩
      · rw [joined]
        exact sound.unique.concat absent
      · intro generation member
        rw [joined, List.concat_eq_append, List.mem_append, List.mem_singleton] at member
        rcases member with member | rfl
        · exact sound.begun generation member
        · exact le_rfl
  | stops => exact ⟨sound.unique, sound.begun, nofun⟩
  | switches => exact sound.congr rfl rfl rfl
  | paces => exact sound.congr rfl rfl rfl
  | rests there => exact sound.congr (generations_set there) rfl rfl
  | dozes there runs => exact sound.congr (generations_set there) rfl rfl
  | delivers there runs => exact sound.congr (generations_set there) rfl rfl

theorem grows_of_eq (threads : after.generations = signaler.generations)
    (timer : after.timer.generation = signaler.timer.generation) : signaler.Grows after := by
  refine ⟨?_, timer.ge⟩
  rw [threads]

theorem Acts.grows (acts : signaler.Acts after event) : signaler.Grows after := by
  cases acts with
  | begins free fresh next enabled ticks => exact ⟨List.prefix_rfl, next ▸ Nat.le_succ _⟩
  | spawns waits =>
      refine ⟨?_, le_rfl⟩
      simp only [generations, List.map_append]
      exact List.prefix_append _ _
  | rests there => exact grows_of_eq (generations_set there) rfl
  | dozes there runs => exact grows_of_eq (generations_set there) rfl
  | delivers there runs => exact grows_of_eq (generations_set there) rfl
  | _ => exact grows_of_eq rfl rfl

theorem sound_run (sound : signaler.Sound) (acts : List Act) : (signaler.run acts).Sound := by
  induction acts generalizing signaler with
  | nil => exact sound
  | cons act rest ih => exact ih ((signaler.acts_step act).sound sound)

theorem grows_run (signaler : Signaler) (acts : List Act) : signaler.Grows (signaler.run acts) := by
  induction acts generalizing signaler with
  | nil => exact grows_of_eq rfl rfl
  | cons act rest ih =>
      have first := (signaler.acts_step act).grows
      have others := ih (signaler.step act)
      exact ⟨first.kept.trans others.kept, first.forward.trans others.forward⟩

theorem run_append (signaler : Signaler) (acts later : List Act) :
    signaler.run (acts ++ later) = (signaler.run acts).run later := by
  induction acts generalizing signaler with
  | nil => rfl
  | cons act rest ih => exact ih (signaler.step act)

/-! ## Who acts -/

theorem step_own {act : Act} {index : Nat} {moment : Moment}
    (own : act.thread? = some (index, moment)) (signaler : Signaler) :
    signaler.step act = signaler.advance index moment
      ∧ signaler.event? act = signaler.delivery? index moment := by
  cases act with
  | pass thread now =>
      obtain ⟨rfl, rfl⟩ := Prod.mk.inj (Option.some.inj own)
      exact ⟨rfl, rfl⟩
  | timeout thread =>
      obtain ⟨rfl, rfl⟩ := Prod.mk.inj (Option.some.inj own)
      exact ⟨rfl, rfl⟩
  | _ => cases own

/-- A thread of a generation other than the current one does nothing to the timer. -/
theorem still_of_stale {act : Act} {index : Nat} {moment : Moment} {thread : Thread}
    (own : act.thread? = some (index, moment))
    (there : signaler.threads[index]? = some thread)
    (stale : thread.generation ≠ signaler.timer.generation) :
    (signaler.step act).timer = signaler.timer ∧ signaler.event? act = none := by
  obtain ⟨acted, told⟩ := step_own own signaler
  rw [acted, told]
  simp only [advance, delivery?, there]
  cases Act.handles own (signaler.ticker thread) with
  | alone silent same =>
      simp only [silent]
      exact ⟨same, rfl⟩
  | dozes runs => exact absurd runs.current.symm stale
  | delivers runs => exact absurd runs.current.symm stale

theorem still_later {thread : Thread} {index : Nat} (sound : signaler.Sound)
    (there : signaler.threads[index]? = some thread)
    (stale : thread.generation ≠ signaler.timer.generation) (later : List Act) {act : Act}
    {moment : Moment} (own : act.thread? = some (index, moment)) :
    ((signaler.run later).step act).timer = (signaler.run later).timer
      ∧ (signaler.run later).event? act = none := by
  have grown := signaler.grows_run later
  have listed : signaler.generations[index]? = some thread.generation := by
    rw [generations, List.getElem?_map, there]
    rfl
  have behind : thread.generation < signaler.timer.generation :=
    (sound.begun _ (List.mem_of_getElem? listed)).lt_of_ne stale
  -- The thread may have moved since, but it is of the same generation.
  obtain ⟨bound, entry⟩ := List.getElem?_eq_some_iff.mp listed
  have kept := List.prefix_iff_getElem?.mp grown.kept index bound
  rw [entry, generations, List.getElem?_map] at kept
  obtain ⟨now, present, same⟩ := Option.map_eq_some_iff.mp kept
  apply still_of_stale own present
  rw [same]
  exact (behind.trans_le grown.forward).ne

theorem Acts.decided {generation : Nat} {deadline : HostTime}
    (acts : signaler.Acts after (some (.delivered generation deadline))) :
    signaler.timer.RunsFor generation := by
  cases acts with
  | delivers there runs => exact runs

/-! ## What is told -/

/-- The generation that runs. -/
def running? (signaler : Signaler) : Option Nat :=
  if signaler.timer.started then some signaler.timer.generation else none

theorem Acts.gated {rest : List Event} (acts : signaler.Acts after event)
    (later : Gated after.running? after.timer.enabled rest) :
    Gated signaler.running? signaler.timer.enabled (event.toList ++ rest) := by
  cases acts with
  | @begins timer free fresh next enabled ticks =>
      simp only [running?, fresh, if_true, enabled] at later
      exact later
  | stops => exact later
  | switches => exact later
  | @delivers index thread stance deadline next there runs =>
      have current : signaler.running? = some thread.generation := by
        rw [running?, if_pos runs.started, runs.current]
      exact ⟨current, runs.enabled, later⟩
  | _ => exact later

theorem gated_events (signaler : Signaler) (acts : List Act) :
    Gated signaler.running? signaler.timer.enabled (signaler.events acts) := by
  induction acts generalizing signaler with
  | nil => trivial
  | cons act rest ih => exact (signaler.acts_step act).gated (ih (signaler.step act))

theorem Acts.counted (acts : signaler.Acts after event) :
    after.timer.ticks = signaler.timer.ticks + event.toList.countP Event.isDelivered := by
  cases acts with
  | begins free fresh next enabled ticks => exact ticks
  | _ => rfl

theorem counted_run (signaler : Signaler) (acts : List Act) :
    (signaler.run acts).timer.ticks
      = signaler.timer.ticks + (signaler.events acts).countP Event.isDelivered := by
  induction acts generalizing signaler with
  | nil => rfl
  | cons act rest ih =>
      rw [run, ih, (signaler.acts_step act).counted, events, List.countP_append, Nat.add_assoc]

/-- **Every interleaving of clients and timer threads is governed by the timer.** At most one thread
is of the current generation, threads of earlier ones are without effect, and whatever is delivered
is delivered and counted while the timer runs. -/
theorem governed_run (acts : List Act) : Governed acts where
  single := by
    have sound := sound_run sound_new acts
    have once := List.nodup_iff_count_le_one.mp sound.unique (run {} acts).timer.generation
    rwa [generations, List.count, List.countP_map] at once
  stale index thread there stale later act moment own := by
    rw [run_append]
    exact still_later (sound_run sound_new acts) there stale later own
  decided act generation deadline told := by
    have acts := (run {} acts).acts_step act
    rw [told] at acts
    exact acts.decided
  gated := gated_events {} acts
  counted := by
    rw [counted_run]
    exact Nat.zero_add _

/-- A client of this run stops the timer and starts it again while the first thread is in the
callback. -/
def restartRun : List Act :=
  [.start ⟨10⟩ ⟨5⟩, .spawn, .enable true, .pass 0 ⟨10⟩, .stop, .start ⟨20⟩ ⟨5⟩, .spawn,
    .pass 1 ⟨20⟩, .pass 0 ⟨25⟩]

/-- A thread that comes back to a timer which was started again leaves it to the new one. -/
theorem governed_run_restarted :
    Governed restartRun ∧ (run {} restartRun).timer.ticks = 2 ∧
      events {} restartRun = [.began 1, .switched true, .delivered 1 ⟨10⟩, .stopped, .began 2,
        .delivered 2 ⟨20⟩] := by
  refine ⟨governed_run restartRun, ?_, ?_⟩
  · decide
  · decide

end Signaler

end Scanout.Vsync
