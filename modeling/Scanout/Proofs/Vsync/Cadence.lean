import Scanout.Proofs.Vsync.Grid
import Scanout.Vsync.Timer

/-!
# The cadence of a timer

A `Ticker` is a timer with the thread of one of its generations. The thread makes a pass whenever
it is woken or comes back from the callback, and reads the clock anew; or it sleeps until its sleep
runs out, and then delivers the deadline that it went to sleep with. Meanwhile others switch
delivery on and off, change the period or stop the timer. A `Moment` is one of these, and a `Beat`
is a tick that is delivered.

All that a moment can do to the next deadline is to move it by whole periods when it has passed, and
to move it by the period in force when it is delivered (`advances_step`). What follows from this for
all beats of a generation is `Cadence`.
-/

set_option autoImplicit false

namespace Scanout.Vsync

/-- Where a timer thread stands. -/
inductive Stance where
  /-- It is about to make a pass, or waits for the timer to be changed. -/
  | awake
  /-- It went to sleep until a deadline after it had read the clock. -/
  | asleep (deadline reading : HostTime)
  | ended
  deriving DecidableEq

structure Ticker where
  timer : Timer
  generation : Nat
  stance : Stance := .awake
  deriving DecidableEq

inductive Moment where
  /-- The thread makes a pass and reads the clock. -/
  | pass (now : HostTime)
  /-- The thread's sleep runs out. -/
  | timeout
  | enable (on : Bool)
  | setPeriod (period : Duration)
  | stop

/-- A tick that is delivered. -/
structure Beat where
  deadline : HostTime
  /-- The clock when it was last read before. -/
  reading : HostTime
  /-- The period in force. -/
  period : Duration
  deriving DecidableEq

namespace Ticker

/-- What the thread does at a moment, and its last reading of the clock. -/
def pass? (ticker : Ticker) : Moment → Option (HostTime × Timer.Pass)
  | .pass now =>
    if ticker.stance = .ended then none else some (now, ticker.timer.pass ticker.generation now)
  | .timeout =>
    match ticker.stance with
    | .asleep deadline reading => some (reading, ticker.timer.wake ticker.generation deadline)
    | _ => none
  | _ => none

def follow (ticker : Ticker) (reading : HostTime) : Timer.Pass → Ticker
  | .exit => { ticker with stance := .ended }
  | .park => { ticker with stance := .awake }
  | .sleep deadline timer => { ticker with timer := timer, stance := .asleep deadline reading }
  | .deliver _ timer => { ticker with timer := timer, stance := .awake }

/-- What others do to the timer at a moment. -/
def changed (timer : Timer) : Moment → Timer
  | .enable on => timer.setEnabled on
  | .setPeriod period => timer.setPeriod period
  | .stop => timer.stop
  | _ => timer

def step (ticker : Ticker) (moment : Moment) : Ticker :=
  match ticker.pass? moment with
  | some (reading, pass) => ticker.follow reading pass
  | none => { ticker with timer := changed ticker.timer moment }

def beat? (ticker : Ticker) (moment : Moment) : Option Beat :=
  match ticker.pass? moment with
  | some (reading, .deliver deadline _) => some ⟨deadline, reading, ticker.timer.period⟩
  | _ => none

def run (ticker : Ticker) : List Moment → Ticker
  | [] => ticker
  | moment :: rest => run (ticker.step moment) rest

/-- The ticks that are delivered, in order. -/
def beats (ticker : Ticker) : List Moment → List Beat
  | [] => []
  | moment :: rest => (ticker.beat? moment).toList ++ (ticker.step moment).beats rest

/-- The next deadline. -/
def due (ticker : Ticker) : HostTime := ticker.timer.nextDeadline

/-- The thread of the generation that has just begun. -/
def begin (timer : Timer) : Ticker := ⟨timer, timer.generation, .awake⟩

end Ticker

/-- What is read from the clock lies before its end. -/
def Moment.IsEarly : Moment → Prop
  | .pass now => now.nanos < HostTime.last.nanos
  | _ => True

instance (moment : Moment) : Decidable moment.IsEarly :=
  match moment with
  | .pass now => inferInstanceAs (Decidable (now.nanos < HostTime.last.nanos))
  | .timeout | .enable _ | .setPeriod _ | .stop => inferInstanceAs (Decidable True)

/-- All times lie before the end of the clock, so that no sum stops there. -/
def Ticker.Early (ticker : Ticker) : List Moment → Prop
  | [] => True
  | moment :: rest =>
    moment.IsEarly ∧ (ticker.step moment).due.nanos < HostTime.last.nanos
      ∧ (ticker.step moment).Early rest

def Ticker.decidableEarly (ticker : Ticker) :
    (moments : List Moment) → Decidable (ticker.Early moments)
  | [] => inferInstanceAs (Decidable True)
  | moment :: rest =>
    have := (ticker.step moment).decidableEarly rest
    inferInstanceAs (Decidable (moment.IsEarly
      ∧ (ticker.step moment).due.nanos < HostTime.last.nanos ∧ (ticker.step moment).Early rest))

instance (ticker : Ticker) (moments : List Moment) : Decidable (ticker.Early moments) :=
  ticker.decidableEarly moments

/-- What holds of the ticks of a generation with this first deadline and first period. -/
structure Cadence (first : HostTime) (period : Duration) (ticker : Ticker)
    (moments : List Moment) : Prop where
  /-- No tick was due when the clock was last read before it. -/
  punctual : ∀ beat ∈ ticker.beats moments, beat.reading.nanos ≤ beat.deadline.nanos
  notBefore : ∀ beat ∈ ticker.beats moments, first.nanos ≤ beat.deadline.nanos
  /-- Ticks lie apart by the period that was in force at the earlier one. -/
  spaced : (ticker.beats moments).Pairwise fun earlier later =>
    earlier.deadline.nanos.toNat + earlier.period.nanos ≤ later.deadline.nanos.toNat
  increasing : (ticker.beats moments).Pairwise fun earlier later =>
    earlier.deadline.nanos < later.deadline.nanos
  onGrid : (∀ other, .setPeriod other ∈ moments → other.isZero = true ∨ other = period) →
    ∀ beat ∈ ticker.beats moments,
      beat.deadline.nanos.toNat ≡ first.nanos.toNat [MOD period.nanos]
  /-- After a change of the period, the next deadline stays until it has passed or is delivered. -/
  kept : ∀ other later,
    (∀ now, .pass now ∈ later → now.nanos ≤ (ticker.run moments).due.nanos) →
    match (((ticker.run moments).step (.setPeriod other)).beats later).head? with
    | some beat => beat.deadline = (ticker.run moments).due
    | none =>
      (((ticker.run moments).step (.setPeriod other)).run later).due = (ticker.run moments).due

/-! ## Passes of the thread -/

namespace Timer

theorem pass_cases (timer : Timer) (generation : Nat) (now : HostTime) :
    let deadline := catchUp timer.nextDeadline timer.period now
    let caughtUp := { timer with nextDeadline := deadline }
    timer.pass generation now = .exit ∨ timer.pass generation now = .park
      ∨ now.nanos < deadline.nanos ∧ timer.pass generation now = .sleep deadline caughtUp
      ∨ timer.pass generation now = .deliver deadline (caughtUp.delivered deadline) := by
  unfold pass
  split
  · exact .inl rfl
  · split
    · exact .inr (.inl rfl)
    · dsimp only
      split
      · rename_i ahead
        exact .inr (.inr (.inl ⟨ahead, rfl⟩))
      · exact .inr (.inr (.inr rfl))

theorem wake_cases (timer : Timer) (generation : Nat) (deadline : HostTime) :
    timer.wake generation deadline = .exit ∨ timer.wake generation deadline = .park
      ∨ timer.wake generation deadline = .deliver deadline (timer.delivered deadline) := by
  unfold wake
  split
  · exact .inl rfl
  · split
    · exact .inr (.inl rfl)
    · exact .inr (.inr rfl)

theorem setPeriod_running {timer : Timer} (running : timer.period.isZero = false)
    (period : Duration) : (timer.setPeriod period).period.isZero = false := by
  unfold setPeriod
  split
  · exact running
  · rename_i positive
    exact Bool.eq_false_iff.mpr positive

theorem setPeriod_nextDeadline (timer : Timer) (period : Duration) :
    (timer.setPeriod period).nextDeadline = timer.nextDeadline := by
  unfold setPeriod
  split <;> rfl

end Timer

/-- A sum that lies before the end of the clock is exact. -/
theorem add_exact {time : HostTime} {duration : Duration}
    (inside : (time.add duration).nanos < HostTime.last.nanos) :
    (time.add duration).nanos.toNat = time.nanos.toNat + duration.nanos := by
  have sum := time.toNat_add duration
  rw [UInt64.lt_iff_toNat_lt, toNat_last] at inside
  omega

theorem inside_of_add {time : HostTime} {duration : Duration}
    (inside : (time.add duration).nanos < HostTime.last.nanos) :
    time.nanos < HostTime.last.nanos := by
  have exactly := add_exact inside
  rw [UInt64.lt_iff_toNat_lt] at inside ⊢
  omega

namespace Ticker

/-! ## One moment -/

/-- The period is not zero, and a thread that sleeps waits for the next deadline. -/
structure Sound (ticker : Ticker) : Prop where
  running : ticker.timer.period.isZero = false
  asleep : ∀ deadline reading, ticker.stance = .asleep deadline reading →
    ticker.due = deadline ∧ reading.nanos ≤ deadline.nanos

/-- What the thread can do at a moment. -/
inductive Acts (ticker : Ticker) (moment : Moment) : Prop where
  | idle (idle : ticker.pass? moment = none)
  | exits {reading : HostTime} (exits : ticker.pass? moment = some (reading, .exit))
  | parks {reading : HostTime} (parks : ticker.pass? moment = some (reading, .park))
  | sleeps {now : HostTime} (passes : moment = .pass now)
      (ahead : now.nanos < (catchUp ticker.due ticker.timer.period now).nanos)
      (sleeps : ticker.pass? moment = some (now,
        .sleep (catchUp ticker.due ticker.timer.period now)
          { ticker.timer with nextDeadline := catchUp ticker.due ticker.timer.period now }))
  | delivers {reading deadline : HostTime} {timer : Timer}
      (due : (moment = .pass reading ∧ deadline = catchUp ticker.due ticker.timer.period reading)
        ∨ ticker.stance = .asleep deadline reading)
      (period : timer.period = ticker.timer.period)
      (delivers : ticker.pass? moment
        = some (reading, .deliver deadline (timer.delivered deadline)))

theorem acts (ticker : Ticker) (moment : Moment) : ticker.Acts moment := by
  cases moment with
  | pass now =>
      by_cases ended : ticker.stance = .ended
      · exact .idle (if_pos ended)
      · have passes : ticker.pass? (.pass now)
            = some (now, ticker.timer.pass ticker.generation now) := if_neg ended
        rcases ticker.timer.pass_cases ticker.generation now
          with exits | parks | ⟨ahead, sleeps⟩ | delivers
        · exact .exits (passes.trans (by rw [exits]))
        · exact .parks (passes.trans (by rw [parks]))
        · exact .sleeps rfl ahead (passes.trans (by rw [sleeps]; rfl))
        · exact .delivers (.inl ⟨rfl, rfl⟩) rfl (passes.trans (by rw [delivers]; rfl))
  | timeout =>
      cases stance : ticker.stance with
      | asleep deadline reading =>
          have passes : ticker.pass? .timeout
              = some (reading, ticker.timer.wake ticker.generation deadline) := by
            simp only [pass?, stance]
          rcases ticker.timer.wake_cases ticker.generation deadline with exits | parks | delivers
          · exact .exits (passes.trans (by rw [exits]))
          · exact .parks (passes.trans (by rw [parks]))
          · exact .delivers (.inr stance) rfl (passes.trans (by rw [delivers]))
      | _ => exact .idle (by simp only [pass?, stance])
  | _ => exact .idle rfl

variable {ticker : Ticker}

theorem changed_period_isZero (running : ticker.timer.period.isZero = false) (moment : Moment) :
    (changed ticker.timer moment).period.isZero = false := by
  cases moment with
  | setPeriod period => exact Timer.setPeriod_running running period
  | _ => exact running

theorem changed_nextDeadline (timer : Timer) (moment : Moment) :
    (changed timer moment).nextDeadline = timer.nextDeadline := by
  cases moment with
  | setPeriod period => exact timer.setPeriod_nextDeadline period
  | _ => rfl

theorem sound_step (sound : ticker.Sound) (moment : Moment) : (ticker.step moment).Sound := by
  cases ticker.acts moment with
  | idle idle =>
      simp only [step, idle]
      refine ⟨changed_period_isZero sound.running moment, ?_⟩
      intro deadline reading stance
      obtain ⟨waits, punctual⟩ := sound.asleep deadline reading stance
      exact ⟨(changed_nextDeadline ticker.timer moment).trans waits, punctual⟩
  | exits exits =>
      simp only [step, exits]
      exact ⟨sound.running, fun _ _ stance => by cases stance⟩
  | parks parks =>
      simp only [step, parks]
      exact ⟨sound.running, fun _ _ stance => by cases stance⟩
  | sleeps _ ahead sleeps =>
      simp only [step, sleeps]
      refine ⟨sound.running, ?_⟩
      intro deadline reading stance
      obtain ⟨rfl, rfl⟩ := Stance.asleep.inj stance
      exact ⟨rfl, UInt64.le_of_lt ahead⟩
  | delivers _ period delivers =>
      simp only [step, delivers]
      refine ⟨?_, fun _ _ stance => by cases stance⟩
      exact period ▸ sound.running

/-- What one moment can do to the next deadline. -/
inductive Advances (ticker : Ticker) (moment : Moment) : Prop where
  | silent (count : Nat) (silent : ticker.beat? moment = none)
      (moved : (ticker.step moment).due.nanos.toNat
        = ticker.due.nanos.toNat + count * ticker.timer.period.nanos)
  | beat (count : Nat) {beat : Beat} (struck : ticker.beat? moment = some beat)
      (punctual : beat.reading.nanos ≤ beat.deadline.nanos)
      (period : beat.period = ticker.timer.period)
      (moved : beat.deadline.nanos.toNat
        = ticker.due.nanos.toNat + count * ticker.timer.period.nanos)
      (next : (ticker.step moment).due.nanos.toNat
        = beat.deadline.nanos.toNat + beat.period.nanos)

theorem Advances.untouched {moment : Moment} (silent : ticker.beat? moment = none)
    (same : (ticker.step moment).due = ticker.due) : ticker.Advances moment :=
  .silent 0 silent (by rw [same, Nat.zero_mul, Nat.add_zero])

theorem advances_step (sound : ticker.Sound) {moment : Moment} (early : moment.IsEarly)
    (inside : (ticker.step moment).due.nanos < HostTime.last.nanos) : ticker.Advances moment := by
  cases ticker.acts moment with
  | idle idle =>
      refine .untouched (by simp only [beat?, idle]) ?_
      simp only [step, idle]
      exact changed_nextDeadline ticker.timer moment
  | exits exits =>
      exact .untouched (by simp only [beat?, exits]) (by simp only [step, exits]; rfl)
  | parks parks =>
      exact .untouched (by simp only [beat?, parks]) (by simp only [step, parks]; rfl)
  | @sleeps now passes _ sleeps =>
      subst passes
      simp only [step, sleeps] at inside
      obtain ⟨_, count, moved⟩ := catchUp_onGrid early inside sound.running
      refine .silent count (by simp only [beat?, sleeps]) ?_
      simp only [step, sleeps]
      exact moved
  | @delivers reading deadline timer due period delivers =>
      have struck : ticker.beat? moment = some ⟨deadline, reading, ticker.timer.period⟩ := by
        simp only [beat?, delivers]
      have next : (ticker.step moment).due = deadline.add ticker.timer.period := by
        simp only [step, delivers]
        exact congrArg deadline.add period
      rw [next] at inside
      have exactly := add_exact inside
      rcases due with ⟨rfl, rfl⟩ | asleep
      · obtain ⟨punctual, count, moved⟩ :=
          catchUp_onGrid early (inside_of_add inside) sound.running
        exact .beat count struck punctual rfl moved (next ▸ exactly)
      -- the deadline that the thread went to sleep with is still the next one
      · obtain ⟨rfl, punctual⟩ := sound.asleep deadline reading asleep
        exact .beat 0 struck punctual rfl (by rw [Nat.zero_mul, Nat.add_zero]) (next ▸ exactly)

/-- A deadline that has not passed stays, unless it is delivered. -/
theorem step_unelapsed (sound : ticker.Sound) {moment : Moment}
    (unelapsed : ∀ now, moment = .pass now → now.nanos ≤ ticker.due.nanos) :
    (ticker.beat? moment = none ∧ (ticker.step moment).due = ticker.due)
      ∨ ∃ beat, ticker.beat? moment = some beat ∧ beat.deadline = ticker.due := by
  cases ticker.acts moment with
  | idle idle =>
      refine .inl ⟨by simp only [beat?, idle], ?_⟩
      simp only [step, idle]
      exact changed_nextDeadline ticker.timer moment
  | exits exits =>
      exact .inl ⟨by simp only [beat?, exits], by simp only [step, exits]; rfl⟩
  | parks parks =>
      exact .inl ⟨by simp only [beat?, parks], by simp only [step, parks]; rfl⟩
  | @sleeps now passes _ sleeps =>
      have stays := catchUp_of_le ticker.timer.period (unelapsed now passes)
      refine .inl ⟨by simp only [beat?, sleeps], ?_⟩
      simp only [step, sleeps]
      exact stays
  | @delivers reading deadline timer due period delivers =>
      refine .inr ⟨⟨deadline, reading, ticker.timer.period⟩, by simp only [beat?, delivers], ?_⟩
      rcases due with ⟨passes, rfl⟩ | asleep
      · exact catchUp_of_le ticker.timer.period (unelapsed reading passes)
      · exact (sound.asleep deadline reading asleep).1.symm

theorem period_step {moment : Moment}
    (steady : ∀ other, moment = .setPeriod other →
      other.isZero = true ∨ other = ticker.timer.period) :
    (ticker.step moment).timer.period = ticker.timer.period := by
  cases ticker.acts moment with
  | idle idle =>
      simp only [step, idle]
      cases moment with
      | setPeriod other =>
          simp only [changed, Timer.setPeriod]
          split
          · rfl
          · rename_i positive
            exact (steady other rfl).resolve_left positive
      | _ => rfl
  | exits exits => simp only [step, exits]; rfl
  | parks parks => simp only [step, parks]; rfl
  | sleeps _ _ sleeps => simp only [step, sleeps]; rfl
  | delivers _ period delivers => simp only [step, delivers]; exact period

/-- The tick that comes next is the beat of a pass and of a sleep that nothing disturbs. -/
theorem beats_undisturbed (timer : Timer) (now : HostTime) :
    ((begin timer).beats [.pass now, .timeout]).map Beat.deadline
        = ((timer.nextTick? now).map Prod.fst).toList
      ∧ ∀ tick ∈ timer.nextTick? now,
        ((begin timer).run [.pass now, .timeout]).timer = tick.2 := by
  cases passed : timer.pass timer.generation now with
  | sleep deadline asleep =>
      rcases asleep.wake_cases timer.generation deadline with woken | woken | woken <;>
        simp [beats, beat?, run, step, passed, follow, pass?, Timer.nextTick?, begin, woken]
  | _ => simp [beats, beat?, run, step, passed, follow, pass?, Timer.nextTick?, begin, changed]

/-! ## A generation -/

theorem sound_run (sound : ticker.Sound) (moments : List Moment) : (ticker.run moments).Sound := by
  induction moments generalizing ticker with
  | nil => exact sound
  | cons moment rest ih => exact ih (sound_step sound moment)

theorem sound_begin {before timer : Timer} {first : HostTime} {period : Duration}
    (started : before.start first period = .ok timer) :
    (begin timer).Sound ∧ (begin timer).due = first ∧ timer.period = period := by
  unfold Timer.start at started
  split at started
  · cases started
  · rename_i positive
    split at started
    · cases started
    · obtain rfl := Except.ok.inj started
      exact ⟨⟨Bool.eq_false_iff.mpr positive, fun _ _ stance => by cases stance⟩, rfl, rfl⟩

/-- Every beat of a run falls on the next deadline or later, not before the clock was last read, and
a period after it is still to come. -/
theorem beats_from (sound : ticker.Sound) {moments : List Moment} (early : ticker.Early moments) :
    ∀ beat ∈ ticker.beats moments, ticker.due.nanos.toNat ≤ beat.deadline.nanos.toNat
      ∧ beat.reading.nanos ≤ beat.deadline.nanos ∧ beat.period.isZero = false := by
  induction moments generalizing ticker with
  | nil => intro beat member; cases member
  | cons moment rest ih =>
      obtain ⟨earlyMoment, inside, earlyRest⟩ := early
      have later := ih (sound_step sound moment) earlyRest
      intro beat member
      simp only [beats, List.mem_append, Option.mem_toList] at member
      cases advances_step sound earlyMoment inside with
      | silent count silent moved =>
          rcases member with now | after
          · rw [silent] at now
            cases now
          · obtain ⟨notBefore, others⟩ := later beat after
            exact ⟨by omega, others⟩
      | beat count struck punctual period moved next =>
          rcases member with now | after
          · rw [struck] at now
            obtain rfl := Option.some.inj now
            exact ⟨by omega, punctual, period ▸ sound.running⟩
          · obtain ⟨notBefore, others⟩ := later beat after
            exact ⟨by omega, others⟩

theorem beats_spaced (sound : ticker.Sound) {moments : List Moment} (early : ticker.Early moments) :
    (ticker.beats moments).Pairwise fun earlier later =>
      earlier.deadline.nanos.toNat + earlier.period.nanos ≤ later.deadline.nanos.toNat := by
  induction moments generalizing ticker with
  | nil => exact .nil
  | cons moment rest ih =>
      obtain ⟨earlyMoment, inside, earlyRest⟩ := early
      have soundAfter := sound_step sound moment
      have spaced := ih soundAfter earlyRest
      cases advances_step sound earlyMoment inside with
      | silent _ silent _ =>
          rw [beats, silent]
          exact spaced
      | beat _ struck _ _ _ next =>
          rw [beats, struck]
          refine List.pairwise_cons.mpr ⟨?_, spaced⟩
          intro later member
          have notBefore := (beats_from soundAfter earlyRest later member).1
          omega

theorem beats_onGrid (sound : ticker.Sound) {moments : List Moment} (early : ticker.Early moments)
    (steady : ∀ other, .setPeriod other ∈ moments →
      other.isZero = true ∨ other = ticker.timer.period) :
    ∀ beat ∈ ticker.beats moments,
      beat.deadline.nanos.toNat ≡ ticker.due.nanos.toNat [MOD ticker.timer.period.nanos] := by
  induction moments generalizing ticker with
  | nil => intro beat member; cases member
  | cons moment rest ih =>
      obtain ⟨earlyMoment, inside, earlyRest⟩ := early
      have same : (ticker.step moment).timer.period = ticker.timer.period :=
        period_step fun other here => steady other (here ▸ List.mem_cons_self)
      have later := ih (sound_step sound moment) earlyRest (by
        intro other member
        rw [same]
        exact steady other (List.mem_cons_of_mem moment member))
      rw [same] at later
      intro beat member
      simp only [beats, List.mem_append, Option.mem_toList] at member
      cases advances_step sound earlyMoment inside with
      | silent count silent moved =>
          rcases member with now | after
          · rw [silent] at now
            cases now
          · refine (later beat after).trans ?_
            rw [moved]
            exact Nat.add_mul_mod_self_right _ _ _
      | beat count struck punctual period moved next =>
          rcases member with now | after
          · rw [struck] at now
            obtain rfl := Option.some.inj now
            rw [moved]
            exact Nat.add_mul_mod_self_right _ _ _
          · refine (later beat after).trans ?_
            rw [next, moved, period]
            exact (Nat.add_mod_right _ _).trans (Nat.add_mul_mod_self_right _ _ _)

/-- The first beat, if there is one, is the next deadline if the clock is not read after it. -/
theorem beats_unelapsed (sound : ticker.Sound) {moments : List Moment}
    (unelapsed : ∀ now, .pass now ∈ moments → now.nanos ≤ ticker.due.nanos) :
    match (ticker.beats moments).head? with
    | some beat => beat.deadline = ticker.due
    | none => (ticker.run moments).due = ticker.due := by
  induction moments generalizing ticker with
  | nil => rfl
  | cons moment rest ih =>
      have unelapsedNow : ∀ now, moment = .pass now → now.nanos ≤ ticker.due.nanos :=
        fun now here => unelapsed now (here ▸ List.mem_cons_self)
      rcases step_unelapsed sound unelapsedNow with ⟨silent, stays⟩ | ⟨beat, struck, due⟩
      · have later := ih (sound_step sound moment) (by
          intro now member
          rw [stays]
          exact unelapsed now (List.mem_cons_of_mem moment member))
        rw [stays] at later
        simp only [beats, silent, Option.toList_none, List.nil_append]
        exact later
      · simp only [beats, struck, Option.toList_some, List.cons_append, List.head?_cons]
        exact due

theorem cadence_run {before timer : Timer} {first : HostTime} {period : Duration}
    (started : before.start first period = .ok timer) {moments : List Moment}
    (early : (begin timer).Early moments) : Cadence first period (begin timer) moments := by
  obtain ⟨sound, due, same⟩ := sound_begin started
  have from_due := beats_from sound early
  have spaced := beats_spaced sound early
  refine ⟨?_, ?_, spaced, ?_, ?_, ?_⟩
  · intro beat member
    exact (from_due beat member).2.1
  · intro beat member
    have notBefore := (from_due beat member).1
    rw [due] at notBefore
    exact UInt64.le_iff_toNat_le.mpr notBefore
  · refine spaced.imp_of_mem ?_
    intro earlier later member _ apart
    have running := (from_due earlier member).2.2
    have positive : earlier.period.nanos ≠ 0 := by simpa [Duration.isZero] using running
    exact UInt64.lt_iff_toNat_lt.mpr (by omega)
  · intro steady
    have onGrid := beats_onGrid sound early (by
      intro other member
      exact same ▸ steady other member)
    rw [due] at onGrid
    exact same ▸ onGrid
  · intro other later unelapsed
    have soundAfter := sound_run sound moments
    have stays : (((begin timer).run moments).step (.setPeriod other)).due
        = ((begin timer).run moments).due :=
      ((begin timer).run moments).timer.setPeriod_nextDeadline other
    rw [← stays] at unelapsed ⊢
    exact beats_unelapsed (sound_step soundAfter _) unelapsed

/-- The period is changed while the thread sleeps, and a pass comes late. -/
def lateRun : List Moment :=
  [.enable true, .pass ⟨995⟩, .setPeriod ⟨20⟩, .timeout, .pass ⟨1057⟩, .enable false, .timeout,
    .enable true, .pass ⟨1060⟩]

def lateTimer : Timer :=
  { started := true, generation := 1, period := ⟨10⟩, nextDeadline := ⟨1000⟩ }

theorem cadence_run_late :
    ({} : Timer).start ⟨1000⟩ ⟨10⟩ = .ok lateTimer ∧ (begin lateTimer).Early lateRun
      ∧ Cadence ⟨1000⟩ ⟨10⟩ (begin lateTimer) lateRun
      ∧ (begin lateTimer).beats lateRun
        = [⟨⟨1000⟩, ⟨995⟩, ⟨20⟩⟩, ⟨⟨1060⟩, ⟨1060⟩, ⟨20⟩⟩] := by
  have started : ({} : Timer).start ⟨1000⟩ ⟨10⟩ = .ok lateTimer := rfl
  have early : (begin lateTimer).Early lateRun := by decide
  exact ⟨started, early, cadence_run started early, by decide⟩

end Ticker

end Scanout.Vsync
