import Scanout.Proofs.Vsync.Generations

/-!
# Stopping a timer while its callback runs

A start keeps the handle of its thread, and a stop takes it: in one section it stops the timer and
takes the handle, then it waits for that thread to end and returns. A stop that finds no handle
returns at once, and so does a stop that finds the handle of the very thread that makes it.

Each thread has one handle only. So a stop that comes second has nothing to wait for, and it may
return while the callback runs (`overtaken`). What is left is `stops_run`: if a callback still runs
when a client's stop returns, then its thread came later than the stop, or another stop has its
handle and either was made by this very callback or still waits for it. What carries the proof is
that every handle is kept or was taken, and that a stop which has returned, other than from the
callback, has seen its thread end (`Crew.Sound`).
-/

set_option autoImplicit false

namespace Scanout.Vsync

/-- A call of stop that has had its section. -/
structure StopCall where
  /-- The thread whose callback makes the call, if it is not a client. -/
  caller : Option Nat
  /-- The thread whose handle it has taken. -/
  taken : Option Nat
  /-- The number of threads spawned before. -/
  seen : Nat
  returned : Bool := false
  deriving DecidableEq

/-- A timer with its threads, the handle that it keeps, the threads that have decided to deliver a
tick and those that are in the callback, and all calls of stop. -/
structure Crew where
  signaler : Signaler := {}
  handle : Option Nat := none
  due : List Nat := []
  inCallback : List Nat := []
  stops : List StopCall := []
  deriving DecidableEq

inductive Deed where
  /-- A section of a client, of a callback or of a thread, other than that of a stop. -/
  | act (act : Act)
  | enter (thread : Nat)
  | leave (thread : Nat)
  /-- The section of a stop. -/
  | stop (caller : Option Nat)
  | comeBack (call : Nat)

def Signaler.hasEnded (signaler : Signaler) (thread : Nat) : Bool :=
  (signaler.threads[thread]?).any fun thread => thread.stance == .ended

namespace Crew

/-- A call of stop need not wait any longer. -/
def isFree (crew : Crew) (call : StopCall) : Bool :=
  match call.taken with
  | none => true
  | some thread => call.caller == some thread || crew.signaler.hasEnded thread

/-- The callback that a thread runs is not held up by a stop. -/
def isRunning (crew : Crew) (thread : Nat) : Bool :=
  crew.inCallback.contains thread
    && crew.stops.all fun call => call.returned || call.caller != some thread

def mayStop (crew : Crew) (caller : Option Nat) : Bool :=
  crew.signaler.spawning.isNone && caller.all crew.isRunning

def newCall (crew : Crew) (caller : Option Nat) : StopCall where
  caller := caller
  taken := crew.handle
  seen := crew.signaler.threads.length

/-- A thread that is about to be or is in the callback does not act on the timer as a thread. -/
def mayAct (crew : Crew) : Act → Bool
  | .stop => false
  | act => act.thread?.all fun own => !(crew.due ++ crew.inCallback).contains own.1

/-- The handle after an act: a thread that is spawned hands in its own. -/
def handleAfter (crew : Crew) : Act → Option Nat
  | .spawn =>
    if crew.signaler.spawning.isSome then some crew.signaler.threads.length else crew.handle
  | _ => crew.handle

def dueAfter (crew : Crew) (act : Act) : List Nat :=
  match act.thread?, crew.signaler.event? act with
  | some own, some _ => own.1 :: crew.due
  | _, _ => crew.due

def step (crew : Crew) : Deed → Crew
  | .act act =>
    if crew.mayAct act then
      { crew with
        signaler := crew.signaler.step act
        handle := crew.handleAfter act
        due := crew.dueAfter act }
    else crew
  | .enter thread =>
    if crew.due.contains thread then
      { crew with due := crew.due.erase thread, inCallback := thread :: crew.inCallback }
    else crew
  | .leave thread =>
    if crew.isRunning thread then { crew with inCallback := crew.inCallback.erase thread } else crew
  | .stop caller =>
    if crew.mayStop caller then
      { crew with
        signaler := crew.signaler.step .stop
        handle := none
        stops := crew.stops ++ [crew.newCall caller] }
    else crew
  | .comeBack index =>
    match crew.stops[index]? with
    | none => crew
    | some call =>
      if crew.isFree call then
        { crew with stops := crew.stops.set index { call with returned := true } }
      else crew

def run (crew : Crew) : List Deed → Crew
  | [] => crew
  | deed :: rest => (crew.step deed).run rest

/-- Another call than this one has taken the handle of a thread, and either the thread's own
callback has made it or it waits for the thread. -/
def HeldElsewhere (crew : Crew) (index thread : Nat) : Prop :=
  ∃ other call, other ≠ index ∧ crew.stops[other]? = some call ∧ call.taken = some thread
    ∧ (call.caller = some thread ∨ call.returned = false)

/-- When a stop of a client returns, a callback that still runs is that of a thread which was
spawned after the stop, or the handle of its thread is elsewhere. -/
def Stops (deeds : List Deed) : Prop :=
  ∀ (index : Nat) call, (run {} deeds).stops[index]? = some call → call.caller = none →
    (run {} deeds).isFree call = true →
    ∀ thread ∈ (run {} deeds).inCallback,
      call.seen ≤ thread ∨ (run {} deeds).HeldElsewhere index thread

end Crew

/-! ## Threads that end -/

namespace Signaler

variable {signaler : Signaler} {act : Act} {index thread : Nat} {moment : Moment}

theorem length_advance (signaler : Signaler) (index : Nat) (moment : Moment) :
    (signaler.advance index moment).threads.length = signaler.threads.length := by
  unfold advance
  split
  · rfl
  · exact List.length_set

theorem length_step (signaler : Signaler) (act : Act) :
    signaler.threads.length ≤ (signaler.step act).threads.length := by
  have grown := (signaler.acts_step act).grows.kept.length_le
  simpa only [generations, List.length_map] using grown

theorem threads_advance (other : index ≠ thread) (moment : Moment) :
    (signaler.advance index moment).threads[thread]? = signaler.threads[thread]? := by
  unfold advance
  split
  · rfl
  · exact List.getElem?_set_ne other

/-- A thread changes only by its own acts. -/
theorem threads_step (there : thread < signaler.threads.length)
    (other : ∀ moment, act.thread? ≠ some (thread, moment)) :
    (signaler.step act).threads[thread]? = signaler.threads[thread]? := by
  cases act with
  | start first period =>
      simp only [step]
      split <;> rfl
  | spawn =>
      simp only [step]
      split
      · rfl
      · exact List.getElem?_append_left there
  | spawnFails =>
      simp only [step]
      split <;> rfl
  | stop =>
      simp only [step]
      split <;> rfl
  | pass index now =>
      refine threads_advance ?_ _
      rintro rfl
      exact other _ rfl
  | timeout index =>
      refine threads_advance ?_ _
      rintro rfl
      exact other _ rfl
  | _ => rfl

theorem stance_of_ended {ticker : Ticker} (own : act.thread? = some (index, moment))
    (ended : ticker.stance = .ended) : (ticker.step moment).stance = .ended := by
  cases act with
  | pass thread now =>
      obtain ⟨-, rfl⟩ := Prod.mk.inj (Option.some.inj own)
      simp only [Ticker.step, Ticker.pass?, ended, if_true]
  | timeout thread =>
      obtain ⟨-, rfl⟩ := Prod.mk.inj (Option.some.inj own)
      simp only [Ticker.step, Ticker.pass?, ended]
  | _ => cases own

theorem stance_of_beat {ticker : Ticker} {beat : Beat} (struck : ticker.beat? moment = some beat) :
    (ticker.step moment).stance = .awake := by
  unfold Ticker.beat? at struck
  split at struck
  · rename_i passes
    simp only [Ticker.step, passes, Ticker.follow]
  · cases struck

theorem threads_advance_self {there : Thread} (found : signaler.threads[index]? = some there)
    (moment : Moment) :
    (signaler.advance index moment).threads[index]?
      = some { there with stance := ((signaler.ticker there).step moment).stance } := by
  have inside := (List.getElem?_eq_some_iff.mp found).1
  simp only [advance, found, List.getElem?_set_self inside]

theorem hasEnded_iff : signaler.hasEnded thread = true
    ↔ ∃ there, signaler.threads[thread]? = some there ∧ there.stance = .ended := by
  unfold hasEnded
  cases signaler.threads[thread]? <;> simp

theorem ended_step (signaler : Signaler) (act : Act) (ended : signaler.hasEnded thread = true) :
    (signaler.step act).hasEnded thread = true := by
  obtain ⟨there, found, stance⟩ := hasEnded_iff.mp ended
  refine hasEnded_iff.mpr ?_
  by_cases own : ∃ moment, act.thread? = some (thread, moment)
  · obtain ⟨moment, own⟩ := own
    rw [(step_own own signaler).1, threads_advance_self found]
    exact ⟨_, rfl, stance_of_ended own stance⟩
  · have inside := (List.getElem?_eq_some_iff.mp found).1
    rw [threads_step inside fun moment same => own ⟨moment, same⟩]
    exact ⟨there, found, stance⟩

/-- A thread that has just decided to deliver has not ended. -/
theorem alive_of_told {event : Event} (own : act.thread? = some (thread, moment))
    (told : signaler.event? act = some event) :
    thread < signaler.threads.length ∧ (signaler.step act).hasEnded thread = false := by
  obtain ⟨acted, same⟩ := step_own own signaler
  rw [same, delivery?] at told
  cases found : signaler.threads[thread]? with
  | none =>
      rw [found] at told
      cases told
  | some there =>
      simp only [found] at told
      obtain ⟨beat, struck, -⟩ := Option.map_eq_some_iff.mp told
      refine ⟨(List.getElem?_eq_some_iff.mp found).1, ?_⟩
      rw [acted, hasEnded, threads_advance_self found, stance_of_beat struck]
      rfl

theorem started_advance (own : act.thread? = some (index, moment)) (signaler : Signaler) :
    (signaler.advance index moment).timer.started = signaler.timer.started
      ∧ (signaler.advance index moment).spawning = signaler.spawning := by
  unfold advance
  cases found : signaler.threads[index]? with
  | none => exact ⟨rfl, rfl⟩
  | some there =>
      refine ⟨?_, rfl⟩
      cases Act.handles own (signaler.ticker there) with
      | alone silent same => exact congrArg Timer.started same
      | dozes runs silent later =>
          have same := congrArg Timer.started later
          exact same
      | delivers runs struck later =>
          have same := congrArg Timer.started later
          exact same

/-- A timer that is started goes on, unless it is stopped. -/
theorem started_step (goes : act ≠ .stop) (started : signaler.timer.started = true)
    (free : signaler.spawning = none) :
    (signaler.step act).timer.started = true ∧ (signaler.step act).spawning = none := by
  cases act with
  | start first period =>
      have still : signaler.step (.start first period) = signaler := by
        simp only [step, free, Timer.start, started, if_true]
        split <;> rename_i begun
        · split at begun <;> cases begun
        · rfl
      rw [still]
      exact ⟨started, free⟩
  | spawn =>
      have still : signaler.step .spawn = signaler := by simp only [step, free]
      rw [still]
      exact ⟨started, free⟩
  | spawnFails =>
      have still : signaler.step .spawnFails = signaler := by simp only [step, free]
      rw [still]
      exact ⟨started, free⟩
  | enable on => exact ⟨started, free⟩
  | setPeriod period =>
      simp only [step, Timer.setPeriod]
      split <;> exact ⟨started, free⟩
  | stop => exact absurd rfl goes
  | pass index now =>
      have own : Act.thread? (.pass index now) = some (index, .pass now) := rfl
      obtain ⟨same, sameSpawning⟩ := started_advance own signaler
      exact ⟨same.trans started, sameSpawning.trans free⟩
  | timeout index =>
      have own : Act.thread? (.timeout index) = some (index, .timeout) := rfl
      obtain ⟨same, sameSpawning⟩ := started_advance own signaler
      exact ⟨same.trans started, sameSpawning.trans free⟩

theorem Acts.starting {after : Signaler} {event : Option Event} (acts : signaler.Acts after event)
    (starting : signaler.spawning.isSome → signaler.timer.started = true) :
    after.spawning.isSome → after.timer.started = true := by
  cases acts with
  | begins free fresh next enabled ticks => exact fun _ => fresh
  | spawns waits => exact nofun
  | stops => exact nofun
  | _ => exact starting

end Signaler

/-! ## The invariant -/

namespace Crew

/-- Some stop has taken the handle of this thread. -/
def IsTaken (crew : Crew) (thread : Nat) : Prop := ∃ call ∈ crew.stops, call.taken = some thread

structure Sound (crew : Crew) : Prop where
  starting : crew.signaler.spawning.isSome → crew.signaler.timer.started = true
  /-- A handle is kept only for as long as nobody stops the timer. -/
  kept : ∀ thread, crew.handle = some thread →
    crew.signaler.timer.started = true ∧ crew.signaler.spawning = none
  accounted : ∀ thread, thread < crew.signaler.threads.length →
    crew.handle = some thread ∨ crew.IsTaken thread
  seen : ∀ call ∈ crew.stops, ∀ thread, thread < call.seen → crew.IsTaken thread
  busy : ∀ thread ∈ crew.due ++ crew.inCallback,
    thread < crew.signaler.threads.length ∧ crew.signaler.hasEnded thread = false
  joined : ∀ call ∈ crew.stops, call.returned = true → crew.isFree call = true

theorem sound_new : Sound {} := ⟨nofun, nofun, nofun, nofun, nofun, nofun⟩

variable {crew : Crew} {act : Act}

theorem of_mayAct (may : crew.mayAct act = true) :
    act ≠ .stop ∧ ∀ thread moment, act.thread? = some (thread, moment) →
      thread ∉ crew.due ++ crew.inCallback := by
  cases act with
  | stop => cases may
  | pass index now =>
      refine ⟨nofun, ?_⟩
      rintro _ _ ⟨⟩
      simpa [mayAct, Act.thread?] using may
  | timeout index =>
      refine ⟨nofun, ?_⟩
      rintro _ _ ⟨⟩
      simpa [mayAct, Act.thread?] using may
  | _ => exact ⟨nofun, nofun⟩

/-- A thread is spawned and hands in its handle, or no thread is. -/
theorem handleAfter_cases (crew : Crew) (act : Act) :
    (crew.signaler.spawning.isSome ∧ crew.handleAfter act = some crew.signaler.threads.length
        ∧ (crew.signaler.step act).timer = crew.signaler.timer
        ∧ (crew.signaler.step act).spawning = none
        ∧ (crew.signaler.step act).threads.length = crew.signaler.threads.length + 1)
      ∨ (crew.handleAfter act = crew.handle
        ∧ (crew.signaler.step act).threads.length = crew.signaler.threads.length) := by
  cases act with
  | start first period =>
      refine .inr ⟨rfl, ?_⟩
      simp only [Signaler.step]
      split <;> rfl
  | spawn =>
      cases waits : crew.signaler.spawning with
      | none => exact .inr (by simp [handleAfter, Signaler.step, waits])
      | some generation => exact .inl (by simp [handleAfter, Signaler.step, waits])
  | spawnFails =>
      refine .inr ⟨rfl, ?_⟩
      simp only [Signaler.step]
      split <;> rfl
  | stop =>
      refine .inr ⟨rfl, ?_⟩
      simp only [Signaler.step]
      split <;> rfl
  | pass index now => exact .inr ⟨rfl, Signaler.length_advance _ _ _⟩
  | timeout index => exact .inr ⟨rfl, Signaler.length_advance _ _ _⟩
  | _ => exact .inr ⟨rfl, rfl⟩

theorem mem_dueAfter {thread : Nat} (member : thread ∈ crew.dueAfter act) :
    thread ∈ crew.due
      ∨ ∃ moment event, act.thread? = some (thread, moment)
        ∧ crew.signaler.event? act = some event := by
  unfold dueAfter at member
  split at member
  · rename_i own event acts told
    rcases List.mem_cons.mp member with rfl | earlier
    · exact .inr ⟨own.2, event, acts, told⟩
    · exact .inl earlier
  · exact .inl member

theorem isFree_act {after : Crew} (call : StopCall)
    (ended : ∀ thread, crew.signaler.hasEnded thread = true →
      after.signaler.hasEnded thread = true)
    (free : crew.isFree call = true) : after.isFree call = true := by
  unfold isFree at free ⊢
  split at free
  · rfl
  · rename_i thread taken
    rcases Bool.or_eq_true_iff.mp free with own | gone
    · exact Bool.or_eq_true_iff.mpr (.inl own)
    · exact Bool.or_eq_true_iff.mpr (.inr (ended thread gone))

theorem sound_act (sound : crew.Sound) (may : crew.mayAct act = true) :
    Sound { crew with
      signaler := crew.signaler.step act
      handle := crew.handleAfter act
      due := crew.dueAfter act } := by
  obtain ⟨goes, idle⟩ := of_mayAct may
  refine ⟨?_, ?_, ?_, ?_, ?_, ?_⟩
  · exact (crew.signaler.acts_step act).starting sound.starting
  · intro thread held
    rcases crew.handleAfter_cases act with ⟨waits, -, timer, spawning, -⟩ | ⟨same, -⟩
    · exact ⟨(congrArg Timer.started timer).trans (sound.starting waits), spawning⟩
    · obtain ⟨started, free⟩ := sound.kept thread (same ▸ held)
      exact Signaler.started_step goes started free
  · intro thread inside
    rcases crew.handleAfter_cases act with ⟨waits, kept, -, -, longer⟩ | ⟨same, length⟩
    · -- A handle that is kept would mean that no start is under way, so none is overwritten.
      rcases Nat.lt_or_eq_of_le (Nat.le_of_lt_succ (longer ▸ inside)) with earlier | rfl
      · rcases sound.accounted thread earlier with held | taken
        · rw [(sound.kept thread held).2] at waits
          cases waits
        · exact .inr taken
      · exact .inl kept
    · rcases sound.accounted thread (length ▸ inside) with held | taken
      · exact .inl (same.trans held)
      · exact .inr taken
  · exact sound.seen
  · intro thread member
    have longer := crew.signaler.length_step act
    have waits : thread ∈ crew.due ++ crew.inCallback →
        thread < (crew.signaler.step act).threads.length
          ∧ (crew.signaler.step act).hasEnded thread = false := by
      intro busy
      obtain ⟨there, alive⟩ := sound.busy thread busy
      have same := Signaler.threads_step there fun moment own => idle thread moment own busy
      refine ⟨Nat.lt_of_lt_of_le there longer, ?_⟩
      rwa [Signaler.hasEnded, same]
    rcases List.mem_append.mp member with due | inside
    · rcases mem_dueAfter due with earlier | ⟨moment, event, own, told⟩
      · exact waits (List.mem_append_left _ earlier)
      · obtain ⟨there, alive⟩ := Signaler.alive_of_told own told
        exact ⟨Nat.lt_of_lt_of_le there longer, alive⟩
    · exact waits (List.mem_append_right _ inside)
  · intro call among back
    exact isFree_act call (fun thread => Signaler.ended_step crew.signaler act)
      (sound.joined call among back)

theorem sound_stop (sound : crew.Sound) {caller : Option Nat}
    (may : crew.mayStop caller = true) : (crew.step (.stop caller)).Sound := by
  have free : crew.signaler.spawning = none := by
    simp only [mayStop, Bool.and_eq_true, Option.isNone_iff_eq_none] at may
    exact may.1
  have stopped : crew.signaler.step .stop
      = { crew.signaler with timer := crew.signaler.timer.stop } := by
    simp only [Signaler.step, free, Option.isSome_none, Bool.false_eq_true, if_false]
  simp only [step, may, if_true, stopped]
  have still : ∀ thread, crew.IsTaken thread →
      ∃ call ∈ crew.stops ++ [crew.newCall caller], call.taken = some thread := by
    rintro thread ⟨call, among, taken⟩
    exact ⟨call, List.mem_append_left _ among, taken⟩
  have all : ∀ thread, thread < crew.signaler.threads.length →
      ∃ call ∈ crew.stops ++ [crew.newCall caller], call.taken = some thread := by
    intro thread inside
    rcases sound.accounted thread inside with held | taken
    · exact ⟨_, List.mem_append_right _ List.mem_cons_self, held⟩
    · exact still thread taken
  refine ⟨?_, ?_, fun thread inside => .inr (all thread inside), ?_, sound.busy, ?_⟩
  · intro waits
    rw [free] at waits
    cases waits
  · intro thread held
    cases held
  · intro call among thread inside
    rcases List.mem_append.mp among with earlier | last
    · exact still thread (sound.seen call earlier thread inside)
    · obtain rfl := List.mem_singleton.mp last
      exact all thread inside
  · intro call among back
    rcases List.mem_append.mp among with earlier | last
    · exact sound.joined call earlier back
    · obtain rfl := List.mem_singleton.mp last
      cases back

theorem sound_comeBack (sound : crew.Sound) {index : Nat} {call : StopCall}
    (made : crew.stops[index]? = some call) (free : crew.isFree call = true) :
    Sound { crew with stops := crew.stops.set index { call with returned := true } } := by
  have still : ∀ thread, crew.IsTaken thread →
      ∃ other ∈ crew.stops.set index { call with returned := true },
        other.taken = some thread := by
    rintro thread ⟨other, among, taken⟩
    obtain ⟨place, found⟩ := List.mem_iff_getElem?.mp among
    by_cases here : index = place
    · subst here
      obtain rfl := Option.some.inj (made.symm.trans found)
      have inside := (List.getElem?_eq_some_iff.mp made).1
      exact ⟨_, List.mem_set inside _, taken⟩
    · exact ⟨other, List.mem_of_getElem? ((List.getElem?_set_ne here).trans found), taken⟩
  refine ⟨sound.starting, sound.kept, ?_, ?_, sound.busy, ?_⟩
  · intro thread inside
    exact (sound.accounted thread inside).imp_right (still thread)
  · intro other among thread inside
    rcases List.mem_or_eq_of_mem_set among with earlier | rfl
    · exact still thread (sound.seen other earlier thread inside)
    · exact still thread (sound.seen call (List.mem_of_getElem? made) thread inside)
  · intro other among back
    rcases List.mem_or_eq_of_mem_set among with earlier | rfl
    · exact sound.joined other earlier back
    · exact free

theorem sound_step (sound : crew.Sound) (deed : Deed) : (crew.step deed).Sound := by
  cases deed with
  | act act =>
      simp only [step]
      split
      · exact sound_act sound ‹_›
      · exact sound
  | enter thread =>
      simp only [step]
      split
      · rename_i due
        refine ⟨sound.starting, sound.kept, sound.accounted, sound.seen, ?_, sound.joined⟩
        intro other member
        refine sound.busy other ?_
        simp only [List.mem_append, List.mem_cons] at member ⊢
        rcases member with waits | rfl | inside
        · exact .inl (List.mem_of_mem_erase waits)
        · exact .inl (List.contains_iff_mem.mp due)
        · exact .inr inside
      · exact sound
  | leave thread =>
      simp only [step]
      split
      · refine ⟨sound.starting, sound.kept, sound.accounted, sound.seen, ?_, sound.joined⟩
        intro other member
        refine sound.busy other ?_
        simp only [List.mem_append] at member ⊢
        exact member.imp_right List.mem_of_mem_erase
      · exact sound
  | stop caller =>
      by_cases may : crew.mayStop caller = true
      · exact sound_stop sound may
      · simp only [step, may]
        exact sound
  | comeBack index =>
      simp only [step]
      split
      · exact sound
      · rename_i call made
        split
        · rename_i free
          exact sound_comeBack sound made free
        · exact sound

theorem sound_run (sound : crew.Sound) (deeds : List Deed) : (crew.run deeds).Sound := by
  induction deeds generalizing crew with
  | nil => exact sound
  | cons deed rest ih => exact ih (sound_step sound deed)

theorem stops_of_sound {deeds : List Deed} (sound : (run {} deeds).Sound) : Stops deeds := by
  intro index call made client free thread running
  by_cases later : call.seen ≤ thread
  · exact .inl later
  · refine .inr ?_
    obtain ⟨other, among, taken⟩ :=
      sound.seen call (List.mem_of_getElem? made) thread (Nat.lt_of_not_le later)
    obtain ⟨place, found⟩ := List.mem_iff_getElem?.mp among
    -- A thread that is in the callback has not ended, so nobody has come back from waiting for it.
    have alive := (sound.busy thread (List.mem_append_right _ running)).2
    have own : ∀ call : StopCall, call.taken = some thread →
        (run {} deeds).isFree call = true → call.caller = some thread := by
      intro call taken free
      simpa [isFree, taken, alive] using free
    refine ⟨place, other, ?_, found, taken, ?_⟩
    · rintro rfl
      obtain rfl := Option.some.inj (made.symm.trans found)
      cases client.symm.trans (own call taken free)
    · cases back : other.returned with
      | false => exact .inr rfl
      | true => exact .inl (own other taken (sound.joined other among back))

/-- When a client's stop returns, whoever else stops and starts the timer meanwhile. -/
theorem stops_run (deeds : List Deed) : Stops deeds := stops_of_sound (sound_run sound_new deeds)

/-- A client's stop returns at once while the callback runs that another client's stop waits for. -/
theorem overtaken :
    let deeds : List Deed := [.act (.start ⟨10⟩ ⟨5⟩), .act .spawn, .act (.enable true),
      .act (.pass 0 ⟨10⟩), .enter 0, .stop none, .stop none, .comeBack 1]
    (run {} deeds).stops[1]? = some ⟨none, none, 1, true⟩ ∧ (run {} deeds).inCallback = [0] := by
  decide

end Crew

end Scanout.Vsync
