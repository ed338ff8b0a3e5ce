import Scanout.Proofs.Vsync.Conservation

/-!
# Callbacks that are no longer installed

A callback is no longer installed once it has been unregistered or another one has been registered.
From then on no tick is addressed to it, but a batch that was addressed to it before is still handed
over to its end: a registration looks whether its callback is still installed before it takes a
batch, and not again for the ticks in it. `unregistered_called` is a run in which a callback that has
unregistered itself is called again.

`retired_run` says exactly what happens. The callback gets what waits for it, and gets nothing if no
registration of its own is under way; every other tick is addressed to a callback that is installed
then, or stays buffered.
-/

set_option autoImplicit false

namespace Scanout.Vsync

/-- The ticks among these that are for a callback. -/
def ticksFor (callback : CallbackId) (ticks : List (CallbackId × HostTime)) : List HostTime :=
  (ticks.filter fun tick => tick.1 = callback).map (·.2)

@[simp]
theorem ticksFor_append (callback : CallbackId) (first later : List (CallbackId × HostTime)) :
    ticksFor callback (first ++ later) = ticksFor callback first ++ ticksFor callback later := by
  simp [ticksFor]

theorem ticksFor_eq_nil_iff {callback : CallbackId} {ticks : List (CallbackId × HostTime)} :
    ticksFor callback ticks = [] ↔ ∀ tick ∈ ticks, tick.1 ≠ callback := by
  simp [ticksFor]

namespace Nest

/-- The callbacks that are registered. -/
def registrations (nest : Nest) : List Move → List CallbackId
  | [] => []
  | move :: rest => (nest.registration? move).toList ++ (nest.step move).registrations rest

/-- The ticks that a callback is handed. -/
def handedTo (nest : Nest) (callback : CallbackId) (moves : List Move) : List HostTime :=
  ticksFor callback ((nest.deliveries moves).map Delivery.addressed)

/-- The ticks of batches that wait for a callback. -/
def waitingFor (nest : Nest) (callback : CallbackId) : List HostTime :=
  ticksFor callback nest.addressed

/-- What clients can rely on, over these moves, about a callback that is not installed and about the
ticks it has not got. -/
structure Retired (nest : Nest) (callback : CallbackId) (moves : List Move) : Prop where
  /-- What the callback gets has waited for it, and it gets that in order. -/
  leftover : nest.handedTo callback moves ++ (nest.run moves).waitingFor callback
    = nest.waitingFor callback
  /-- It gets nothing unless a registration of its own is still under way. -/
  spared : .flush callback ∉ nest.stack → nest.handedTo callback moves = []
  /-- Ticks are addressed to other callbacks, each of which is installed at that moment. -/
  successors : ∀ batch ∈ nest.batches moves,
    batch.installed = some batch.callback ∧ batch.callback ≠ callback
  /-- All that is buffered or arrives is addressed to these, or stays buffered. -/
  passedOn : (((nest.batches moves).flatMap Batch.addressed).map (·.2)
      ++ (nest.run moves).device.ticks.pending).Perm
    (nest.device.ticks.pending ++ nest.arrivals moves)
  /-- They are handed what is addressed to them and what has waited for them, or it still waits. -/
  received : ∀ other, (nest.handedTo other moves ++ (nest.run moves).waitingFor other).Perm
    (ticksFor other ((nest.batches moves).flatMap Batch.addressed) ++ nest.waitingFor other)

/-- A tick waits for a callback in the batch of a registration under way. -/
theorem flush_of_addressed {stack : List Activity} (batched : Batched stack)
    {tick : CallbackId × HostTime} (waits : tick ∈ stack.flatMap Activity.addressed) :
    .flush tick.1 ∈ stack := by
  induction stack with
  | nil => cases waits
  | cons activity below ih =>
      rw [List.flatMap_cons, List.mem_append] at waits
      rcases waits with here | deeper
      · cases activity with
        | deliver callback deadlines =>
            obtain ⟨deadline, -, rfl⟩ := List.mem_map.mp here
            exact List.mem_cons_of_mem _ (List.mem_of_mem_head? batched.1)
        | client => cases here
        | flush callback => cases here
      · exact List.mem_cons_of_mem _ (ih batched.below deeper)

theorem waitingFor_eq_nil {nest : Nest} (batched : Batched nest.stack) {callback : CallbackId}
    (none : .flush callback ∉ nest.stack) : nest.waitingFor callback = [] := by
  rw [waitingFor, ticksFor_eq_nil_iff]
  intro tick waits same
  apply none
  rw [← same]
  exact flush_of_addressed batched waits

namespace Stirs

variable {nest after : Nest} {effect : Effect} {callback : CallbackId}

/-- A callback is installed by its registration only. -/
theorem gone (stirs : nest.Stirs after effect)
    (gone : nest.device.ticks.installed ≠ some callback)
    (never : effect.registration ≠ some callback) :
    after.device.ticks.installed ≠ some callback := by
  cases stirs with
  | registers => exact never
  | unregisters => simp [Device.uninstall, TickQueue.uninstall]
  | _ => exact gone

/-- Ticks are addressed to the callback that is installed. -/
theorem installed (stirs : nest.Stirs after effect) {batch : Batch}
    (addressed : effect.batch = some batch) :
    batch.installed = some batch.callback
      ∧ nest.device.ticks.installed = some batch.callback := by
  cases stirs with
  | passes installed =>
      obtain rfl := Option.some.inj addressed
      exact ⟨rfl, installed⟩
  | takes underway installed =>
      obtain rfl := Option.some.inj addressed
      exact ⟨rfl, installed⟩
  | _ => cases addressed

/-- No tick is addressed to a callback that is not installed. -/
theorem ticksFor_assigned (stirs : nest.Stirs after effect)
    (gone : nest.device.ticks.installed ≠ some callback) :
    ticksFor callback effect.assigned = [] := by
  rw [ticksFor_eq_nil_iff]
  intro tick assigned same
  obtain ⟨batch, addressed, part⟩ := List.mem_flatMap.mp assigned
  obtain ⟨deadline, -, rfl⟩ := List.mem_map.mp part
  apply gone
  rw [← same]
  exact (stirs.installed (Option.mem_toList.mp addressed)).2

theorem leftover (stirs : nest.Stirs after effect)
    (gone : nest.device.ticks.installed ≠ some callback) :
    ticksFor callback effect.handed ++ after.waitingFor callback = nest.waitingFor callback := by
  have conserved := congrArg (ticksFor callback) stirs.addressed
  rw [ticksFor_append, ticksFor_append, stirs.ticksFor_assigned gone] at conserved
  exact conserved

end Stirs

/-- Over a run without a registration of its own, a callback gets nothing but what waits for it. -/
theorem leftover_run {nest : Nest} {callback : CallbackId}
    (gone : nest.device.ticks.installed ≠ some callback) {moves : List Move}
    (never : callback ∉ nest.registrations moves) :
    nest.handedTo callback moves ++ (nest.run moves).waitingFor callback
        = nest.waitingFor callback
      ∧ ∀ batch ∈ nest.batches moves,
        batch.installed = some batch.callback ∧ batch.callback ≠ callback := by
  induction moves generalizing nest with
  | nil => exact ⟨rfl, by simp [batches]⟩
  | cons move rest ih =>
      have stirs := nest.stirs_step move
      rw [registrations, List.mem_append, not_or] at never
      obtain ⟨notNow, notLater⟩ := never
      have stillGone := stirs.gone gone fun now => notNow (Option.mem_toList.mpr now)
      obtain ⟨leftover, successors⟩ := ih stillGone notLater
      refine ⟨?_, ?_⟩
      · have first : ticksFor callback ((nest.delivery? move).toList.map Delivery.addressed)
            ++ (nest.step move).waitingFor callback = nest.waitingFor callback :=
          stirs.leftover gone
        rw [handedTo, deliveries, List.map_append, ticksFor_append, List.append_assoc, ← first]
        exact congrArg _ leftover
      · intro batch member
        rcases List.mem_append.mp member with now | later
        · obtain ⟨addressee, installed⟩ := stirs.installed (Option.mem_toList.mp now)
          refine ⟨addressee, fun same => gone ?_⟩
          rw [installed, same]
        · exact successors batch later

/-- In every run of an opened device, a callback that is not installed gets what is left of batches
that were addressed to it, and all other ticks go to callbacks installed later or stay buffered. -/
theorem retired_run {nest : Nest} (opened : nest.Opened) (earlier : List Move)
    {callback : CallbackId} (gone : (nest.run earlier).device.ticks.installed ≠ some callback)
    {later : List Move} (never : callback ∉ (nest.run earlier).registrations later) :
    (nest.run earlier).Retired callback later := by
  have batched : Batched (nest.run earlier).stack := batched_run (opened.stack ▸ trivial) earlier
  obtain ⟨leftover, successors⟩ := leftover_run gone never
  refine ⟨leftover, ?_, successors, buffered_run _ later, ?_⟩
  · intro none
    rw [waitingFor_eq_nil batched none] at leftover
    exact (List.append_eq_nil_iff.mp leftover).1
  · intro other
    have conserved := ((addressed_run (nest.run earlier) later).filter
      fun tick => tick.1 = other).map (·.2)
    simpa [handedTo, waitingFor, ticksFor] using conserved

/-- A callback that is handed the first of two ticks unregisters itself. -/
def removalRun : List Move :=
  [.tick ⟨1⟩, .tick ⟨2⟩, .register ⟨0⟩, .goOn, .goOn, .unregister]

/-- Its registration goes on; a tick arrives later, and another callback is registered. -/
def removedRun : List Move :=
  [.finish, .goOn, .finish, .goOn, .goOn, .tick ⟨3⟩, .register ⟨1⟩, .goOn, .goOn]

theorem retired_run_removed :
    (onScript.run removalRun).device.ticks.installed ≠ some ⟨0⟩
      ∧ ⟨0⟩ ∉ (onScript.run removalRun).registrations removedRun
      ∧ (onScript.run removalRun).Retired ⟨0⟩ removedRun
      ∧ (onScript.run removalRun).handedTo ⟨1⟩ removedRun = [⟨3⟩] := by
  have gone : (onScript.run removalRun).device.ticks.installed ≠ some ⟨0⟩ := nofun
  have never : ⟨0⟩ ∉ (onScript.run removalRun).registrations removedRun := by decide
  exact ⟨gone, never, retired_run opened_onScript removalRun gone never, rfl⟩

/-- The callback is no longer installed and is not registered again, but is handed the second tick,
which does not stay in the buffer. -/
theorem unregistered_called :
    (onScript.run removalRun).device.ticks.installed = none
      ∧ (onScript.run removalRun).registrations [.finish, .goOn] = []
      ∧ (onScript.run removalRun).handedTo ⟨0⟩ [.finish, .goOn] = [⟨2⟩] :=
  ⟨rfl, rfl, rfl⟩

end Nest

end Scanout.Vsync
