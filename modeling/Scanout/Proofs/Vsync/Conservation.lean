import Scanout.Proofs.Vsync.Order
import Scanout.Proofs.Vsync.Stranded

/-!
# Every tick in one place

A tick on its way to a callback is first *buffered*, then *addressed* to the callback that takes the
buffer over, as a part of a batch, and then handed over; a tick that finds a callback at hand goes
through all of this in one step. `Stirs` lists what one step can do, whatever is under way. Two
conservation laws follow: ticks leave the buffer with a batch only (`buffered_run`), and what is
addressed to a callback is handed to it or still waits (`addressed_run`).

So the ticks that have arrived are, one for one, those handed over, those that wait in the batches of
registrations under way, and the buffered ones (`conserved_run`).
-/

set_option autoImplicit false

namespace Scanout

namespace Vsync

def Delivery.addressed (delivery : Delivery) : CallbackId × HostTime :=
  (delivery.callback, delivery.deadline)

/-- Ticks that a step addresses to a callback, and the callback installed at that moment. -/
structure Batch where
  callback : CallbackId
  deadlines : List HostTime
  installed : Option CallbackId

def Batch.addressed (batch : Batch) : List (CallbackId × HostTime) :=
  batch.deadlines.map (batch.callback, ·)

/-- The ticks of a batch that wait to be handed over, each with its callback. -/
def Activity.addressed : Activity → List (CallbackId × HostTime)
  | deliver callback deadlines => deadlines.map (callback, ·)
  | _ => []

/-- Every batch among these activities belongs to the registration right below it. -/
def Batched : List Activity → Prop
  | [] => True
  | .deliver callback _ :: below => below.head? = some (.flush callback) ∧ Batched below
  | _ :: below => Batched below

theorem Batched.below {activity : Activity} {below : List Activity}
    (batched : Batched (activity :: below)) : Batched below := by
  cases activity with
  | deliver callback deadlines => exact batched.2
  | _ => exact batched

/-- What clients and callbacks see of a step. -/
structure Effect where
  delivery : Option Delivery := none
  batch : Option Batch := none
  arrival : Option HostTime := none
  registration : Option CallbackId := none

def Effect.handed (effect : Effect) : List (CallbackId × HostTime) :=
  effect.delivery.toList.map Delivery.addressed

def Effect.assigned (effect : Effect) : List (CallbackId × HostTime) :=
  effect.batch.toList.flatMap Batch.addressed

end Vsync

namespace Device

variable (device : Device)

/-- A tick that arrives goes to the installed callback at once, or is buffered. -/
theorem arrive_cases (deadline : HostTime) :
    (∃ callback, device.ticks.installed = some callback
        ∧ device.arrive deadline = (some callback, device))
      ∨ device.arrive deadline = (none, { device with ticks :=
          { device.ticks with pending := device.ticks.pending ++ [deadline] } }) := by
  cases installed : device.ticks.installed with
  | none => exact .inr (by simp only [arrive, Vsync.TickQueue.arrive, installed])
  | some callback =>
      by_cases quiet : device.ticks.flushing = 0
      · refine .inl ⟨callback, rfl, ?_⟩
        simp only [arrive, Vsync.TickQueue.arrive, installed, quiet, if_true]
      · exact .inr (by simp only [arrive, Vsync.TickQueue.arrive, installed, quiet, if_false])

/-- The installed callback is given all that is buffered, or a registration is over. -/
theorem nextBatch_cases (callback : Vsync.CallbackId) :
    (device.ticks.installed = some callback
        ∧ device.nextBatch callback = (some device.ticks.pending,
          { device with ticks := { device.ticks with pending := [] } }))
      ∨ device.nextBatch callback = (none, { device with ticks :=
          { device.ticks with flushing := device.ticks.flushing - 1 } }) := by
  by_cases more : device.ticks.installed = some callback ∧ device.ticks.pending ≠ []
  · exact .inl ⟨more.1, by simp only [nextBatch, Vsync.TickQueue.nextBatch, if_pos more]⟩
  · exact .inr (by simp only [nextBatch, Vsync.TickQueue.nextBatch, if_neg more])

end Device

namespace Vsync

namespace Nest

/-- The ticks that a step addresses to a callback. -/
def batch? (nest : Nest) (move : Move) : Option Batch :=
  if nest.isAtClient then
    match move with
    | .tick deadline =>
      (nest.device.arrive deadline).1.map fun callback =>
        ⟨callback, [deadline], nest.device.ticks.installed⟩
    | _ => none
  else
    match move, nest.stack with
    | .goOn, .flush callback :: _ =>
      (nest.device.nextBatch callback).1.map fun deadlines =>
        ⟨callback, deadlines, nest.device.ticks.installed⟩
    | _, _ => none

def registration? (nest : Nest) : Move → Option CallbackId
  | .register callback => if nest.isAtClient then some callback else none
  | _ => none

def effect (nest : Nest) (move : Move) : Effect :=
  ⟨nest.delivery? move, nest.batch? move, nest.arrival? move, nest.registration? move⟩

def batches (nest : Nest) : List Move → List Batch
  | [] => []
  | move :: rest => (nest.batch? move).toList ++ (nest.step move).batches rest

/-- The ticks that are addressed to callbacks and wait to be handed over. -/
def addressed (nest : Nest) : List (CallbackId × HostTime) :=
  nest.stack.flatMap Activity.addressed

/-- What clients can rely on about single ticks, whatever callbacks do. -/
structure Conserved (nest : Nest) (moves : List Move) : Prop where
  /-- Every tick that has arrived has been handed over once, waits in a batch or is buffered, and
  only one of these. -/
  places : ((nest.deliveries moves).map (·.deadline) ++ (nest.run moves).held).Perm
    (nest.arrivals moves)
  /-- What waits in a batch belongs to a registration that is still under way. -/
  batched : Batched (nest.run moves).stack
  /-- The device counts the registrations under way. -/
  counted : (nest.run moves).device.ticks.flushing
    = (nest.run moves).stack.countP Activity.isFlush
  /-- A registration that is about to be over has been counted. -/
  positive : ∀ callback below, (nest.run moves).stack = .flush callback :: below →
    0 < (nest.run moves).device.ticks.flushing
  quiet : (∀ callback, .flush callback ∉ (nest.run moves).stack) →
    (nest.run moves).device.ticks.flushing = 0

/-! ## One step -/

/-- What one step can do to a nest. -/
inductive Stirs (nest : Nest) : Nest → Effect → Prop where
  | still : Stirs nest nest {}
  | buffers {deadline : HostTime} :
      Stirs nest
        { nest with device := { nest.device with ticks :=
          { nest.device.ticks with pending := nest.device.ticks.pending ++ [deadline] } } }
        { arrival := some deadline }
  /-- A callback gets the tick at once. -/
  | passes {callback : CallbackId} {deadline : HostTime}
      (installed : nest.device.ticks.installed = some callback) :
      Stirs nest ⟨nest.device, .client :: nest.stack⟩
        { delivery := some ⟨callback, deadline, some callback⟩
          batch := some ⟨callback, [deadline], some callback⟩
          arrival := some deadline }
  | registers {callback : CallbackId} :
      Stirs nest ⟨nest.device.install callback .vsync, .flush callback :: nest.stack⟩
        { registration := some callback }
  | unregisters : Stirs nest { nest with device := nest.device.uninstall .vsync } {}
  | finishes {below : List Activity} (running : nest.stack = .client :: below) :
      Stirs nest { nest with stack := below } {}
  /-- A registration takes all that is buffered. -/
  | takes {callback : CallbackId} {below : List Activity}
      (underway : nest.stack = .flush callback :: below)
      (installed : nest.device.ticks.installed = some callback) :
      Stirs nest
        ⟨{ nest.device with ticks := { nest.device.ticks with pending := [] } },
          .deliver callback nest.device.ticks.pending :: .flush callback :: below⟩
        { batch := some ⟨callback, nest.device.ticks.pending, some callback⟩ }
  /-- A registration is over. -/
  | returns {callback : CallbackId} {below : List Activity}
      (underway : nest.stack = .flush callback :: below) :
      Stirs nest
        ⟨{ nest.device with ticks :=
          { nest.device.ticks with flushing := nest.device.ticks.flushing - 1 } }, below⟩ {}
  | hands {callback : CallbackId} {deadline : HostTime} {deadlines : List HostTime}
      {below : List Activity}
      (underway : nest.stack = .deliver callback (deadline :: deadlines) :: below) :
      Stirs nest { nest with stack := .client :: .deliver callback deadlines :: below }
        { delivery := some ⟨callback, deadline, nest.device.ticks.installed⟩ }
  | empties {callback : CallbackId} {below : List Activity}
      (underway : nest.stack = .deliver callback [] :: below) :
      Stirs nest { nest with stack := below } {}

theorem stirs_tick {nest : Nest} (client : nest.isAtClient = true) (deadline : HostTime) :
    nest.Stirs (nest.step (.tick deadline)) (nest.effect (.tick deadline)) := by
  simp only [step, effect, delivery?, batch?, arrival?, registration?, client, if_true, clientStep]
  rcases nest.device.arrive_cases deadline with ⟨callback, installed, passes⟩ | buffers
  · rw [passes, installed]
    exact .passes installed
  · rw [buffers]
    exact .buffers

theorem stirs_client {nest : Nest} (client : nest.isAtClient = true) (move : Move) :
    nest.Stirs (nest.step move) (nest.effect move) := by
  cases move with
  | tick deadline => exact stirs_tick client deadline
  | finish =>
      have silent : nest.effect .finish = {} := by
        simp only [effect, delivery?, batch?, arrival?, registration?, client, if_true]
      rw [silent, step_of_client client]
      obtain ⟨device, stack⟩ := nest
      cases stack with
      | nil => exact .still
      | cons activity below =>
          cases activity with
          | client => exact .finishes rfl
          | flush callback => cases client
          | deliver callback deadlines => cases client
  | register callback =>
      simp only [step, effect, delivery?, batch?, arrival?, registration?, client, if_true]
      exact .registers
  | unregister =>
      simp only [step, effect, delivery?, batch?, arrival?, registration?, client, if_true]
      exact .unregisters
  | goOn =>
      simp only [step, effect, delivery?, batch?, arrival?, registration?, client, if_true]
      exact .still

theorem stirs_flush (device : Device) (callback : CallbackId) (below : List Activity) :
    Stirs ⟨device, .flush callback :: below⟩ (step ⟨device, .flush callback :: below⟩ .goOn)
      (effect ⟨device, .flush callback :: below⟩ .goOn) := by
  simp only [step, effect, delivery?, batch?, arrival?, registration?, isAtClient,
    Bool.false_eq_true, if_false, deviceStep]
  rcases device.nextBatch_cases callback with ⟨installed, takes⟩ | returns
  · rw [takes, installed]
    exact .takes rfl installed
  · rw [returns]
    exact .returns rfl

theorem stirs_device {nest : Nest} (device : nest.isAtClient = false) (move : Move) :
    nest.Stirs (nest.step move) (nest.effect move) := by
  obtain ⟨inner, stack⟩ := nest
  cases move with
  | goOn =>
      cases stack with
      | nil => cases device
      | cons activity below =>
          cases activity with
          | client => cases device
          | flush callback => exact stirs_flush inner callback below
          | deliver callback deadlines =>
              cases deadlines with
              | nil => exact .empties rfl
              | cons deadline deadlines => exact .hands rfl
  | _ =>
      simp only [step, effect, delivery?, batch?, arrival?, registration?, device,
        Bool.false_eq_true, if_false]
      exact .still

theorem stirs_step (nest : Nest) (move : Move) :
    nest.Stirs (nest.step move) (nest.effect move) := by
  cases client : nest.isAtClient with
  | true => exact stirs_client client move
  | false => exact stirs_device client move

namespace Stirs

variable {nest after : Nest} {effect : Effect}

/-- What is handed over has been addressed before, or is addressed with this step. -/
theorem addressed (stirs : nest.Stirs after effect) :
    effect.handed ++ after.addressed = effect.assigned ++ nest.addressed := by
  cases stirs with
  | finishes running =>
      simp [Nest.addressed, running, Activity.addressed, Effect.handed, Effect.assigned]
  | takes underway installed =>
      simp [Nest.addressed, underway, Activity.addressed, Effect.handed, Effect.assigned,
        Batch.addressed]
  | returns underway =>
      simp [Nest.addressed, underway, Activity.addressed, Effect.handed, Effect.assigned]
  | hands underway =>
      simp [Nest.addressed, underway, Activity.addressed, Effect.handed, Effect.assigned,
        Delivery.addressed]
  | empties underway =>
      simp [Nest.addressed, underway, Activity.addressed, Effect.handed, Effect.assigned]
  | _ => rfl

/-- What arrives is buffered or addressed, and what is addressed leaves the buffer. -/
theorem buffered (stirs : nest.Stirs after effect) :
    (effect.assigned.map (·.2) ++ after.device.ticks.pending).Perm
      (nest.device.ticks.pending ++ effect.arrival.toList) := by
  cases stirs with
  | passes installed => exact List.perm_append_comm
  | takes underway installed =>
      simp [Effect.assigned, Batch.addressed, Function.comp_def]
  | buffers => exact .refl _
  | _ => simp [Effect.assigned, Device.install, TickQueue.install, Device.uninstall,
      TickQueue.uninstall]

theorem batched (stirs : nest.Stirs after effect) (batched : Batched nest.stack) :
    Batched after.stack := by
  cases stirs with
  | finishes running => exact (running ▸ batched).below
  | takes underway installed => exact ⟨rfl, underway ▸ batched⟩
  | returns underway => exact (underway ▸ batched).below
  | hands underway =>
      rw [underway] at batched
      exact batched
  | empties underway => exact (underway ▸ batched).below
  | _ => exact batched

end Stirs

/-! ## Runs -/

theorem batched_run {nest : Nest} (batched : Batched nest.stack) (moves : List Move) :
    Batched (nest.run moves).stack := by
  induction moves generalizing nest with
  | nil => exact batched
  | cons move rest ih => exact ih ((nest.stirs_step move).batched batched)

/-- Over a run, what is addressed to callbacks is handed to them or still waits. -/
theorem addressed_run (nest : Nest) (moves : List Move) :
    ((nest.deliveries moves).map Delivery.addressed ++ (nest.run moves).addressed).Perm
      ((nest.batches moves).flatMap Batch.addressed ++ nest.addressed) := by
  induction moves generalizing nest with
  | nil => exact .refl _
  | cons move rest ih =>
      have first : (nest.delivery? move).toList.map Delivery.addressed
            ++ (nest.step move).addressed
          = (nest.batch? move).toList.flatMap Batch.addressed ++ nest.addressed :=
        (nest.stirs_step move).addressed
      have later := ih (nest.step move)
      simp only [deliveries, batches, run, List.map_append, List.flatMap_append, List.append_assoc]
      refine (later.append_left _).trans ((List.perm_append_comm_assoc _ _ _).trans ?_)
      rw [first]
      exact List.perm_append_comm_assoc _ _ _

theorem buffered_run (nest : Nest) (moves : List Move) :
    (((nest.batches moves).flatMap Batch.addressed).map (·.2)
        ++ (nest.run moves).device.ticks.pending).Perm
      (nest.device.ticks.pending ++ nest.arrivals moves) := by
  induction moves generalizing nest with
  | nil => simp [batches, arrivals, run]
  | cons move rest ih =>
      have first : (((nest.batch? move).toList.flatMap Batch.addressed).map (·.2)
            ++ (nest.step move).device.ticks.pending).Perm
          (nest.device.ticks.pending ++ (nest.arrival? move).toList) :=
        (nest.stirs_step move).buffered
      have later := ih (nest.step move)
      simp only [batches, arrivals, run, List.map_append, List.flatMap_append, List.append_assoc]
      refine (later.append_left _).trans ?_
      rw [← List.append_assoc, ← List.append_assoc]
      exact first.append_right _

theorem waiting_eq_addressed (nest : Nest) :
    nest.stack.flatMap Activity.waiting = nest.addressed.map (·.2) := by
  rw [addressed, List.map_flatMap]
  congr 1
  funext activity
  cases activity <;> simp [Activity.waiting, Activity.addressed, Function.comp_def]

/-- In every run of an opened device, every tick that has arrived is in exactly one place. -/
theorem conserved_run {nest : Nest} (opened : nest.Opened) (moves : List Move) :
    nest.Conserved moves := by
  have counted := (accounted_run (accounted_of_opened opened) moves).flushing
  have nothing : nest.addressed = [] := by simp [addressed, opened.stack]
  have empty : nest.device.ticks.pending = [] := by rw [ticks_of_opened opened]
  refine ⟨?_, ?_, counted, ?_, ?_⟩
  · have addressed := (addressed_run nest moves).map (·.2)
    have buffered := buffered_run nest moves
    rw [nothing, List.append_nil] at addressed
    rw [empty, List.nil_append] at buffered
    have handed : (nest.deliveries moves).map (·.deadline)
        = ((nest.deliveries moves).map Delivery.addressed).map (·.2) := by
      rw [List.map_map]
      rfl
    rw [held, waiting_eq_addressed, handed, ← List.append_assoc, ← List.map_append]
    exact (addressed.append_right _).trans buffered
  · exact batched_run (opened.stack ▸ trivial) moves
  · intro callback below underway
    rw [counted, List.countP_pos_iff]
    exact ⟨.flush callback, underway ▸ List.mem_cons_self, rfl⟩
  · intro none
    rw [counted, List.countP_eq_zero]
    intro activity member isFlush
    cases activity with
    | flush callback => exact none callback member
    | client => cases isFlush
    | deliver callback deadlines => cases isFlush

/-- The first callback, in the middle of its batch, registers a second one, which takes in a tick while
it is handed another. -/
def nestedRun : List Move :=
  [.tick ⟨1⟩, .tick ⟨2⟩, .register ⟨0⟩, .goOn, .goOn, .tick ⟨3⟩, .register ⟨1⟩, .goOn, .goOn,
    .tick ⟨4⟩]

theorem conserved_run_nested :
    onScript.Opened ∧ onScript.Conserved nestedRun
      ∧ (onScript.deliveries nestedRun).map Delivery.addressed = [(⟨0⟩, ⟨1⟩), (⟨1⟩, ⟨3⟩)]
      ∧ (onScript.run nestedRun).addressed = [(⟨0⟩, ⟨2⟩)]
      ∧ (onScript.run nestedRun).device.ticks.pending = [⟨4⟩]
      ∧ (onScript.run nestedRun).device.ticks.flushing = 2 :=
  ⟨opened_onScript, conserved_run opened_onScript nestedRun, rfl, rfl, rfl, rfl⟩

end Nest

end Vsync

end Scanout
