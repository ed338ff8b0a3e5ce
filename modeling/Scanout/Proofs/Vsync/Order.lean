import Scanout.Proofs.Vsync.Nesting

/-!
# Ticks in order

A tick reaches a callback on one of three ways: at once, with the batch that a registration finds,
or with a later batch of the same registration. If callbacks take in ticks but leave it to others to
register and unregister, no tick is lost, handed over twice or overtaken on any of them
(`inOrder_run`).

`Orderly` lists what can then be under way. Ticks are *held* if they are buffered or wait in a
batch, and every step hands over the held tick that has waited longest (`stepsInOrder`).
-/

set_option autoImplicit false

namespace Scanout.Vsync

/-- A tick that is handed over to a callback, and the callback installed at that moment. -/
structure Delivery where
  callback : CallbackId
  deadline : HostTime
  installed : Option CallbackId

namespace Nest

/-- The tick that a step hands over. -/
def delivery? (nest : Nest) (move : Move) : Option Delivery :=
  if nest.isAtClient then
    match move with
    | .tick deadline =>
      (nest.device.arrive deadline).1.map fun callback =>
        ⟨callback, deadline, nest.device.ticks.installed⟩
    | _ => none
  else
    match move, nest.stack with
    | .goOn, .deliver callback (deadline :: _) :: _ =>
      some ⟨callback, deadline, nest.device.ticks.installed⟩
    | _, _ => none

/-- The tick that a step takes in. -/
def arrival? (nest : Nest) : Move → Option HostTime
  | .tick deadline => if nest.isAtClient then some deadline else none
  | _ => none

def deliveries (nest : Nest) : List Move → List Delivery
  | [] => []
  | move :: rest => (nest.delivery? move).toList ++ (nest.step move).deliveries rest

def arrivals (nest : Nest) : List Move → List HostTime
  | [] => []
  | move :: rest => (nest.arrival? move).toList ++ (nest.step move).arrivals rest

theorem deliveries_append (nest : Nest) (first later : List Move) :
    nest.deliveries (first ++ later)
      = nest.deliveries first ++ (nest.run first).deliveries later := by
  induction first generalizing nest with
  | nil => rfl
  | cons move rest ih =>
      simp only [List.cons_append, deliveries, ih, List.append_assoc]
      rfl

theorem arrivals_append (nest : Nest) (first later : List Move) :
    nest.arrivals (first ++ later) = nest.arrivals first ++ (nest.run first).arrivals later := by
  induction first generalizing nest with
  | nil => rfl
  | cons move rest ih =>
      simp only [List.cons_append, arrivals, ih, List.append_assoc]
      rfl

/-- The step registers or unregisters a callback only if nothing is under way. -/
def KeepsOut (nest : Nest) : Move → Prop
  | .register _ => nest.stack = []
  | .unregister => nest.stack = []
  | _ => True

/-- Callbacks are registered and unregistered outside of callbacks only. -/
def Outside (nest : Nest) : List Move → Prop
  | [] => True
  | move :: rest => nest.KeepsOut move ∧ (nest.step move).Outside rest

/-- What clients can rely on after these moves. -/
structure InOrder (nest : Nest) (moves : List Move) : Prop where
  /-- Between calls, all ticks so far have been handed over or are buffered, in order of arrival. -/
  order : (nest.run moves).stack = [] →
    (nest.deliveries moves).map (·.deadline) ++ (nest.run moves).device.ticks.pending
      = nest.arrivals moves
  addressee : ∀ delivery ∈ nest.deliveries moves, delivery.installed = some delivery.callback
  /-- Nothing is left in the buffer when a registration returns. -/
  drained : ∀ callback, (nest.run moves).stack = [.flush callback] →
    ((nest.run moves).step .goOn).stack = [] →
    ((nest.run moves).step .goOn).device.ticks.pending = []

/-! ## What is under way -/

/-- What can be under way on this buffer if callbacks do not register any. -/
inductive Orderly (ticks : TickQueue) : List Activity → Prop where
  /-- Only callbacks run, each of which got its tick at once. -/
  | direct {stack : List Activity} (clients : ∀ activity ∈ stack, activity = .client)
      (quiet : ticks.flushing = 0)
      (drained : ∀ callback, ticks.installed = some callback → ticks.pending = []) :
      Orderly ticks stack
  | flushing {callback : CallbackId} (installed : ticks.installed = some callback)
      (once : ticks.flushing = 1) : Orderly ticks [.flush callback]
  | delivering {callback : CallbackId} {deadlines : List HostTime}
      (installed : ticks.installed = some callback) (once : ticks.flushing = 1) :
      Orderly ticks [.deliver callback deadlines, .flush callback]
  | calling {callback : CallbackId} {deadlines : List HostTime}
      (installed : ticks.installed = some callback) (once : ticks.flushing = 1) :
      Orderly ticks [.client, .deliver callback deadlines, .flush callback]

end Nest

/-- The ticks of a batch that wait to be handed over. -/
def Activity.waiting : Activity → List HostTime
  | deliver _ deadlines => deadlines
  | _ => []

namespace Nest

/-- The ticks that have arrived and are still to be handed over, oldest first. -/
def held (nest : Nest) : List HostTime :=
  nest.stack.flatMap Activity.waiting ++ nest.device.ticks.pending

/-- What one step may do to the ticks. -/
structure StepsInOrder (nest : Nest) (move : Move) : Prop where
  orderly : Orderly (nest.step move).device.ticks (nest.step move).stack
  addressee : ∀ delivery, nest.delivery? move = some delivery →
    delivery.installed = some delivery.callback
  /-- What is handed over has waited longest, and what arrives waits behind all others. -/
  conserved : (nest.delivery? move).toList.map (·.deadline) ++ (nest.step move).held
    = nest.held ++ (nest.arrival? move).toList

namespace StepsInOrder

variable {nest : Nest} {move : Move}

/-- A step that hands nothing over. -/
theorem silent (orderly : Orderly (nest.step move).device.ticks (nest.step move).stack)
    (nothing : nest.delivery? move = none)
    (kept : (nest.step move).held = nest.held ++ (nest.arrival? move).toList) :
    nest.StepsInOrder move where
  orderly := orderly
  addressee := by
    intro delivery same
    rw [nothing] at same
    cases same
  conserved := by
    rw [nothing, kept]
    rfl

theorem handing {callback : CallbackId} {deadline : HostTime}
    (orderly : Orderly (nest.step move).device.ticks (nest.step move).stack)
    (given : nest.delivery? move = some ⟨callback, deadline, nest.device.ticks.installed⟩)
    (installed : nest.device.ticks.installed = some callback)
    (oldest : deadline :: (nest.step move).held = nest.held ++ (nest.arrival? move).toList) :
    nest.StepsInOrder move where
  orderly := orderly
  addressee := by
    intro delivery same
    rw [given] at same
    obtain rfl := Option.some.inj same
    exact installed
  conserved := by
    rw [given, ← oldest]
    rfl

end StepsInOrder

theorem step_of_client {nest : Nest} (client : nest.isAtClient = true) (move : Move) :
    nest.step move = nest.clientStep move := if_pos client

theorem delivery?_of_client {nest : Nest} (client : nest.isAtClient = true) {move : Move}
    (other : ∀ deadline, move ≠ .tick deadline) : nest.delivery? move = none := by
  cases move with
  | tick deadline => exact absurd rfl (other deadline)
  | _ => simp only [delivery?, client, if_true]

/-- Nothing happens if a step is taken by somebody whose turn it is not. -/
theorem stepsInOrder_of_turn {nest : Nest} {move : Move}
    (orderly : Orderly nest.device.ticks nest.stack) (device : nest.isAtClient = false)
    (other : move ≠ .goOn) : nest.StepsInOrder move := by
  have still : nest.step move = nest := by
    cases move with
    | goOn => exact absurd rfl other
    | _ => simp only [step, device, Bool.false_eq_true, if_false]
  have nothing : nest.delivery? move = none := by
    cases move with
    | goOn => exact absurd rfl other
    | _ => simp only [delivery?, device, Bool.false_eq_true, if_false]
  have nobody : nest.arrival? move = none := by
    cases move with
    | tick deadline => simp only [arrival?, device, Bool.false_eq_true, if_false]
    | _ => rfl
  refine .silent (by rwa [still]) nothing ?_
  rw [still, nobody]
  simp

/-! ## Ticks that are handed over at once -/

theorem isAtClient_of_clients {device : Device} {stack : List Activity}
    (clients : ∀ activity ∈ stack, activity = .client) :
    isAtClient ⟨device, stack⟩ = true := by
  cases stack with
  | nil => rfl
  | cons activity rest =>
      obtain rfl := clients activity List.mem_cons_self
      rfl

theorem waiting_of_clients {stack : List Activity}
    (clients : ∀ activity ∈ stack, activity = .client) :
    stack.flatMap Activity.waiting = [] := by
  refine List.flatMap_eq_nil_iff.mpr fun activity member => ?_
  rw [clients activity member]
  rfl

section Direct

variable {device : Device} {stack : List Activity}
  (clients : ∀ activity ∈ stack, activity = .client) (quiet : device.ticks.flushing = 0)
  (drained : ∀ callback, device.ticks.installed = some callback → device.ticks.pending = [])

include clients quiet drained

theorem tick_direct (deadline : HostTime) : StepsInOrder ⟨device, stack⟩ (.tick deadline) := by
  have client : isAtClient ⟨device, stack⟩ = true := isAtClient_of_clients clients
  have arrived : arrival? ⟨device, stack⟩ (.tick deadline) = some deadline := if_pos client
  have stepped := step_of_client client (.tick deadline)
  cases installed : device.ticks.installed with
  | none =>
      have buffered : device.arrive deadline = (none,
          { device with ticks :=
            { device.ticks with pending := device.ticks.pending ++ [deadline] } }) := by
        simp only [Device.arrive, TickQueue.arrive, installed]
      simp only [clientStep, buffered] at stepped
      refine .silent ?_ ?_ ?_
      · rw [stepped]
        refine .direct clients quiet fun callback contrary => ?_
        rw [installed] at contrary
        cases contrary
      · simp only [delivery?, client, if_true, buffered, Option.map_none]
      · rw [stepped, arrived]
        simp [held]
  | some callback =>
      have handed : device.arrive deadline = (some callback, device) := by
        simp only [Device.arrive, TickQueue.arrive, installed, quiet, if_true]
      have given : delivery? ⟨device, stack⟩ (.tick deadline)
          = some ⟨callback, deadline, device.ticks.installed⟩ := by
        simp only [delivery?, client, if_true, handed, Option.map_some]
      simp only [clientStep, handed] at stepped
      refine .handing ?_ given installed ?_
      · rw [stepped]
        exact .direct (List.forall_mem_cons.mpr ⟨rfl, clients⟩) quiet drained
      · -- nothing is held, so nothing is overtaken
        rw [stepped, arrived]
        simp [held, waiting_of_clients clients, drained callback installed, Activity.waiting]

theorem step_direct (move : Move) (out : KeepsOut ⟨device, stack⟩ move) :
    StepsInOrder ⟨device, stack⟩ move := by
  have client : isAtClient ⟨device, stack⟩ = true := isAtClient_of_clients clients
  have stepped := step_of_client client move
  cases move with
  | tick deadline => exact tick_direct clients quiet drained deadline
  | register callback =>
      obtain rfl : stack = [] := out
      refine .silent (.flushing rfl ?_) (delivery?_of_client client (by simp)) ?_
      · change device.ticks.flushing + 1 = 1
        rw [quiet]
      · exact (List.append_nil _).symm
  | unregister =>
      refine .silent ?_ (delivery?_of_client client (by simp)) ?_
      · rw [stepped]
        refine .direct clients quiet fun callback contrary => ?_
        cases contrary
      · rw [stepped]
        exact (List.append_nil _).symm
  | finish =>
      have rest : ∀ activity ∈ stack.tail, activity = .client := fun activity member =>
        clients activity (List.mem_of_mem_tail member)
      refine .silent ?_ (delivery?_of_client client (by simp)) ?_
      · rw [stepped]
        exact .direct rest quiet drained
      · rw [stepped]
        simp [held, arrival?, clientStep, waiting_of_clients rest, waiting_of_clients clients]
  | goOn =>
      refine .silent ?_ (delivery?_of_client client (by simp)) ?_
      · rw [stepped]
        exact .direct clients quiet drained
      · rw [stepped]
        exact (List.append_nil _).symm

end Direct

/-! ## Ticks that are handed over by a registration -/

section Registration

variable {device : Device} {callback : CallbackId}
  (installed : device.ticks.installed = some callback) (once : device.ticks.flushing = 1)

include installed once

/-- A registration goes on: it hands over all that is buffered, or nothing is. -/
theorem step_flushing (move : Move) : StepsInOrder ⟨device, [.flush callback]⟩ move := by
  rcases ne_or_eq move .goOn with other | rfl
  · exact stepsInOrder_of_turn (.flushing installed once) rfl other
  · by_cases empty : device.ticks.pending = []
    · have ended : step ⟨device, [.flush callback]⟩ .goOn
          = ⟨{ device with ticks := { device.ticks with flushing := 0 } }, []⟩ := by
        simp [step, isAtClient, deviceStep, Device.nextBatch, TickQueue.nextBatch, empty, once]
      refine .silent ?_ rfl ?_
      · rw [ended]
        exact .direct (by simp) rfl fun _ _ => empty
      · rw [ended]
        simp [held, arrival?, Activity.waiting]
    · have taken : step ⟨device, [.flush callback]⟩ .goOn
          = ⟨{ device with ticks := { device.ticks with pending := [] } },
            [.deliver callback device.ticks.pending, .flush callback]⟩ := by
        simp [step, isAtClient, deviceStep, Device.nextBatch, TickQueue.nextBatch, empty, installed]
      refine .silent ?_ rfl ?_
      · rw [taken]
        exact .delivering installed once
      · rw [taken]
        simp [held, arrival?, Activity.waiting]

theorem step_delivering (deadlines : List HostTime) (move : Move) :
    StepsInOrder ⟨device, [.deliver callback deadlines, .flush callback]⟩ move := by
  rcases ne_or_eq move .goOn with other | rfl
  · exact stepsInOrder_of_turn (.delivering installed once) rfl other
  · cases deadlines with
    | nil => exact .silent (.flushing installed once) rfl (List.append_nil _).symm
    | cons deadline deadlines =>
        refine .handing (.calling installed once) rfl installed ?_
        exact (List.append_nil _).symm

/-- What arrives while a registration calls its callback waits behind the batch. -/
theorem step_calling (deadlines : List HostTime) {move : Move}
    (out : KeepsOut ⟨device, [.client, .deliver callback deadlines, .flush callback]⟩ move) :
    StepsInOrder ⟨device, [.client, .deliver callback deadlines, .flush callback]⟩ move := by
  cases move with
  | tick deadline =>
      have buffered : device.arrive deadline = (none,
          { device with ticks :=
            { device.ticks with pending := device.ticks.pending ++ [deadline] } }) := by
        simp [Device.arrive, TickQueue.arrive, installed, once]
      have stepped : step ⟨device, [.client, .deliver callback deadlines, .flush callback]⟩
            (.tick deadline)
          = ⟨{ device with ticks :=
            { device.ticks with pending := device.ticks.pending ++ [deadline] } },
            [.client, .deliver callback deadlines, .flush callback]⟩ := by
        simp only [step, isAtClient, clientStep, buffered, if_true]
      refine .silent ?_ ?_ ?_
      · rw [stepped]
        exact .calling installed once
      · simp only [delivery?, isAtClient, if_true, buffered, Option.map_none]
      · rw [stepped]
        simp [held, arrival?, isAtClient]
  | register other => cases out
  | unregister => cases out
  | finish => exact .silent (.delivering installed once) rfl (List.append_nil _).symm
  | goOn => exact .silent (.calling installed once) rfl (List.append_nil _).symm

end Registration

/-! ## Runs -/

theorem stepsInOrder {nest : Nest} (orderly : Orderly nest.device.ticks nest.stack)
    {move : Move} (out : nest.KeepsOut move) : nest.StepsInOrder move := by
  obtain ⟨device, stack⟩ := nest
  cases orderly with
  | direct clients quiet drained => exact step_direct clients quiet drained move out
  | flushing installed once => exact step_flushing installed once move
  | delivering installed once => exact step_delivering installed once _ move
  | calling installed once => exact step_calling installed once _ out

/-- Over a run, what is held and what arrives is handed over in that order or still held. -/
theorem held_run {nest : Nest} (orderly : Orderly nest.device.ticks nest.stack)
    {moves : List Move} (outside : nest.Outside moves) :
    Orderly (nest.run moves).device.ticks (nest.run moves).stack
      ∧ (nest.deliveries moves).map (·.deadline) ++ (nest.run moves).held
        = nest.held ++ nest.arrivals moves
      ∧ ∀ delivery ∈ nest.deliveries moves, delivery.installed = some delivery.callback := by
  induction moves generalizing nest with
  | nil => exact ⟨orderly, by simp [deliveries, arrivals, run], by simp [deliveries]⟩
  | cons move rest ih =>
      obtain ⟨out, later⟩ := outside
      obtain ⟨next, addressee, conserved⟩ := stepsInOrder orderly out
      obtain ⟨last, laterConserved, laterAddressee⟩ := ih next later
      refine ⟨last, ?_, ?_⟩
      · calc ((nest.delivery? move).toList ++ (nest.step move).deliveries rest).map (·.deadline)
              ++ ((nest.step move).run rest).held
            = (nest.delivery? move).toList.map (·.deadline)
              ++ (((nest.step move).deliveries rest).map (·.deadline)
                ++ ((nest.step move).run rest).held) := by
              rw [List.map_append, List.append_assoc]
          _ = ((nest.delivery? move).toList.map (·.deadline) ++ (nest.step move).held)
              ++ (nest.step move).arrivals rest := by
              rw [laterConserved, List.append_assoc]
          _ = nest.held ++ ((nest.arrival? move).toList ++ (nest.step move).arrivals rest) := by
              rw [conserved, List.append_assoc]
      · intro delivery member
        rcases List.mem_append.mp member with first | after
        · exact addressee delivery (by simpa using first)
        · exact laterAddressee delivery after

/-- A registration that nothing else is under way with returns on an empty buffer. -/
theorem drained_of_flush {nest : Nest} (orderly : Orderly nest.device.ticks nest.stack)
    {callback : CallbackId} (underway : nest.stack = [.flush callback])
    (ended : (nest.step .goOn).stack = []) : (nest.step .goOn).device.ticks.pending = [] := by
  obtain ⟨device, stack⟩ := nest
  obtain rfl : stack = [.flush callback] := underway
  by_cases empty : device.ticks.pending = []
  · simp [step, isAtClient, deviceStep, Device.nextBatch, TickQueue.nextBatch, empty]
  · have installed : device.ticks.installed = some callback := by
      cases orderly with
      | direct clients quiet drained =>
          exact absurd (clients _ List.mem_cons_self) (by simp)
      | flushing installed once => exact installed
    simp [step, isAtClient, deviceStep, Device.nextBatch, TickQueue.nextBatch, empty, installed]
      at ended

/-- If callbacks are registered outside of callbacks only, ticks are handed over in order. -/
theorem inOrder_run {nest : Nest} (opened : nest.Opened) {moves : List Move}
    (outside : nest.Outside moves) : nest.InOrder moves := by
  have ticks := ticks_of_opened opened
  have start : Orderly nest.device.ticks nest.stack := by
    rw [opened.stack, ticks]
    exact .direct (by simp) rfl fun _ _ => rfl
  have nothing : nest.held = [] := by simp [held, opened.stack, ticks]
  obtain ⟨orderly, conserved, addressee⟩ := held_run start outside
  refine ⟨?_, addressee, fun callback => drained_of_flush orderly⟩
  intro between
  rw [nothing] at conserved
  simpa [held, between] using conserved

/-- Two ticks wait for a callback, which takes in a third while it is given them, a fourth later and
a fifth in the middle of that. -/
def crowdedRun : List Move :=
  [.tick ⟨1⟩, .tick ⟨2⟩, .register ⟨0⟩, .goOn, .goOn, .tick ⟨3⟩, .finish, .goOn, .finish, .goOn,
    .goOn, .goOn, .finish, .goOn, .goOn, .tick ⟨4⟩, .tick ⟨5⟩, .finish, .finish]

theorem inOrder_run_crowded :
    onScript.Opened ∧ onScript.Outside crowdedRun ∧ onScript.InOrder crowdedRun
      ∧ (onScript.run crowdedRun).stack = []
      ∧ (onScript.deliveries crowdedRun).map (·.deadline) = [⟨1⟩, ⟨2⟩, ⟨3⟩, ⟨4⟩, ⟨5⟩] := by
  have outside : onScript.Outside crowdedRun := by
    simp only [Outside, crowdedRun, KeepsOut, true_and, and_true]
    rfl
  exact ⟨opened_onScript, outside, inOrder_run opened_onScript outside, rfl, rfl⟩

end Nest

end Scanout.Vsync
