import Scanout.Proofs.Vsync.Order
import Scanout.Session.Machine

/-!
# The session machine keeps to the nesting of calls

A session carries out its commands with a machine that has a stack of its own. `Machine.nest` sees
in that stack what is under way inside the device. As long as all commands, those of callbacks
included, are about ticks and their callback, every step of the machine is at most one step of the
nest (`nest_step`), which takes in and hands over the same ticks as the machine. So what holds of
every nest that an opened device can get into holds of the machine, too.
-/

set_option autoImplicit false

namespace Scanout

open Vsync (Activity CallbackId Move Nest)

/-- The command and all commands in it are about ticks and their callback. -/
inductive Command.IsVsync : Command → Prop where
  | tick (deadline : HostTime) : IsVsync (.tick deadline)
  | register {label : String} {scripts : List (List Command)} {descriptor : Option Int32}
      (nested : ∀ script ∈ scripts, ∀ command ∈ script, IsVsync command) :
      IsVsync (.register .vsync label scripts descriptor)
  | unregister : IsVsync (.unregister .vsync)

/-- What a task is for the device. -/
def Task.activities : Task → List Activity
  | .commands _ => [.client]
  | .call _ _ => [.client]
  | .flush callback => [.flush callback]
  | .deliver callback deadlines => [.deliver callback deadlines]
  | .complete _ _ _ _ => []
  | .reportTick _ _ _ => []
  | .answer _ => []

/-- The tick that a task hands over to a callback. -/
def Task.tick? : Task → Option (CallbackId × HostTime)
  | .call callback (.tick _ deadline) => some (callback, deadline)
  | _ => none

/-- A task with commands about ticks and their callback. -/
def Task.IsVsync : Task → Prop
  | .commands listed => ∀ command ∈ listed, command.IsVsync
  | .complete _ _ _ _ => False
  | _ => True

def Session.IsVsync (session : Session) : Prop :=
  ∀ callback ∈ session.callbacks, ∀ script ∈ callback.scripts, ∀ command ∈ script,
    command.IsVsync

def Command.tick? : Command → Option HostTime
  | .tick deadline => some deadline
  | _ => none

/-- The ticks that these moves hand over, each with its callback. -/
def Vsync.Nest.handed (nest : Nest) (moves : List Move) : List (CallbackId × HostTime) :=
  (nest.deliveries moves).map fun delivery => (delivery.callback, delivery.deadline)

namespace Machine

/-- What is under way inside the device. -/
def nest (machine : Machine) : Nest where
  device := machine.session.device
  stack := machine.stack.flatMap Task.activities

/-- The tick that the next task hands over to a callback. -/
def handing (machine : Machine) : Option (CallbackId × HostTime) :=
  machine.stack.head?.bind Task.tick?

/-- The tick that the next task takes in. -/
def taking (machine : Machine) : Option HostTime :=
  match machine.stack with
  | .commands (.tick deadline :: _) :: _ => some deadline
  | _ => none

/-- What `Machine.run` hands over. -/
def handed : Nat → Machine → List (CallbackId × HostTime)
  | 0, _ => []
  | fuel + 1, machine =>
    if machine.stack.isEmpty then [] else machine.handing.toList ++ handed fuel machine.step

def taken : Nat → Machine → List HostTime
  | 0, _ => []
  | fuel + 1, machine =>
    if machine.stack.isEmpty then [] else machine.taking.toList ++ taken fuel machine.step

/-- Everything that the machine has to do is about ticks and their callback. -/
structure IsVsync (machine : Machine) : Prop where
  session : machine.session.IsVsync
  stack : ∀ task ∈ machine.stack, task.IsVsync
  /-- A tick that is to be handed over does not wait behind another task. -/
  prompt : ∀ task ∈ machine.stack.tail, task.tick? = none

end Machine

/-- What holds of all commands of callbacks holds of those that are taken and of those that are
left. -/
theorem Session.useScript_forall {law : Command → Prop} {callbacks : List CallbackScript}
    (only : ∀ callback ∈ callbacks, ∀ script ∈ callback.scripts, ∀ command ∈ script,
      law command) (place : Nat) :
    (∀ command ∈ (useScript callbacks place).1, law command)
      ∧ ∀ callback ∈ (useScript callbacks place).2, ∀ script ∈ callback.scripts,
        ∀ command ∈ script, law command := by
  induction callbacks generalizing place with
  | nil => exact ⟨by simp [useScript], by simp [useScript]⟩
  | cons callback rest ih =>
      obtain ⟨first, later⟩ := List.forall_mem_cons.mp only
      cases place with
      | zero =>
          refine ⟨?_, List.forall_mem_cons.mpr ⟨?_, later⟩⟩
          · simp only [useScript]
            cases scripts : callback.scripts with
            | nil => simp
            | cons script scripts' => exact first script (scripts ▸ List.mem_cons_self)
          · exact fun script member => first script (List.mem_of_mem_drop member)
      | succ place =>
          obtain ⟨taken, left⟩ := ih later place
          exact ⟨taken, List.forall_mem_cons.mpr ⟨first, left⟩⟩

theorem Vsync.Nest.handed_append (nest : Nest) (first later : List Move) :
    nest.handed (first ++ later) = nest.handed first ++ (nest.run first).handed later := by
  simp only [Nest.handed, Nest.deliveries_append, List.map_append]

namespace Session

/-- A command about ticks is at most one step of the client. -/
theorem nest_start {session : Session} {command : Command} (vsync : command.IsVsync)
    (below : List Activity) (client : Nest.isAtClient ⟨session.device, below⟩ = true) :
    ∃ moves, Nest.run ⟨session.device, below⟩ moves
        = ⟨(session.start command).1.device,
            (session.start command).2.flatMap Task.activities ++ below⟩
      ∧ Nest.arrivals ⟨session.device, below⟩ moves = command.tick?.toList
      ∧ Nest.handed ⟨session.device, below⟩ moves
        = ((session.start command).2.head?.bind Task.tick?).toList := by
  have one : ∀ move, Nest.run ⟨session.device, below⟩ [move]
      = Nest.clientStep ⟨session.device, below⟩ move := by
    intro move
    simp only [Nest.run, Nest.step, client, if_true]
  cases vsync with
  | tick deadline =>
      refine ⟨[.tick deadline], (one _).trans ?_, ?_, ?_⟩
      · simp only [start, startTick, Nest.clientStep]
        cases session.device.arrive deadline with
        | mk callback device => cases callback <;> rfl
      · simp [Nest.arrivals, Nest.arrival?, client, Command.tick?]
      · simp only [start, startTick, Nest.handed, Nest.deliveries, Nest.delivery?, client, if_true,
          List.append_nil]
        cases session.device.arrive deadline with
        | mk callback device => cases callback <;> rfl
  | register nested =>
      simp only [start]
      split
      · refine ⟨[.register ⟨session.callbacks.length⟩], one _, rfl, ?_⟩
        simp only [Nest.handed, Nest.deliveries, Nest.delivery?, client, if_true]
        rfl
      · exact ⟨[], rfl, rfl, rfl⟩
  | unregister =>
      refine ⟨[.unregister], one _, rfl, ?_⟩
      simp only [Nest.handed, Nest.deliveries, Nest.delivery?, client, if_true]
      rfl

theorem isVsync_start {session : Session} (only : session.IsVsync) {command : Command}
    (vsync : command.IsVsync) :
    (session.start command).1.IsVsync ∧ (∀ task ∈ (session.start command).2, task.IsVsync)
      ∧ (session.start command).2 ≠ []
      ∧ ∀ task ∈ (session.start command).2.tail, task.tick? = none := by
  cases vsync with
  | tick deadline =>
      simp only [start, startTick]
      cases session.device.arrive deadline with
      | mk callback device =>
          cases callback <;> exact ⟨only, by simp [Task.IsVsync], by simp, by simp [Task.tick?]⟩
  | register nested =>
      simp only [start]
      split
      · refine ⟨?_, by simp [startRegister, Task.IsVsync], by simp [startRegister],
          by simp [startRegister, Task.tick?]⟩
        intro callback member
        rcases List.mem_append.mp member with old | new
        · exact only callback old
        · rw [List.mem_singleton.mp new]
          exact nested
      · exact ⟨only, by simp [Task.IsVsync], by simp, by simp⟩
  | unregister =>
      exact ⟨only, by simp [start, carryOut, Task.IsVsync], by simp [start], by simp [start]⟩

end Session

namespace Machine

/-- A step of the nest that follows a step of the machine. -/
structure StepsTo (machine after : Machine) (moves : List Move) : Prop where
  ran : machine.nest.run moves = after.nest
  arrivals : machine.nest.arrivals moves = machine.taking.toList
  handed : machine.nest.handed moves = after.handing.toList

theorem handing_of_prompt {session : Session} {stack : List Task} {answered : Option Answered}
    (prompt : ∀ task ∈ stack, task.tick? = none) :
    handing ⟨session, stack, answered⟩ = none := by
  cases stack with
  | nil => rfl
  | cons task rest => exact prompt task List.mem_cons_self

theorem prompt_tail {stack : List Task} (prompt : ∀ task ∈ stack, task.tick? = none) :
    ∀ task ∈ stack.tail, task.tick? = none :=
  fun task member => prompt task (List.mem_of_mem_tail member)

/-- The next step keeps to ticks and their callback, and at most one step of the nest follows it. -/
def IsFollowed (machine : Machine) : Prop :=
  machine.step.IsVsync ∧ ∃ moves, machine.StepsTo machine.step moves

section Tasks

variable {session : Session} {rest : List Task} {answered : Option Answered}
  (sessionOnly : session.IsVsync) (restOnly : ∀ task ∈ rest, task.IsVsync)
  (prompt : ∀ task ∈ rest, task.tick? = none)

include sessionOnly restOnly prompt

theorem isFollowed_finish : IsFollowed ⟨session, .commands [] :: rest, answered⟩ := by
  refine ⟨⟨sessionOnly, restOnly, prompt_tail prompt⟩, [.finish], rfl, rfl, ?_⟩
  simp only [step, carryOut, handing_of_prompt prompt]
  rfl

theorem isFollowed_command {command : Command} {later : List Command}
    (commandOnly : command.IsVsync) (laterOnly : ∀ command ∈ later, command.IsVsync) :
    IsFollowed ⟨session, .commands (command :: later) :: rest, answered⟩ := by
  obtain ⟨sessionAfter, tasksOnly, nonempty, promptTasks⟩ :=
    Session.isVsync_start sessionOnly commandOnly
  obtain ⟨first, tasks, started⟩ := List.exists_cons_of_ne_nil nonempty
  refine ⟨⟨sessionAfter, ?_, ?_⟩, ?_⟩
  · refine List.forall_mem_append.mpr ⟨tasksOnly, ?_⟩
    exact List.forall_mem_cons.mpr ⟨laterOnly, restOnly⟩
  · simp only [step, carryOut, goOn, started, List.cons_append, List.tail_cons]
    rw [started] at promptTasks
    exact List.forall_mem_append.mpr ⟨promptTasks, List.forall_mem_cons.mpr ⟨rfl, prompt⟩⟩
  · obtain ⟨moves, ran, arrivals, handed⟩ := Session.nest_start commandOnly
      ((Task.commands later :: rest).flatMap Task.activities) rfl
    refine ⟨moves, ran.trans ?_, arrivals.trans ?_, handed.trans ?_⟩
    · simp only [nest, step, carryOut, goOn, List.flatMap_append]
    · cases command <;> rfl
    · simp only [handing, step, carryOut, goOn, started]
      rfl

/-- A callback is a client with the commands of its next script. -/
theorem isFollowed_call (callback : CallbackId) (news : CallbackNews) :
    IsFollowed ⟨session, .call callback news :: rest, answered⟩ := by
  simp only [IsFollowed, step, carryOut]
  cases found : session.callbacks[callback.number]? with
  | none =>
      refine ⟨⟨sessionOnly, restOnly, prompt_tail prompt⟩, [.finish], rfl, rfl, ?_⟩
      rw [handing_of_prompt prompt]
      rfl
  | some script =>
      obtain ⟨taken, left⟩ := Session.useScript_forall sessionOnly callback.number
      exact ⟨⟨left, List.forall_mem_cons.mpr ⟨taken, restOnly⟩, prompt⟩, [], rfl, rfl, rfl⟩

theorem isFollowed_flush (callback : CallbackId) :
    IsFollowed ⟨session, .flush callback :: rest, answered⟩ := by
  refine ⟨?_, [.goOn], ?_, rfl, ?_⟩
  · simp only [step, carryOut]
    split
    · exact ⟨sessionOnly, restOnly, prompt_tail prompt⟩
    · exact ⟨sessionOnly, List.forall_mem_cons.mpr
        ⟨trivial, List.forall_mem_cons.mpr ⟨trivial, restOnly⟩⟩,
        List.forall_mem_cons.mpr ⟨rfl, prompt⟩⟩
  · change Nest.deviceStep
      ⟨session.device, .flush callback :: rest.flatMap Task.activities⟩ = _
    simp only [Nest.deviceStep, step, carryOut]
    cases session.device.nextBatch callback with
    | mk batch device => cases batch <;> rfl
  · simp only [step, carryOut]
    split
    · rw [handing_of_prompt prompt]
      rfl
    · rfl

theorem isFollowed_deliver (callback : CallbackId) (deadlines : List HostTime) :
    IsFollowed ⟨session, .deliver callback deadlines :: rest, answered⟩ := by
  cases deadlines with
  | nil =>
      refine ⟨⟨sessionOnly, restOnly, prompt_tail prompt⟩, [.goOn], rfl, rfl, ?_⟩
      simp only [step, carryOut, handing_of_prompt prompt]
      rfl
  | cons deadline deadlines =>
      refine ⟨⟨sessionOnly, ?_, ?_⟩, [.goOn], rfl, rfl, rfl⟩
      · exact List.forall_mem_cons.mpr ⟨trivial, List.forall_mem_cons.mpr
          ⟨trivial, List.forall_mem_cons.mpr ⟨trivial, restOnly⟩⟩⟩
      · exact List.forall_mem_cons.mpr ⟨rfl, List.forall_mem_cons.mpr ⟨rfl, prompt⟩⟩

/-- The nest knows nothing of ticks that are reported, nor of answers. -/
theorem isFollowed_reportTick (display : DisplayId) (deadline : HostTime) (buffered : Bool) :
    IsFollowed ⟨session, .reportTick display deadline buffered :: rest, answered⟩ := by
  refine ⟨⟨sessionOnly, restOnly, prompt_tail prompt⟩, [], rfl, rfl, ?_⟩
  simp only [step, carryOut, handing_of_prompt prompt]
  rfl

theorem isFollowed_answer (answer : Answer) :
    IsFollowed ⟨session, .answer answer :: rest, answered⟩ := by
  simp only [IsFollowed, step, carryOut]
  split
  · rename_i last
    obtain rfl := List.isEmpty_iff.mp last
    exact ⟨⟨sessionOnly, restOnly, prompt_tail prompt⟩, [], rfl, rfl, rfl⟩
  · refine ⟨⟨sessionOnly, restOnly, prompt_tail prompt⟩, [], rfl, rfl, ?_⟩
    rw [handing_of_prompt prompt]
    rfl

end Tasks

/-- A step of the machine is at most one step of the nest. -/
theorem nest_step {machine : Machine} (only : machine.IsVsync) : machine.IsFollowed := by
  obtain ⟨session, stack, answered⟩ := machine
  obtain ⟨sessionOnly, stackOnly, prompt⟩ := only
  cases stack with
  | nil => exact ⟨⟨sessionOnly, stackOnly, prompt⟩, [], rfl, rfl, rfl⟩
  | cons task rest =>
      obtain ⟨taskOnly, restOnly⟩ := List.forall_mem_cons.mp stackOnly
      cases task with
      | commands listed =>
          cases listed with
          | nil => exact isFollowed_finish sessionOnly restOnly prompt
          | cons command later =>
              obtain ⟨commandOnly, laterOnly⟩ := List.forall_mem_cons.mp taskOnly
              exact isFollowed_command sessionOnly restOnly prompt commandOnly laterOnly
      | complete route call question save => exact absurd taskOnly id
      | call callback news => exact isFollowed_call sessionOnly restOnly prompt callback news
      | reportTick display deadline buffered =>
          exact isFollowed_reportTick sessionOnly restOnly prompt display deadline buffered
      | flush callback => exact isFollowed_flush sessionOnly restOnly prompt callback
      | deliver callback deadlines =>
          exact isFollowed_deliver sessionOnly restOnly prompt callback deadlines
      | answer answer => exact isFollowed_answer sessionOnly restOnly prompt answer

/-- What the machine hands over in a run is what the nest does, but for the tick that each of them
is just about to hand over. -/
theorem nest_run {machine : Machine} (only : machine.IsVsync) (fuel : Nat) :
    (Machine.run fuel machine).IsVsync
      ∧ ∃ moves, machine.nest.run moves = (Machine.run fuel machine).nest
        ∧ machine.nest.arrivals moves = machine.taken fuel
        ∧ machine.handing.toList ++ machine.nest.handed moves
          = machine.handed fuel ++ (Machine.run fuel machine).handing.toList := by
  induction fuel generalizing machine with
  | zero => exact ⟨only, [], rfl, rfl, List.append_nil _⟩
  | succ fuel ih =>
      simp only [Machine.run, taken, handed]
      split
      · exact ⟨only, [], rfl, rfl, List.append_nil _⟩
      · obtain ⟨stepOnly, moves, stepped, arrivals, handedFirst⟩ := nest_step only
        obtain ⟨runOnly, later, ran, arrivalsLater, handedLater⟩ := ih stepOnly
        refine ⟨runOnly, moves ++ later, ?_, ?_, ?_⟩
        · rw [Nest.run_append, stepped, ran]
        · rw [Nest.arrivals_append, stepped, arrivals, arrivalsLater]
        · rw [Nest.handed_append, stepped, handedFirst, handedLater, List.append_assoc]

end Machine

namespace Session

/-- A command about ticks, carried out to any point, is a run of the nest, which has taken in the
ticks that the command has taken in and handed over those that it has handed over. -/
theorem nest_perform {session : Session} (only : session.IsVsync) {command : Command}
    (vsync : command.IsVsync) (fuel : Nat) :
    let started : Machine :=
      { session := (session.start command).1, stack := (session.start command).2 }
    ∃ moves, Nest.run { device := session.device } moves = (Machine.run fuel started).nest
      ∧ Nest.arrivals { device := session.device } moves
        = command.tick?.toList ++ started.taken fuel
      ∧ Nest.handed { device := session.device } moves
        = started.handed fuel ++ (Machine.run fuel started).handing.toList := by
  obtain ⟨sessionOnly, tasksOnly, _, prompt⟩ := isVsync_start only vsync
  have begun : Machine.IsVsync
      { session := (session.start command).1, stack := (session.start command).2 } :=
    ⟨sessionOnly, tasksOnly, prompt⟩
  obtain ⟨first, began, arrivals, handed⟩ := nest_start vsync [] rfl
  obtain ⟨_, later, ran, arrivalsLater, handedLater⟩ := Machine.nest_run begun fuel
  rw [List.append_nil] at began
  refine ⟨first ++ later, ?_, ?_, ?_⟩
  · rw [Nest.run_append, began, ← ran]
    rfl
  · rw [Nest.arrivals_append, began, arrivals, ← arrivalsLater]
    rfl
  · rw [Nest.handed_append, began, handed, ← handedLater]
    rfl

end Session

end Scanout
