import Scanout.Proofs.Vsync.Nesting

/-!
# Ticks that stay behind

Whoever registers a callback empties the buffer before the registration is over, and a later
registration takes the buffer over from an earlier one that is still under way. But the later one
may be over first. Ticks that arrive then are buffered, since a registration is still under way, and
nobody is left to hand them over: they are *stranded*.

`pending_run` says that nothing else stays behind. Once no registration is under way and a callback
is installed, the buffer holds the stranded ticks, so it is empty exactly if there are none.
`stranded_tick` is a run that ends with a stranded tick in the buffer.
-/

set_option autoImplicit false

namespace Scanout.Vsync.Nest

/-- A tick that arrives now is stranded: a registration is under way, but not that of the callback
which is installed. -/
def strands (nest : Nest) : Bool :=
  match nest.device.ticks.installed with
  | none => false
  | some callback => nest.stack.any Activity.isFlush && !nest.stack.contains (.flush callback)

/-- The stranded ticks after a step, oldest first. Handing over a batch takes all of them along. -/
def strandedNext (nest : Nest) (stranded : List HostTime) : Move → List HostTime
  | .tick deadline =>
    if nest.isAtClient && nest.strands then stranded ++ [deadline] else stranded
  | .goOn => if !nest.isAtClient && nest.handsOver then [] else stranded
  | _ => stranded

def stranded (nest : Nest) (soFar : List HostTime) : List Move → List HostTime
  | [] => soFar
  | move :: rest => stranded (nest.step move) (nest.strandedNext soFar move) rest

/-- What a device's buffer has to do with what is under way. -/
structure Accounted (nest : Nest) (stranded : List HostTime) : Prop where
  /-- The device counts the registrations that are under way. -/
  flushing : nest.device.ticks.flushing = nest.stack.countP Activity.isFlush
  /-- Without a registration of its own under way, a callback leaves just the stranded ticks. -/
  left : ∀ callback, nest.device.ticks.installed = some callback →
    .flush callback ∉ nest.stack → nest.device.ticks.pending = stranded
  buffered : stranded.Sublist nest.device.ticks.pending

theorem any_isFlush_iff {nest : Nest} {stranded : List HostTime}
    (accounted : nest.Accounted stranded) :
    nest.stack.any Activity.isFlush = true ↔ nest.device.ticks.flushing ≠ 0 := by
  rw [accounted.flushing, ← Nat.pos_iff_ne_zero, List.countP_pos_iff, List.any_eq_true]

namespace Accounted

variable {nest : Nest} {stranded : List HostTime}

/-- Only the registrations among the activities count. -/
theorem restack {device : Device} {stack after : List Activity}
    (accounted : Accounted ⟨device, stack⟩ stranded)
    (same : after.filter Activity.isFlush = stack.filter Activity.isFlush) :
    Accounted ⟨device, after⟩ stranded where
  flushing := by
    change device.ticks.flushing = after.countP Activity.isFlush
    rw [List.countP_eq_length_filter, same, ← List.countP_eq_length_filter]
    exact accounted.flushing
  left := by
    intro callback installed notUnderway
    refine accounted.left callback installed fun underway => notUnderway ?_
    have kept : .flush callback ∈ stack.filter Activity.isFlush :=
      List.mem_filter.mpr ⟨underway, rfl⟩
    rw [← same] at kept
    exact (List.mem_filter.mp kept).1
  buffered := accounted.buffered

theorem tick (accounted : nest.Accounted stranded) (client : nest.isAtClient = true)
    (deadline : HostTime) :
    (nest.clientStep (.tick deadline)).Accounted
      (nest.strandedNext stranded (.tick deadline)) := by
  have underway := any_isFlush_iff accounted
  obtain ⟨flushing, left, buffered⟩ := accounted
  obtain ⟨device, stack⟩ := nest
  simp only [strandedNext, client, Bool.true_and, clientStep, Device.arrive]
  cases installed : device.ticks.installed with
  | none =>
      simp only [TickQueue.arrive, strands, installed, Bool.false_eq_true, if_false]
      refine ⟨flushing, ?_, buffered.trans (List.sublist_append_left _ _)⟩
      intro callback contrary
      cases contrary
  | some callback =>
      by_cases quiet : device.ticks.flushing = 0
      · -- the callback gets the tick at once
        have none : stack.any Activity.isFlush = false := by
          rw [← Bool.not_eq_true]
          exact fun some => underway.mp some quiet
        simp only [TickQueue.arrive, strands, installed, quiet, none, if_true, Bool.false_and,
          Bool.false_eq_true, if_false]
        refine ⟨by simpa [Activity.isFlush] using flushing, ?_, buffered⟩
        intro other same notFlushing
        exact left other same fun there => notFlushing (List.mem_cons_of_mem _ there)
      · have some : stack.any Activity.isFlush = true := underway.mpr quiet
        simp only [TickQueue.arrive, strands, installed, quiet, some, if_false, Bool.true_and]
        by_cases own : .flush callback ∈ stack
        · -- the registration of the callback will hand the tick over
          have contained : stack.contains (.flush callback) = true := by simpa using own
          simp only [contained, Bool.not_true, Bool.false_eq_true, if_false]
          refine ⟨flushing, ?_, buffered.trans (List.sublist_append_left _ _)⟩
          intro other same notFlushing
          obtain rfl := Option.some.inj same
          exact absurd own notFlushing
        · -- nobody will, so the tick joins those left before
          have missing : stack.contains (.flush callback) = false := by simpa using own
          simp only [missing, Bool.not_false, if_true]
          refine ⟨flushing, ?_, buffered.append (List.Sublist.refl _)⟩
          intro other same notFlushing
          change device.ticks.pending ++ [deadline] = _
          rw [left callback installed own]

theorem register (accounted : nest.Accounted stranded) (callback : CallbackId) :
    (nest.clientStep (.register callback)).Accounted stranded where
  flushing := by
    change nest.device.ticks.flushing + 1 = (_ :: nest.stack).countP Activity.isFlush
    rw [accounted.flushing, List.countP_cons_of_pos (by rfl)]
  left := by
    intro other same notFlushing
    obtain rfl := Option.some.inj same
    exact absurd List.mem_cons_self notFlushing
  buffered := accounted.buffered

theorem unregister (accounted : nest.Accounted stranded) :
    (nest.clientStep .unregister).Accounted stranded where
  flushing := accounted.flushing
  left := by
    intro callback contrary
    cases contrary
  buffered := accounted.buffered

theorem finish (accounted : nest.Accounted stranded) (client : nest.isAtClient = true) :
    (nest.clientStep .finish).Accounted stranded := by
  obtain ⟨device, stack⟩ := nest
  cases stack with
  | nil => exact accounted
  | cons activity rest =>
      cases activity with
      | client => exact accounted.restack rfl
      | flush callback => cases client
      | deliver callback deadlines => cases client

/-- A registration goes on: it hands over all that is buffered, or it is over. -/
theorem flush {device : Device} {callback : CallbackId} {rest : List Activity}
    (accounted : Accounted ⟨device, .flush callback :: rest⟩ stranded) :
    (deviceStep ⟨device, .flush callback :: rest⟩).Accounted
      (strandedNext ⟨device, .flush callback :: rest⟩ stranded .goOn) := by
  obtain ⟨flushing, left, buffered⟩ := accounted
  simp only [strandedNext, isAtClient, handsOver, deviceStep, Device.nextBatch,
    TickQueue.nextBatch, Bool.not_false, Bool.true_and]
  by_cases more : device.ticks.installed = some callback ∧ device.ticks.pending ≠ []
  · simp only [if_pos more, Option.isSome_some, if_true]
    refine ⟨by simpa [Activity.isFlush] using flushing, ?_, List.Sublist.refl _⟩
    intro other same notFlushing
    rfl
  · simp only [if_neg more, Option.isSome_none, Bool.false_eq_true, if_false]
    refine ⟨?_, ?_, buffered⟩
    · change device.ticks.flushing - 1 = rest.countP Activity.isFlush
      change device.ticks.flushing = (Activity.flush callback :: rest).countP _ at flushing
      rw [flushing, List.countP_cons_of_pos (by rfl), Nat.add_sub_cancel]
    · intro other same notFlushing
      change device.ticks.installed = some other at same
      change device.ticks.pending = stranded
      by_cases own : other = callback
      · -- the registration is over because nothing is left
        subst own
        have empty : device.ticks.pending = [] := by
          by_contra nonempty
          exact more ⟨same, nonempty⟩
        rw [empty] at buffered ⊢
        exact (List.sublist_nil.mp buffered).symm
      · -- another callback has taken over
        refine left other same fun there => ?_
        rcases List.mem_cons.mp there with same | later
        · exact own (Activity.flush.inj same)
        · exact notFlushing later

theorem goOn (accounted : nest.Accounted stranded) (device : nest.isAtClient = false) :
    nest.deviceStep.Accounted (nest.strandedNext stranded .goOn) := by
  obtain ⟨inner, stack⟩ := nest
  cases stack with
  | nil => cases device
  | cons activity rest =>
      cases activity with
      | client => cases device
      | flush callback => exact accounted.flush
      | deliver callback deadlines =>
          cases deadlines with
          | nil => exact accounted.restack rfl
          | cons deadline deadlines => exact accounted.restack rfl

end Accounted

theorem accounted_step {nest : Nest} {stranded : List HostTime}
    (accounted : nest.Accounted stranded) (move : Move) :
    (nest.step move).Accounted (nest.strandedNext stranded move) := by
  unfold step
  cases client : nest.isAtClient with
  | true =>
      rw [if_pos rfl]
      cases move with
      | tick deadline => exact accounted.tick client deadline
      | register callback => exact accounted.register callback
      | unregister => exact accounted.unregister
      | finish => exact accounted.finish client
      | goOn =>
          simp only [strandedNext, client]
          exact accounted
  | false =>
      rw [if_neg Bool.false_ne_true]
      cases move with
      | goOn => exact accounted.goOn client
      | tick deadline =>
          simp only [strandedNext, client]
          exact accounted
      | _ => exact accounted

theorem accounted_run {nest : Nest} {soFar : List HostTime} (accounted : nest.Accounted soFar)
    (moves : List Move) : (nest.run moves).Accounted (nest.stranded soFar moves) := by
  induction moves generalizing nest soFar with
  | nil => exact accounted
  | cons move rest ih => exact ih (accounted_step accounted move)

theorem accounted_of_opened {nest : Nest} (opened : nest.Opened) : nest.Accounted [] := by
  have ticks := ticks_of_opened opened
  refine ⟨?_, ?_, ?_⟩
  · rw [ticks, opened.stack]
    rfl
  · intro callback installed
    rw [ticks] at installed
    cases installed
  · rw [ticks]

/-- Once no registration is under way and a callback is installed, the buffer holds the stranded
ticks and nothing else. -/
theorem pending_run {nest : Nest} (opened : nest.Opened) (moves : List Move)
    {callback : CallbackId} (quiet : (nest.run moves).device.ticks.flushing = 0)
    (installed : (nest.run moves).device.ticks.installed = some callback) :
    (nest.run moves).device.ticks.pending = nest.stranded [] moves := by
  have accounted := accounted_run (accounted_of_opened opened) moves
  refine accounted.left callback installed fun underway => ?_
  have some : (nest.run moves).stack.any Activity.isFlush = true :=
    List.any_eq_true.mpr ⟨_, underway, rfl⟩
  exact (any_isFlush_iff accounted).mp some quiet

/-- The first callback registers a second one and then takes in a tick. -/
def takeoverRun : List Move :=
  [.tick ⟨1⟩, .register ⟨0⟩, .goOn, .goOn, .register ⟨1⟩, .goOn, .tick ⟨2⟩, .finish, .goOn, .goOn]

theorem pending_run_takeover :
    (onScript.run takeoverRun).device.ticks.flushing = 0
      ∧ (onScript.run takeoverRun).device.ticks.installed = some ⟨1⟩
      ∧ (onScript.run takeoverRun).device.ticks.pending = onScript.stranded [] takeoverRun :=
  ⟨rfl, rfl, pending_run opened_onScript takeoverRun rfl rfl⟩

/-- The tick is left in the buffer, and later ones go past it to the second callback. -/
theorem stranded_tick :
    (onScript.run takeoverRun).device.ticks.flushing = 0
      ∧ (onScript.run takeoverRun).device.ticks.pending = [⟨2⟩]
      ∧ ((onScript.run takeoverRun).device.arrive ⟨3⟩).1 = some ⟨1⟩ :=
  ⟨rfl, rfl, rfl⟩

end Scanout.Vsync.Nest
