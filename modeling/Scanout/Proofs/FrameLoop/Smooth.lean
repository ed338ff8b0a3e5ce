import Scanout.Proofs.FrameLoop.Ready

/-!
# The frame loop runs smoothly

On its own backend the loop takes no wrong turn. From a ready world each call of a frame succeeds
(`awaitTick_of_ready` and so on), so the frame goes without a hitch and leads to the next one
(`smooth_of_going`); then so do any number of frames (`smoothly_of_going`). What `Going` carries
from frame to frame says what the last one leaves behind (`finished_of_going`). The whole program,
from its arguments to what it prints, is `run_smooth`.

The frames are counted without a bound, while `frame * 8`, where the cursor goes, is taken in a
64-bit register. Only frame 2^61 leaves the register, long after the clock has come to its end.
-/

set_option autoImplicit false

namespace Scanout.FrameLoop

variable {stage : Stage} {cast : List Role} {frames : Nat} {retired : Fence} {world : World}

/-! ## One frame -/

theorem awaitTick_of_ready (ready : Ready stage cast frames retired world) :
    EndsIn (awaitTick world) fun _ after => Ready stage cast frames retired after := by
  have next := nextTick?_of_paced ready.paced
  have patient := Nat.not_le.mpr (patient_of_paced ready.paced)
  have arrives : awaitTick world = .ok (world.device.timer.nextDeadline, { world with
      device := { world.device with
        timer := world.device.timer.delivered world.device.timer.nextDeadline }
      now := world.device.timer.nextDeadline
      tracer := world.tracer.report
        (Device.tickEvent FrameLoop.display world.device.timer.nextDeadline false) }) := by
    simp only [awaitTick, next, if_neg patient, Device.arrive, Vsync.TickQueue.arrive, ready.ticks,
      if_true]
  exact ⟨_, _, arrives, ready.stage, ready.display, ready.owners, ready.numbers, ready.ticks,
    paced_delivered ready.paced⟩

/-- The background gets another buffer with every thirtieth frame, or stays as it is. -/
theorem redraw_of_ready {background video : Option BufferHandle}
    (ready : Ready stage (castOf background video) frames retired world)
    (stale : world.device.display.validated = none) (frame : UInt64) :
    ∃ shown, EndsIn (if frame % 30 = 0 then
        edit ⟨1⟩ (.buffer (some (backgroundBuffer frame)) .noop) world
      else .ok (.done, world)) fun _ after =>
        Ready stage (castOf shown video) frames retired after
          ∧ after.device.display.validated = none := by
  split
  · have first : (⟨1⟩ : LayerId) ∈ (castOf background video).map (·.id) := List.mem_cons_self
    obtain ⟨result, layer, after, edited, recasted, validated⟩ := edit_of_ready ready first
      (.buffer (some (backgroundBuffer frame)) .noop) rfl fun _ => ⟨_, rfl⟩
    exact ⟨some (backgroundBuffer frame), result, after, edited, recasted,
      validated.trans (if_pos rfl)⟩
  · exact ⟨background, .done, world, rfl, ready, stale⟩

theorem validate_of_ready (ready : Ready stage cast frames retired world)
    (plain : stage.script.Plain) (grants : ∀ role ∈ cast, stage.script.Grants role)
    (stale : world.device.display.validated = none) :
    ∃ frame after, ask .validate world = .ok (.summary ⟨.noChanges, 0, 0⟩, after)
      ∧ Ready { stage with script := stage.script.preparing frame } cast frames retired after
      ∧ after.device.display.Cleared := by
  obtain ⟨frame, after, notices, told, features, cleared⟩ :=
    Display.run_validate_of_grants ready.display plain stale grants
  obtain ⟨events, asked⟩ := ask_of_told ready told rfl
  exact ⟨frame, _, asked, ready.shows features rfl _ events notices, cleared⟩

theorem target_of_ready (ready : Ready stage cast frames retired world)
    (cleared : world.device.display.Cleared) (buffer : BufferHandle) :
    ∃ after, call (.clientTarget (some buffer) .noop .unknown []) world = .ok (.done, after)
      ∧ Ready stage cast frames retired after ∧ after.device.display.Cleared
      ∧ after.device.display.clientTarget.buffer.isSome := by
  have targeted := ready.shows (ready.display.targeted (some buffer) .noop .unknown []) rfl stage
    (Device.callEvents FrameLoop.display (.clientTarget (some buffer) .noop .unknown [])) []
  refine ⟨_, ?_, targeted, ⟨cleared.state, cleared.clean⟩, rfl⟩
  simp only [call, Device.call, ready.found, Display.call, take, World.shows, ready.stage.symm]

/-- A plain script presents what is cleared, and once its signals are given no fence is pending. -/
theorem present_of_ready (ready : Ready stage cast frames retired world)
    (plain : stage.script.Plain) (quiet : stage.Quiet) (cleared : world.device.display.Cleared)
    (target : world.device.display.clientTarget.buffer.isSome) :
    ∃ frame fence set after, ask .present world = .ok (.fence fence, after)
      ∧ Ready set cast (frames + 1) fence after ∧ after.device.display.Cleared
      ∧ (∃ signals, set.script = { stage.script.committing frame with signals := signals })
      ∧ (set.completeAll .signaled).2.Quiet
      ∧ (set.completeAll .signaled).2.fences.status fence = .signaled := by
  have answers : ∀ frame, ∃ fences next, Backend.scripted.commit frame stage = (.ok fences, next)
      ∧ fences.release.length = frame.slots.length := by
    intro frame
    obtain ⟨fences, next, answer, complete, -⟩ := Stage.commit_of_plain plain frame
    exact ⟨fences, next, answer, complete⟩
  obtain ⟨frame, fences, set, after, answer, told, features, presented⟩ :=
    Display.run_present_of_cleared ready.display cleared target answers
  obtain ⟨events, asked⟩ := ask_of_told ready told rfl
  obtain ⟨fences', set', answer', -, retire, hands, noted⟩ := Stage.commit_of_plain plain frame
  cases answer.symm.trans answer'
  have quieted := Stage.quiet_completed quiet plain hands
  refine ⟨frame, fences.retire, set, _, asked, ready.shows features rfl set events [], presented,
    noted, quieted, ?_⟩
  rw [retire]
  apply quieted.signaled
  rw [Stage.completeAll, FenceTable.size_foldl_finish, hands.size]
  omega

theorem move_of_ready (ready : Ready stage cast frames retired world)
    (cleared : world.device.display.Cleared) {role : Role} (member : role ∈ cast)
    (asked : role.pending = .cursor) (x y : Float) :
    ∃ after, edit role.id (.cursor x y) world = .ok (.done, after)
      ∧ Ready stage cast frames retired after ∧ after.device.display.Cleared := by
  obtain ⟨after, told, features, moved⟩ :=
    Display.call_cursor_of_cleared ready.display cleared member asked x y
  obtain ⟨events, edited⟩ := edit_of_told ready (List.mem_map_of_mem member) told
  exact ⟨_, edited, ready.shows features rfl stage events [], moved⟩

/-- A frame without a hitch: the tick comes in time, validating asks the backend and reports no
change, presenting commits the frame, and the cursor moves after it. -/
inductive Smooth (layers : Layers) (frame : UInt64) (before after : World) : Prop where
  | intro {tick : HostTime} {waited filled drawn validated targeted presented : World}
      {previous redrawn : CallResult} {fence : Fence}
      (arrived : awaitTick before = .ok (tick, waited))
      (video : edit layers.video (.buffer (some (videoBuffer frame)) .noop) waited
        = .ok (previous, filled))
      (background : (if frame % 30 = 0 then
          edit layers.background (.buffer (some (backgroundBuffer frame)) .noop) filled
        else .ok (.done, filled)) = .ok (redrawn, drawn))
      (validates : ask .validate drawn = .ok (.summary ⟨.noChanges, 0, 0⟩, validated))
      (prepares : validated.stage.script.prepareCount = drawn.stage.script.prepareCount + 1)
      (target : call (.clientTarget (some (targetBuffer frame)) .noop .unknown []) validated
        = .ok (.done, targeted))
      (presents : ask .present targeted = .ok (.fence fence, presented))
      (commits : presented.stage.script.commitCount = targeted.stage.script.commitCount + 1)
      (moves : edit layers.cursor
          (.cursor (frame * 8).toFloat ((frame * 8).toFloat / 2.0))
          { presented with stage := (presented.stage.completeAll .signaled).2 }
        = .ok (.done, after))

theorem presentFrame_of_smooth {layers : Layers} {frame : UInt64} {before after : World}
    (smooth : Smooth layers frame before after) :
    ∃ tick waited, awaitTick before = .ok (tick, waited)
      ∧ presentFrame layers frame waited = .ok ((), after) := by
  obtain ⟨arrived, video, background, validates, -, target, presents, -, moves⟩ := smooth
  refine ⟨_, _, arrived, ?_⟩
  by_cases thirtieth : frame % 30 = 0
  · rw [if_pos thirtieth] at background
    simp only [presentFrame, video, if_pos thirtieth, background, validates, settle, target,
      presents, moveCursor, moves, bind, Except.bind, reduceCtorEq, if_false]
  · rw [if_neg thirtieth] at background
    cases background
    simp only [presentFrame, video, if_neg thirtieth, validates, settle, target, presents,
      moveCursor, moves, bind, Except.bind, reduceCtorEq, if_false]

/-- Frames without a hitch, one after the other. -/
def Smoothly (layers : Layers) : Nat → UInt64 → World → World → Prop
  | 0, _, before, after => after = before
  | count + 1, frame, before, after =>
    ∃ between, Smooth layers frame before between
      ∧ Smoothly layers count (frame + 1) between after

theorem presentFrames_of_smoothly {layers : Layers} {count : Nat} {frame : UInt64}
    {before after : World} (smoothly : Smoothly layers count frame before after) :
    presentFrames layers count frame before = .ok ((), after) := by
  induction count generalizing frame before with
  | zero =>
      obtain rfl := smoothly
      rfl
  | succ count ih =>
      obtain ⟨between, smooth, rest⟩ := smoothly
      obtain ⟨tick, waited, arrived, shown⟩ := presentFrame_of_smooth smooth
      simp only [presentFrames, arrived, shown, ih rest, bind, Except.bind]

/-! ## All frames -/

/-- The world before the first frame or right after one, when this many have been shown. -/
structure Going (width height : UInt32) (count : Nat) (world : World) : Prop where
  ready : ∃ background video,
    Ready world.stage (castOf background video) count world.device.display.retireFence world
  noted : Noted width height count count world.stage.script
  quiet : world.stage.Quiet
  retired : world.stage.fences.status world.device.display.retireFence = .signaled
  cleared : 0 < count → world.device.display.Cleared

variable {width height : UInt32} {count : Nat}

/-- From any such world the next frame goes without a hitch, and leads to another one. -/
theorem smooth_of_going (going : Going width height count world) (frame : UInt64) :
    ∃ after, Smooth layersOf frame world after ∧ Going width height (count + 1) after := by
  obtain ⟨background, video, ready⟩ := going.ready
  have plain := going.noted.plain
  obtain ⟨tick, waited, arrived, ready⟩ := awaitTick_of_ready ready
  -- the new buffer outdates the last validation, so that validating asks the backend again
  have second : (⟨2⟩ : LayerId) ∈ (castOf background video).map (·.id) :=
    List.mem_cons_of_mem _ List.mem_cons_self
  obtain ⟨previous, layer, filled, fills, ready, validated⟩ := edit_of_ready ready second
    (.buffer (some (videoBuffer frame)) .noop) rfl fun _ => ⟨_, rfl⟩
  have stale : filled.device.display.validated = none := validated.trans (if_pos rfl)
  obtain ⟨shown, redrawn, drawn, draws, ready, stale⟩ := redraw_of_ready ready stale frame
  obtain ⟨prepared, validated, validates, readyValidated, cleared⟩ := validate_of_ready ready plain
    (going.noted.grants shown (some (videoBuffer frame))) stale
  obtain ⟨targeted, targets, readyTargeted, cleared, target⟩ :=
    target_of_ready readyValidated cleared (targetBuffer frame)
  have quiet : Stage.Quiet { world.stage with script := world.stage.script.preparing prepared } :=
    ⟨going.quiet.signals, going.quiet.signaled⟩
  obtain ⟨committed, fence, set, presented, presents, readyPresented, cleared, ⟨signals, kept⟩,
    quiet, retired⟩ :=
      present_of_ready readyTargeted (plain.preparing prepared) quiet cleared target
  have third : cursorRole ∈ castOf shown (some (videoBuffer frame)) := by simp [castOf]
  obtain ⟨after, moves, moved, cleared⟩ := move_of_ready readyPresented.completed cleared third rfl
    (frame * 8).toFloat ((frame * 8).toFloat / 2.0)
  -- signaling changes the script in nothing but the signals, of which there are none between frames
  have noted := (going.noted.preparing prepared).committing committed
  have script : after.stage.script
      = (world.stage.script.preparing prepared).committing committed := by
    rw [moved.stage, Stage.completeAll, kept]
    exact noted.unsignaled
  refine ⟨after, .intro arrived fills draws validates ?_ targets presents ?_ moves, ?_⟩
  · rw [readyValidated.stage, ready.stage]
    rfl
  · rw [readyPresented.stage, readyTargeted.stage, kept]
    rfl
  · refine ⟨⟨shown, some (videoBuffer frame), ?_⟩, script ▸ noted, ?_, ?_, fun _ => cleared⟩
    · rw [moved.display.retired, moved.stage]
      exact moved
    · rw [moved.stage]
      exact quiet
    · rw [moved.display.retired, moved.stage]
      exact retired

theorem smoothly_of_going (going : Going width height count world) (more : Nat) (frame : UInt64) :
    ∃ last, Smoothly layersOf more frame world last
      ∧ Going width height (count + more) last := by
  induction more generalizing count frame world with
  | zero => exact ⟨world, rfl, going⟩
  | succ more ih =>
      obtain ⟨between, smooth, goes⟩ := smooth_of_going going frame
      obtain ⟨last, smoothly, ends⟩ := ih goes (frame + 1)
      refine ⟨last, ⟨between, smooth, smoothly⟩, ?_⟩
      rwa [Nat.add_assoc, Nat.add_comm 1 more] at ends

/-- What the loop leaves behind after this many frames. -/
structure Finished (count : Nat) (layers : Layers) (world : World) : Prop where
  presented : world.device.display.framesPresented = count
  prepared : world.stage.script.prepareCount = count
  committed : world.stage.script.commitCount = count
  /-- Back to front, there are these layers and no others. -/
  stack : world.device.display.layersInOrder = [layers.background, layers.video, layers.cursor]
    ∧ world.device.display.layers.length = 3
  shown : 0 < count → world.device.display.state = .validatedNoChanges
    ∧ world.device.display.dirtyLayers = 0
    ∧ (∀ layer ∈ world.device.display.layers, layer.isDirty = false)
    ∧ world.device.display.committed? layers.background = some .client
    ∧ world.device.display.committed? layers.video = some .device
    ∧ world.device.display.committed? layers.cursor = some .cursor
  /-- No signal is held back, no fence is pending, and shutting down has nothing to complain of. -/
  fences : world.stage.script.signals = []
    ∧ (∀ primitive, primitive < world.stage.fences.size →
      world.stage.fences.statusOf primitive = .signaled)
    ∧ (world.device.shutdown world.stage.fences).2 = []

theorem finished_of_going (going : Going width height count world) :
    Finished count layersOf world := by
  obtain ⟨background, video, ready⟩ := going.ready
  obtain ⟨prepared, committed, noted⟩ := going.noted
  have features := ready.display
  refine ⟨features.frames, by rw [noted], by rw [noted], ⟨?_, ?_⟩, fun shown => ?_, ?_⟩
  · have sorted : StackOrder.Sorted [⟨0, ⟨1⟩⟩, ⟨1, ⟨2⟩⟩, ⟨2, ⟨3⟩⟩] := by
      unfold StackOrder.Sorted
      decide
    refine Display.layersInOrder_of_cast features.stacked _ sorted ?_
    rw [features.cast]
    exact List.Perm.refl _
  · have length := congrArg List.length features.cast
    rwa [Display.cast, List.length_map] at length
  · have cleared := going.cleared shown
    have committed {role : Role} (member : role ∈ castOf background video) :=
      Display.committed?_of_clean features cleared.clean member
    refine ⟨cleared.state, cleared.clean, ?_, committed List.mem_cons_self,
      committed (List.mem_cons_of_mem _ List.mem_cons_self),
      committed (List.mem_cons_of_mem _ (List.mem_cons_of_mem _ List.mem_cons_self))⟩
    intro layer there
    have none := features.counted.symm.trans cleared.clean
    exact Bool.eq_false_iff.mpr (List.countP_eq_zero.mp none layer there)
  · refine ⟨going.quiet.signals, going.quiet.signaled, ?_⟩
    have waited : world.stage.fences.waitTimeout world.device.display.retireFence = .ok () := by
      simp only [FenceTable.waitTimeout, FenceTable.wait?, going.retired]
      rfl
    simp only [Device.shutdown, waited]

/-! ## From the command line to the report -/

/-- The one configuration of the loop's backend is active, and has a period that the loop can
wait for. -/
theorem active_standard (settings : Settings) (width height : UInt32) :
    (Device.firstDisplay settings display [.standard width height]).activeConfig?.isSome
      ∧ (Device.pace settings
          (Device.firstDisplay settings display [.standard width height])).nanos
        < patience.nanos := by
  obtain ⟨config, head, alike, -⟩ := DisplayConfig.head?_coalesce (.standard width height) []
  obtain ⟨first, same, active⟩ := Display.activeConfig?_create display settings.displayName
    settings.clientTarget.requireForClientLayers
    (List.ne_nil_of_mem (List.mem_of_mem_head? head))
  cases same.symm.trans head
  have paced : Device.pace settings (Device.firstDisplay settings display [.standard width height])
      = ⟨16666666⟩ := by
    simp only [Device.pace, active, alike]
    rfl
  rw [active, paced]
  refine ⟨rfl, ?_⟩
  change 16666666 < 1000 * 1000000
  norm_num

theorem setUp_of_accepted {settings : Settings} (accepted : settings.Accepted)
    (options : Options) (now : HostTime) :
    ∃ opened, setUp options settings now = .ok opened
      ∧ Ready (FrameLoop.stage options.width options.height) [] 0 .noop opened := by
  have checked : { settings with
      vsync := { settings.vsync with startEnabled := true } : Settings }.Accepted :=
    .inl (if_neg (Settings.checked_eq_ok (Settings.checked_of_accepted accepted)).2)
  have answer : Backend.scripted.displayConfigs (FrameLoop.stage options.width options.height)
      = (.ok [.standard options.width options.height],
        FrameLoop.stage options.width options.height) := rfl
  have opens := Device.openOn_of_ne_nil { settings with
    vsync := { settings.vsync with startEnabled := true } } display now answer
    (List.cons_ne_nil _ _)
  obtain ⟨active, patient⟩ := active_standard { settings with
    vsync := { settings.vsync with startEnabled := true } } options.width options.height
  rw [Device.start_of_accepted checked] at opens
  simp only [setUp, opens]
  refine ⟨_, rfl, rfl, ?_, rfl, rfl, rfl, rfl, rfl, patient, ?_⟩
  · exact ⟨Display.stacked_of_empty rfl rfl, rfl, active, rfl, rfl, rfl, rfl⟩
  · dsimp only [withCallbacks, Device.install, Device.nextBatch]

/-- **With accepted settings the frame loop never takes a wrong turn, whatever its size and however
many frames it is to show.** It opens its device and builds its stack; then every frame is smooth,
the last one leaves everything `Finished`, and the program ends without an error. -/
theorem run_smooth {settings : Settings} (accepted : settings.Accepted) (options : Options)
    (now : HostTime) :
    ∃ opened layers built last,
      setUp options settings now = .ok opened
      ∧ buildLayers options.width options.height opened = .ok (layers, built)
      ∧ Smoothly layers options.frames.toNat 0 built last
      ∧ Finished options.frames.toNat layers last
      ∧ loop options settings now = .ok last
      ∧ ∀ arguments find, Request.ofArguments arguments = .ok (.run options) →
        Settings.load (find options.config) = .ok settings →
        run arguments find now = {
          status := 0
          output := last.device.report ++ "\n"
          diagnostics := last.tracer.text } := by
  obtain ⟨opened, opens, ready⟩ := setUp_of_accepted accepted options now
  obtain ⟨layers, built, builds, rfl, ready⟩ :=
    buildLayers_of_ready ready options.width options.height
  have going : Going options.width options.height 0 built := by
    refine ⟨⟨none, none, ?_⟩, ⟨none, none, ?_⟩, ⟨?_, ?_⟩, ?_, fun shown => absurd shown nofun⟩
    · rw [ready.stage, ready.display.retired]
      exact ready
    · rw [ready.stage]
      rfl
    · rw [ready.stage]
      rfl
    · rw [ready.stage]
      exact fun _ issued => absurd issued (Nat.not_lt_zero _)
    · rw [ready.display.retired]
      rfl
  obtain ⟨last, smoothly, ends⟩ := smoothly_of_going going options.frames.toNat 0
  rw [Nat.zero_add] at ends
  have loops : loop options settings now = .ok last := by
    simp only [loop, opens, builds, presentFrames_of_smoothly smoothly, bind, Except.bind]
  refine ⟨opened, layersOf, built, last, opens, builds, smoothly, finished_of_going ends, loops, ?_⟩
  intro arguments find asked loaded
  simp only [run, asked, loaded, loops]

theorem run_smooth_flat :
    Settings.Accepted {}
      ∧ Request.ofArguments ["--frames", "61", "--height=0"]
        = .ok (.run { frames := 61, height := 0 })
      ∧ ∃ layers last, Finished 61 layers last
        ∧ run ["--frames", "61", "--height=0"] (fun _ => .missing) ⟨7⟩ = {
          status := 0
          output := last.device.report ++ "\n"
          diagnostics := last.tracer.text } := by
  have accepted : Settings.Accepted {} := .inl rfl
  have asked : Request.ofArguments ["--frames", "61", "--height=0"]
      = .ok (.run { frames := 61, height := 0 }) := by decide +kernel
  obtain ⟨opened, layers, built, last, -, -, -, finished, -, runs⟩ :=
    run_smooth accepted { frames := 61, height := 0 } ⟨7⟩
  exact ⟨accepted, asked, layers, last, finished, runs _ _ asked rfl⟩

end Scanout.FrameLoop
