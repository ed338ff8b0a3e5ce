import Scanout.FrameLoop.Run
import Scanout.Proofs.Display.Cast
import Scanout.Proofs.Vsync.Grid

/-!
# The frame loop between two calls

Between two calls the loop's world is *ready* (`Ready`): its display features a cast, its layers
have the numbers in order, and its next tick comes one period from now. A call that changes the
display and the backend at most keeps the world ready (`Ready.shows`), and so do a new layer
(`create_of_ready`) and an edit (`edit_of_ready`). Building the stack is twelve of these
(`buildLayers_of_ready`): it ends with a background for the client, a video plane and a cursor.

The loop's script forces one buffer onto a cursor plane and is plain otherwise, so that it grants
the three of them what they ask for, whatever the background and the video show (`Noted.grants`).
-/

set_option autoImplicit false

namespace Scanout

namespace FrameLoop

open Vsync (Timer catchUp_of_le)

/-! ## Ticks -/

/-- The timer runs and has its next tick one period from now, which the loop waits for. -/
structure Paced (now : HostTime) (timer : Timer) : Prop where
  started : timer.started = true
  enabled : timer.enabled = true
  patient : timer.period.nanos < patience.nanos
  next : timer.nextDeadline = now.add timer.period

variable {now : HostTime} {timer : Timer}

theorem nextTick?_of_paced (paced : Paced now timer) :
    timer.nextTick? now = some (timer.nextDeadline, timer.delivered timer.nextDeadline) := by
  have ahead : now.nanos ≤ timer.nextDeadline.nanos := by
    have inside := now.nanos.toNat_lt_size
    rw [paced.next, UInt64.le_iff_toNat_le, HostTime.toNat_add]
    omega
  have due := catchUp_of_le timer.period ahead
  have current : (!timer.started || timer.generation != timer.generation) = false := by
    simp [paced.started]
  have running : (!timer.enabled) = false := by simp [paced.enabled]
  have wakes : timer.wake timer.generation timer.nextDeadline
      = .deliver timer.nextDeadline (timer.delivered timer.nextDeadline) := by
    simp only [Timer.wake, current, running, Bool.false_eq_true, if_false]
  simp only [Timer.nextTick?, Timer.pass, current, running, due, Bool.false_eq_true, if_false]
  by_cases early : now.nanos < timer.nextDeadline.nanos
  · simp only [if_pos early, wakes]
  · simp only [if_neg early]

theorem patient_of_paced (paced : Paced now timer) :
    (timer.nextDeadline.since now).nanos < patience.nanos := by
  have patient := paced.patient
  have next := HostTime.toNat_add now timer.period
  rw [← paced.next] at next
  simp only [HostTime.since]
  omega

theorem paced_delivered (paced : Paced now timer) :
    Paced timer.nextDeadline (timer.delivered timer.nextDeadline) :=
  ⟨paced.started, paced.enabled, paced.patient, rfl⟩

/-! ## Calls -/

/-- The world after a call that has changed the display and its backend at most. -/
def World.shows (world : World) (display : Display) (stage : Stage) (events : List TraceEvent)
    (notices : List Notice) : World :=
  { world with
    device := { world.device with display := display }
    stage := stage
    tracer := events.foldl Tracer.report world.tracer
    notices := world.notices ++ notices }

/-- The world between two calls: the display features this cast, and the next tick will come. -/
structure Ready (stage : Stage) (cast : List Role) (frames : Nat) (retired : Fence)
    (world : World) : Prop where
  stage : world.stage = stage
  display : world.device.display.Features display cast frames retired
  owners : world.device.owners = cast.map fun role => (role.id, FrameLoop.display)
  numbers : world.device.layerNumbers = ⟨UInt64.ofNat (cast.length + 1)⟩
  ticks : world.device.ticks = { installed := some tickCallback }
  paced : Paced world.now world.device.timer

variable {stage : Stage} {cast next : List Role} {frames shown : Nat} {retired fence : Fence}
  {world : World}

namespace Ready

theorem shows (ready : Ready stage cast frames retired world) {after : Display}
    (features : after.Features FrameLoop.display next shown fence)
    (ids : next.map (·.id) = cast.map (·.id)) (set : Stage) (events : List TraceEvent)
    (notices : List Notice) :
    Ready set next shown fence (world.shows after set events notices) where
  stage := rfl
  display := features
  owners := by
    have owners := congrArg (List.map fun id => (id, FrameLoop.display)) ids
    rw [List.map_map, List.map_map] at owners
    exact ready.owners.trans owners.symm
  numbers := by
    have length : next.length = cast.length := by simpa using congrArg List.length ids
    rw [length]
    exact ready.numbers
  ticks := ready.ticks
  paced := ready.paced

/-- The backend's signals are given. -/
theorem completed (ready : Ready stage cast frames retired world) :
    Ready (stage.completeAll .signaled).2 cast frames retired
      { world with stage := (world.stage.completeAll .signaled).2 } where
  stage := by rw [ready.stage]
  display := ready.display
  owners := ready.owners
  numbers := ready.numbers
  ticks := ready.ticks
  paced := ready.paced

theorem found (ready : Ready stage cast frames retired world) :
    world.device.find FrameLoop.display = .ok world.device.display :=
  if_pos ready.display.id

theorem lookup_owners (ready : Ready stage cast frames retired world) {number : LayerId}
    (member : number ∈ cast.map (·.id)) :
    world.device.owners.lookup number = some FrameLoop.display := by
  have distinct := ready.display.stacked.distinct
  rw [Display.ids_of_cast, ready.display.cast] at distinct
  obtain ⟨role, among, rfl⟩ := List.mem_map.mp member
  rw [ready.owners]
  refine lookup_of_mem ?_ (List.mem_map_of_mem among)
  rwa [List.map_map]

theorem resolveEdit (ready : Ready stage cast frames retired world) {number : LayerId}
    (member : number ∈ cast.map (·.id)) (change : LayerEdit) :
    world.device.resolveEdit FrameLoop.display number change = .ok world.device.display := by
  have owned := ready.lookup_owners member
  unfold Device.resolveEdit
  split
  · simp only [Device.resolveLayer, ready.found, owned, if_true]
  · exact ready.found

end Ready

theorem take_ok {α : Type} {reply : Reply α} {value : α} (ok : reply.result = .ok value) :
    take world reply = .ok (value, { world with
      device := reply.device
      tracer := reply.events.foldl Tracer.report world.tracer
      notices := world.notices ++ reply.notices }) := by
  simp only [take, ok]

theorem edit_of_told (ready : Ready stage cast frames retired world) {number : LayerId}
    (member : number ∈ cast.map (·.id)) {change : LayerEdit} {result : CallResult}
    {after : Display}
    (told : world.device.display.call (.edit number change) = (.ok result, after)) :
    ∃ events, edit number change world = .ok (result, world.shows after stage events []) := by
  have resolved := ready.resolveEdit member change
  cases edited : world.device.display.edit number change with
  | mk answer display =>
      simp only [Display.call, edited] at told
      cases answer with
      | error cause => cases told
      | ok value =>
          cases told
          refine ⟨Device.editEvents FrameLoop.display number change, ?_⟩
          simp only [FrameLoop.edit, FrameLoop.call, Device.call, Device.editLayer, resolved,
            edited, take, World.shows, ready.stage.symm]

theorem ask_of_told (ready : Ready stage cast frames retired world) {request : BackendCall}
    {result : CallResult} {after : Display} {notices : List Notice} {set : Stage}
    (told : world.device.display.run .scripted request stage
      = (⟨.ok result, after, notices⟩, set))
    (keeps : Device.timerAfter world.device.timer after request = world.device.timer) :
    ∃ events, ask request world = .ok (result, world.shows after set events notices) := by
  have reached : (world.device.find FrameLoop.display).isOk = true := by
    rw [ready.found]
    rfl
  refine ⟨Device.backendEvents FrameLoop.display after result, ?_⟩
  simp only [ask, Device.run_eq reached, ready.stage, told, Device.conclude, keeps, take]
  rfl

/-! ## Building the stack -/

/-- A step of the loop succeeds, with a value and in a world of which this holds. -/
def EndsIn {α : Type} (outcome : Except Failure (α × World)) (holds : α → World → Prop) : Prop :=
  ∃ value after, outcome = .ok (value, after) ∧ holds value after

theorem EndsIn.bind {α β : Type} {outcome : Except Failure (α × World)}
    {holds : α → World → Prop} {rest : α × World → Except Failure (β × World)}
    {ends : β → World → Prop} (first : EndsIn outcome holds)
    (later : ∀ value after, holds value after → EndsIn (rest (value, after)) ends) :
    EndsIn (outcome >>= rest) ends := by
  obtain ⟨value, after, rfl, held⟩ := first
  exact later value after held

/-- The next layer gets the next number. -/
theorem create_of_ready (ready : Ready stage cast frames retired world) (number : UInt64)
    (due : UInt64.ofNat (cast.length + 1) = number) (room : cast.length + 2 < UInt64.size)
    (fresh : ∀ role ∈ cast, role.id.number.toNat ≤ cast.length) :
    EndsIn (create world) fun id after =>
      id = ⟨number⟩ ∧ Ready stage (cast ++ [{ id := ⟨number⟩ }]) frames retired after := by
  subst due
  have number : (UInt64.ofNat (cast.length + 1)).toNat = cast.length + 1 :=
    UInt64.toNat_ofNat_of_lt' (by omega)
  have allocated : world.device.layerNumbers.allocate?
      = some (UInt64.ofNat (cast.length + 1), ⟨UInt64.ofNat (cast.length + 2)⟩) := by
    rw [ready.numbers, Numbering.allocate?, number, if_pos room]
    have next : UInt64.ofNat (cast.length + 1) + 1 = UInt64.ofNat (cast.length + 2) :=
      (UInt64.ofNat_add (cast.length + 1) 1).symm
    simp only [next]
  have created : world.device.createLayer FrameLoop.display = {
      result := .ok ⟨UInt64.ofNat (cast.length + 1)⟩
      device := { world.device with
        display := world.device.display.addLayer ⟨UInt64.ofNat (cast.length + 1)⟩
        owners := world.device.owners
          ++ [(⟨UInt64.ofNat (cast.length + 1)⟩, FrameLoop.display)]
        layerNumbers := ⟨UInt64.ofNat (cast.length + 2)⟩ }
      events := [Device.layerEvent FrameLoop.display ⟨UInt64.ofNat (cast.length + 1)⟩
        .created] } := by
    simp only [Device.createLayer, ready.found, allocated]
  refine ⟨_, _, take_ok (congrArg Reply.result created), rfl, ?_⟩
  rw [created]
  constructor
  case stage => exact ready.stage
  case display =>
    refine ready.display.added fun role member => ?_
    rw [number]
    exact Nat.lt_succ_of_le (fresh role member)
  case owners => simp [ready.owners]
  case numbers => rw [List.length_append, List.length_singleton]
  case ticks => exact ready.ticks
  case paced => exact ready.paced

/-- An edit that is not refused gives one layer another role. -/
theorem edit_of_ready (ready : Ready stage cast frames retired world) {number : LayerId}
    (member : number ∈ cast.map (·.id)) (change : LayerEdit)
    (own : (Alteration.edit change).setsCursor = false)
    (granted : ∀ layer, ∃ result, (Alteration.edit change).answer layer = .ok result) :
    ∃ result layer after, edit number change world = .ok (result, after)
      ∧ Ready stage (change.recastIn number cast) frames retired after
      ∧ after.device.display.validated
        = if change.isEffectiveOn layer then none else world.device.display.validated := by
  obtain ⟨layer, after, told, features, validated⟩ := ready.display.edited member own
  obtain ⟨result, answer⟩ := granted layer
  rw [answer] at told
  obtain ⟨events, edited⟩ := edit_of_told ready member told
  exact ⟨result, layer, _, edited, ready.shows features (change.ids_recastIn number cast) _ _ _,
    validated⟩

def backgroundRole (buffer : Option BufferHandle) : Role :=
  { id := ⟨1⟩, pending := .client, buffer := buffer }

def videoRole (buffer : Option BufferHandle) : Role :=
  { id := ⟨2⟩, z := 1, pending := .device, buffer := buffer }

def cursorRole : Role := { id := ⟨3⟩, z := 2, pending := .cursor, buffer := some cursorBuffer }

/-- The cast of the loop, with the buffers that the background and the video show. -/
def castOf (background video : Option BufferHandle) : List Role :=
  [backgroundRole background, videoRole video, cursorRole]

def layersOf : Layers := ⟨⟨1⟩, ⟨2⟩, ⟨3⟩⟩

theorem edit_toward (ready : Ready stage cast frames retired world) (next : List Role)
    {number : LayerId} (member : number ∈ cast.map (·.id)) {change : LayerEdit}
    (own : (Alteration.edit change).setsCursor = false)
    (granted : ∀ layer, ∃ result, (Alteration.edit change).answer layer = .ok result)
    (recast : change.recastIn number cast = next) :
    EndsIn (edit number change world) fun _ after => Ready stage next frames retired after := by
  obtain ⟨result, -, after, edited, recasted, -⟩ := edit_of_ready ready member change own granted
  exact ⟨result, after, edited, recast ▸ recasted⟩

theorem buildLayers_of_ready (ready : Ready stage [] frames retired world)
    (width height : UInt32) :
    EndsIn (buildLayers width height world) fun layers after =>
      layers = layersOf ∧ Ready stage (castOf none none) frames retired after := by
  refine EndsIn.bind (create_of_ready ready 1 rfl (by decide) (by decide)) ?_
  rintro _ _ ⟨rfl, ready⟩
  refine EndsIn.bind (edit_toward ready [backgroundRole none] (by decide) rfl
    (fun _ => ⟨_, rfl⟩) rfl) fun _ _ ready => ?_
  refine EndsIn.bind (create_of_ready ready 2 rfl (by decide) (by decide)) ?_
  rintro _ _ ⟨rfl, ready⟩
  refine EndsIn.bind (edit_toward ready [backgroundRole none, { id := ⟨2⟩, pending := .device }]
    (by decide) rfl (fun _ => ⟨_, rfl⟩) rfl) fun _ _ ready => ?_
  refine EndsIn.bind (edit_toward ready [backgroundRole none, videoRole none] (by decide) rfl
    (fun _ => ⟨_, rfl⟩) rfl) fun _ _ ready => ?_
  refine EndsIn.bind (create_of_ready ready 3 rfl (by decide) (by decide)) ?_
  rintro _ _ ⟨rfl, ready⟩
  refine EndsIn.bind (edit_toward ready
    [backgroundRole none, videoRole none, { id := ⟨3⟩, pending := .cursor }] (by decide) rfl
    (fun _ => ⟨_, rfl⟩) rfl) fun _ _ ready => ?_
  refine EndsIn.bind (edit_toward ready
    [backgroundRole none, videoRole none, { id := ⟨3⟩, z := 2, pending := .cursor }]
    (by decide) rfl (fun _ => ⟨_, rfl⟩) rfl) fun _ _ ready => ?_
  refine EndsIn.bind (edit_toward ready (castOf none none) (by decide) rfl
    (fun _ => ⟨_, rfl⟩) rfl) fun _ _ ready => ?_
  -- the geometry of a layer is no matter of its role
  refine EndsIn.bind (edit_toward ready (castOf none none) (by decide) rfl
    (fun _ => ⟨_, rfl⟩) rfl) fun _ _ ready => ?_
  refine EndsIn.bind (edit_toward ready (castOf none none) (by decide) rfl
    (fun _ => ⟨_, rfl⟩) rfl) fun _ _ ready => ?_
  refine EndsIn.bind (edit_toward ready (castOf none none) (by decide) rfl
    (fun _ => ⟨_, rfl⟩) rfl) fun _ _ ready => ?_
  exact ⟨_, _, rfl, rfl, ready⟩

/-! ## The script of the loop -/

/-- The loop's script once it has prepared and committed this many frames. -/
def Noted (width height : UInt32) (prepares commits : Nat) (script : Script) : Prop :=
  ∃ prepared committed, script = { (FrameLoop.stage width height).script with
    prepareCount := prepares
    lastPrepared := prepared
    commitCount := commits
    lastCommitted := committed }

namespace Noted

variable {width height : UInt32} {prepares commits : Nat} {script : Script}

theorem plain (noted : Noted width height prepares commits script) : script.Plain := by
  obtain ⟨prepared, committed, rfl⟩ := noted
  exact ⟨rfl, rfl, rfl, rfl, rfl, rfl⟩

theorem preparing (noted : Noted width height prepares commits script) (frame : Frame) :
    Noted width height (prepares + 1) commits (script.preparing frame) := by
  obtain ⟨prepared, committed, rfl⟩ := noted
  exact ⟨some frame, committed, rfl⟩

theorem committing (noted : Noted width height prepares commits script) (frame : Frame) :
    Noted width height prepares (commits + 1) (script.committing frame) := by
  obtain ⟨prepared, committed, rfl⟩ := noted
  exact ⟨prepared, some frame, rfl⟩

theorem unsignaled (noted : Noted width height prepares commits script) :
    { script with signals := [] } = script := by
  obtain ⟨prepared, committed, rfl⟩ := noted
  rfl

/-- Whatever the background and the video show, they stay with the client and the device, and the
cursor gets its plane. -/
theorem grants (noted : Noted width height prepares commits script)
    (background video : Option BufferHandle) :
    ∀ role ∈ castOf background video, script.Grants role := by
  have planes : ∀ entry ∈ script.forcedBuffers, entry.2.override? = none := by
    obtain ⟨prepared, committed, rfl⟩ := noted
    intro entry member
    obtain rfl := List.mem_singleton.mp member
    rfl
  intro role member
  simp only [castOf, List.mem_cons, List.not_mem_nil, or_false] at member
  rcases member with rfl | rfl | rfl
  · have asked : (backgroundRole background).pending = .client := rfl
    exact Script.grants_of_planes planes rfl (.inl asked)
  · have asked : (videoRole video).pending = .device := rfl
    exact Script.grants_of_planes planes rfl (.inr asked)
  · obtain ⟨prepared, committed, rfl⟩ := noted
    exact ⟨rfl, nofun⟩

end Noted

end FrameLoop

end Scanout
