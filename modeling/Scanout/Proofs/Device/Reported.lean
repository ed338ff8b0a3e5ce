import Scanout.Proofs.Device.Register

/-!
# What a device reports of its display

A device reports a layer that it creates, destroys or moves and a frame that it presents, and it
does so exactly when this has taken effect: `Display.Shows` pairs the events of one happening with
what it has made of the display. A call that fails is not reported and leaves the display as it was;
moving a layer to the key that it has is reported and moves nothing.

All that a device reports in the course of a run is its journal (`System.journal`).
-/

set_option autoImplicit false

namespace Scanout

/-- The event tells of a layer's life or of a frame. -/
def TraceEvent.isShown (event : TraceEvent) : Bool :=
  match event.what with
  | .presented _ _ => true
  | .layer _ _ => true
  | _ => false

namespace Display

/-- Layers lie as they lay, and no frame has been presented. -/
structure Unmoved (display after : Display) : Prop where
  order : after.order = display.order
  framesPresented : after.framesPresented = display.framesPresented
  retireFence : after.retireFence = display.retireFence

theorem Unmoved.refl (display : Display) : display.Unmoved display := ⟨rfl, rfl, rfl⟩

theorem Unmoved.of_amends {relation : Layer → Layer → Prop} {display after : Display}
    (amends : Amends relation display after) : display.Unmoved after := by
  obtain ⟨layers, dirtyLayers, rfl⟩ := amends.confined
  exact ⟨rfl, rfl, rfl⟩

/-- What one happening can make of a display, and the events of it. -/
inductive Shows (display : Display) : List TraceEvent → Display → Prop where
  | unmoved {events : List TraceEvent} {after : Display} (unmoved : display.Unmoved after)
      (unshown : events.filter TraceEvent.isShown = []) : Shows display events after
  | created (id : DisplayId) {layer : LayerId} (fresh : layer ∉ display.ids) :
      Shows display [Device.layerEvent id layer .created] (display.addLayer layer)
  | destroyed (id : DisplayId) {layer : LayerId} {there : Layer}
      (found : display.layer? layer = some there) :
      Shows display [Device.layerEvent id layer .destroyed] (display.removeLayer layer).2
  | moved (id : DisplayId) {layer : LayerId} {z : UInt32}
      (done : (display.setZ layer z).1 = .ok ()) :
      Shows display [Device.layerEvent id layer (.movedTo z)] (display.setZ layer z).2
  | presented (id : DisplayId) (fences : CommitFences) :
      Shows display
        [⟨id, ⟨0⟩, .presented (UInt64.ofNat (display.framesPresented + 1))
          (fences.retire.id?.map UInt64.ofNat)⟩]
        (display.deliver fences)

variable {display : Display}

theorem shows_nothing (display : Display) : display.Shows [] display :=
  .unmoved (.refl display) rfl

/-! ## Calls that need no backend -/

theorem unmoved_edited {display after : Display} {id : LayerId} (edited : display.Edited id after)
    (unmoved : after.order = display.order) : display.Unmoved after := by
  cases edited <;> exact ⟨unmoved, rfl, rfl⟩

theorem order_setGeometry (display : Display) (id : LayerId)
    (update : LayerGeometry → LayerGeometry) :
    (display.setGeometry id update).2.order = display.order := by
  unfold setGeometry
  split
  · rfl
  · dsimp only
    split <;> rfl

/-- Only its Z key moves a layer. -/
theorem order_edit (display : Display) (id : LayerId) (edit : LayerEdit)
    (other : ∀ z, edit ≠ .z z) : (display.edit id edit).2.order = display.order := by
  cases edit with
  | z z => exact absurd rfl (other z)
  | composition composition =>
      simp only [edit, editDone, setComposition]
      split
      · rfl
      · split <;> rfl
  | buffer buffer acquire =>
      simp only [edit, setBuffer]
      split <;> rfl
  | surfaceDamage rects =>
      simp only [edit, editDone, setSurfaceDamage]
      split <;> rfl
  | dataspace dataspace =>
      simp only [edit, editDone, setDataspace]
      split
      · rfl
      · split <;> rfl
  | planeAlpha alpha =>
      simp only [edit, editDone, setPlaneAlpha]
      split
      · exact display.order_setGeometry id _
      · rfl
  | cursor x y =>
      simp only [edit, editDone, setCursorPosition]
      split
      · rfl
      · split
        · rfl
        · split <;> rfl
  | _ => exact display.order_setGeometry id _

theorem unmoved_call (stacked : display.Stacked) (call : DisplayCall)
    (other : ∀ layer z, call ≠ .edit layer (.z z)) : display.Unmoved (display.call call).2 := by
  cases call with
  | edit id edit =>
      have still : ∀ z, edit ≠ .z z := fun z same => other id z (by rw [same])
      exact unmoved_edited (edited_edit (fun _ found => stacked.held found) edit)
        (display.order_edit id edit still)
  | clientTarget buffer acquire dataspace damage => exact ⟨rfl, rfl, rfl⟩
  | outputBuffer buffer release => exact ⟨rfl, rfl, rfl⟩
  | acceptChanges =>
      simp only [Display.call, acceptChanges]
      cases display.validated with
      | none => exact .refl display
      | some validation =>
          have kept := Unmoved.of_amends (display.amends_foldl_acceptChange validation.typeChanges)
          exact ⟨kept.order, kept.framesPresented, kept.retireFence⟩
  | colorMode mode =>
      simp only [Display.call, setColorMode]
      split
      · exact ⟨rfl, rfl, rfl⟩
      · exact .refl display

/-! ## Calls that ask the backend -/

/-- The call presents nothing: layers lie as they lay, and no fence is the result. -/
structure Fenceless (display : Display) (outcome : Outcome CallResult) : Prop where
  unmoved : display.Unmoved outcome.display
  result : ∀ fence, outcome.result ≠ .ok (.fence fence)

/-- How a call that asks the backend can end. -/
inductive Closes (display : Display) : Outcome CallResult → Prop where
  | fenceless {outcome : Outcome CallResult} (fenceless : display.Fenceless outcome) :
      Closes display outcome
  | presented (fences : CommitFences) :
      Closes display ⟨.ok (.fence fences.retire), display.deliver fences, []⟩

theorem fenceless_refused (cause : Error) (notices : List Notice) :
    display.Fenceless ⟨.error cause, display, notices⟩ :=
  ⟨.refl display, by rintro fence ⟨⟩⟩

theorem fenceless_begin {call : BackendCall} {result : Except Error CallResult}
    {notices : List Notice} (finished : display.begin call = .finished result notices) :
    display.Fenceless ⟨result, display, notices⟩ := by
  refine ⟨.refl display, ?_⟩
  rintro fence rfl
  cases call with
  | validate =>
      simp only [begin] at finished
      cases begun : display.beginValidate with
      | finished result notices =>
          rw [begun] at finished
          cases result <;> cases finished
      | asking proposal =>
          rw [begun] at finished
          cases finished
  | present =>
      simp only [begin, beginPresent] at finished
      split at finished
      · cases finished
      · split at finished
        · cases finished
        · split at finished <;> cases finished
  | setActiveConfig id =>
      simp only [begin, beginSetActiveConfig] at finished
      split at finished
      · cases finished
      · split at finished <;> cases finished
  | setPowerMode mode => cases finished

variable {σ : Type}

theorem fenceless_complete (display : Display) (backend : Backend σ) {question : Question}
    (other : ∀ frame, question ≠ .commit frame) (state : σ) :
    display.Fenceless (display.complete backend question state).1 := by
  cases question with
  | prepare proposal =>
      simp only [complete, Outcome.map]
      cases (backend.prepare proposal.frame state).1 with
      | error cause => exact fenceless_refused _ _
      | ok decisions =>
          simp only [finishValidate]
          split
          · have latched := Unmoved.of_amends (display.amends_latchLayers proposal)
            exact ⟨⟨latched.order, latched.framesPresented, latched.retireFence⟩,
              by rintro fence ⟨⟩⟩
          · exact fenceless_refused _ _
  | commit frame => exact absurd rfl (other frame)
  | activeConfig id index =>
      simp only [complete, Outcome.map]
      cases (backend.setActiveConfig index state).1 with
      | error cause => exact fenceless_refused _ _
      | ok done => exact ⟨⟨rfl, rfl, rfl⟩, by rintro fence ⟨⟩⟩
  | powerMode mode =>
      simp only [complete, Outcome.map]
      cases (backend.setPowerMode mode state).1 with
      | error cause => exact fenceless_refused _ _
      | ok done => exact ⟨⟨rfl, rfl, rfl⟩, by rintro fence ⟨⟩⟩

theorem closes_complete (display : Display) (backend : Backend σ) (question : Question)
    (state : σ) : display.Closes (display.complete backend question state).1 := by
  cases question with
  | commit frame =>
      simp only [complete, Outcome.map]
      cases (backend.commit frame state).1 with
      | error cause => exact .fenceless (fenceless_refused _ _)
      | ok fences =>
          simp only [finishPresent]
          split
          · exact .presented fences
          · exact .fenceless (fenceless_refused _ _)
  | _ => exact .fenceless (display.fenceless_complete backend (by simp) state)

/-- Only presenting commits a frame. -/
theorem ne_commit_of_begin {call : BackendCall} (other : call ≠ .present) {question : Question}
    (asking : display.begin call = .asking question) (frame : Frame) :
    question ≠ .commit frame := by
  rintro rfl
  cases call with
  | validate =>
      simp only [begin] at asking
      cases first : display.beginValidate <;> simp [first, Begun.map] at asking
  | present => exact other rfl
  | setActiveConfig id =>
      simp only [begin] at asking
      cases first : display.beginSetActiveConfig id <;> simp [first, Begun.map] at asking
  | setPowerMode mode => cases asking

theorem fenceless_run (display : Display) (backend : Backend σ) {call : BackendCall}
    (other : call ≠ .present) (state : σ) :
    display.Fenceless (display.run backend call state).1 := by
  unfold run
  cases begun : display.begin call with
  | finished result notices => exact fenceless_begin begun
  | asking question =>
      exact display.fenceless_complete backend (ne_commit_of_begin other begun) state

end Display

/-! ## Ends of calls -/

namespace Device

variable {device : Device}

/-- The end of a call shows what has become of the display. -/
def Shows {answer : Type} (device : Device) (reply : Reply answer) : Prop :=
  device.display.Shows reply.events reply.device.display

theorem shows_createLayer
    (below : ∀ layer ∈ device.display.ids,
      layer.number.toNat < device.layerNumbers.next.toNat)
    (id : DisplayId) : device.Shows (device.createLayer id) := by
  unfold createLayer
  cases found : device.find id with
  | error cause => exact device.display.shows_nothing
  | ok display =>
      obtain rfl := find_eq_ok found
      cases allocated : device.layerNumbers.allocate? with
      | none => exact device.display.shows_nothing
      | some taken =>
          obtain ⟨number, numbering⟩ := taken
          obtain ⟨rfl, _⟩ := Numbering.allocate?_next allocated
          exact .created id fun there => Nat.lt_irrefl _ (below _ there)

theorem shows_destroyLayer (device : Device) (id : DisplayId) (layer : LayerId) :
    device.Shows (device.destroyLayer id layer) := by
  have spares := device.spares_destroyLayer id layer
  unfold destroyLayer at spares ⊢
  cases resolved : device.resolveLayer id layer with
  | error cause => exact device.display.shows_nothing
  | ok display =>
      obtain rfl := resolveLayer_eq_ok resolved
      cases found : device.display.layer? layer with
      | none =>
          simp only [Display.removeLayer, found]
          exact device.display.shows_nothing
      | some there =>
          have shown := Display.Shows.destroyed id found
          simp only [Display.removeLayer, found] at shown ⊢
          exact shown

/-- Where the order holds the layer, its move is reported exactly if it succeeds. -/
theorem shows_editLayer (stacked : device.display.Stacked) (id : DisplayId) (layer : LayerId)
    (edit : LayerEdit) : device.Shows (device.editLayer id layer edit) := by
  unfold editLayer
  cases resolved : device.resolveEdit id layer edit with
  | error cause => exact device.display.shows_nothing
  | ok display =>
      obtain rfl := resolveEdit_eq_ok resolved
      have held : ∀ found, device.display.layer? layer = some found →
          device.display.order.holds found.z layer = true := fun _ found => stacked.held found
      have spared := Display.spares_edit held edit
      have edited := Display.edited_edit held edit
      have order := device.display.order_edit layer edit
      cases made : device.display.edit layer edit with
      | mk result after =>
          rw [made] at spared edited order
          simp only [made]
          cases result with
          | error cause =>
              obtain rfl : after = device.display := spared cause rfl
              exact device.display.shows_nothing
          | ok value =>
              cases edit with
              | z z =>
                  obtain rfl : (device.display.setZ layer z).2 = after := congrArg Prod.snd made
                  have moved : (device.display.setZ layer z).1.map (fun _ => EditResult.done)
                      = .ok value := congrArg Prod.fst made
                  refine .moved id ?_
                  cases ended : (device.display.setZ layer z).1 with
                  | ok done => rfl
                  | error cause =>
                      rw [ended] at moved
                      cases moved
              | _ => exact .unmoved (Display.unmoved_edited edited (order (by simp))) rfl

theorem shows_call (stacked : device.display.Stacked) (id : DisplayId) (call : DisplayCall) :
    device.Shows (device.call id call) := by
  have unmoved := Display.unmoved_call stacked call
  cases call with
  | edit layer edit => exact shows_editLayer stacked id layer edit
  | _ =>
      simp only [Device.call]
      cases found : device.find id with
      | error cause => exact device.display.shows_nothing
      | ok display =>
          obtain rfl := find_eq_ok found
          have kept := unmoved (by simp)
          dsimp only
          split <;> rename_i made
          · rw [made] at kept
            exact .unmoved kept rfl
          · rw [made] at kept
            exact .unmoved kept rfl

theorem shows_conclude (id : DisplayId) (call : BackendCall) {outcome : Outcome CallResult}
    (closes : device.display.Closes outcome) : device.Shows (device.conclude id call outcome) := by
  cases closes with
  | presented fences => exact .presented id fences
  | fenceless fenceless =>
      obtain ⟨result, display, notices⟩ := outcome
      obtain ⟨unmoved, noFence⟩ := fenceless
      cases result with
      | error cause => exact .unmoved unmoved rfl
      | ok value =>
          cases value with
          | fence fence => exact absurd rfl (noFence fence)
          | _ => exact .unmoved unmoved rfl

theorem shows_settle {outcome : Outcome CallResult}
    (fenceless : device.display.Fenceless outcome) : device.Shows (device.settle outcome) :=
  .unmoved fenceless.unmoved rfl

theorem shows_begin {id : DisplayId} {call : BackendCall} {reply : Reply CallResult}
    (begun : device.begin id call = .inl reply) : device.Shows reply := by
  unfold begin at begun
  cases found : device.find id with
  | error cause =>
      simp only [found, Sum.inl.injEq] at begun
      rw [← begun]
      exact device.display.shows_nothing
  | ok display =>
      obtain rfl := find_eq_ok found
      cases first : device.display.begin call with
      | finished result notices =>
          simp only [found, first, Sum.inl.injEq] at begun
          rw [← begun]
          exact shows_conclude id call (.fenceless (Display.fenceless_begin first))
      | asking question => simp [found, first] at begun

theorem shows_endAt {access : Access} {call : BackendCall} {reply : Reply CallResult}
    (ended : device.endAt? access call = some reply) : device.Shows reply := by
  unfold endAt? at ended
  split at ended
  · split at ended
    · rename_i begun
      obtain rfl := Option.some.inj ended
      exact shows_begin begun
    · cases ended
  · split at ended
    · rename_i finished
      obtain rfl := Option.some.inj ended
      exact shows_settle (Display.fenceless_begin finished)
    · cases ended

theorem shows_callAt (stacked : device.display.Stacked) {access : Access} {call : DisplayCall}
    (routed : access = .display → ∀ layer z, call ≠ .edit layer (.z z)) :
    device.Shows (device.callAt access call) := by
  cases access with
  | device id => exact shows_call stacked id call
  | display => exact .unmoved (Display.unmoved_call stacked call (routed rfl)) rfl

variable {σ : Type}

theorem shows_replyAt (device : Device) (backend : Backend σ) {access : Access}
    (call : BackendCall) {question : Question}
    (routed : access = .display → ∀ frame, question ≠ .commit frame) (state : σ) :
    device.Shows (device.replyAt backend access call question state) := by
  cases access with
  | device id =>
      exact shows_conclude id call (device.display.closes_complete backend question state)
  | display => exact shows_settle (device.display.fenceless_complete backend (routed rfl) state)

theorem shows_runAt (device : Device) (backend : Backend σ) {access : Access} {call : BackendCall}
    (routed : access = .display → call ≠ .present) (state : σ) :
    device.Shows (device.runAt backend access call state) := by
  cases access with
  | device id =>
      simp only [runAt, run]
      split
      · rename_i begun
        exact shows_begin begun
      · exact shows_conclude id call (device.display.closes_complete backend _ state)
  | display => exact shows_settle (device.display.fenceless_run backend (routed rfl) state)

end Device

/-! ## Runs -/

/-- Straight to its display, no layer is moved and no frame presented. Whatever else a client does
there, the device would not have to report. -/
def Happening.Routed : Happening → Prop
  | .here (.call .display call) => ∀ layer z, call ≠ .edit layer (.z z)
  | .here (.ask .display call) => call ≠ .present
  | .answered .display _ question => ∀ frame, question ≠ .commit frame
  | _ => True

namespace System

variable {σ : Type}

/-- What the device reports of a happening. Ticks, which it reports when it hands them over, are not
among it. -/
def reported (backend : Backend σ) (system : System σ) : Happening → List TraceEvent
  | .here action =>
    match system.operation? action with
    | none => []
    | some operation => (system.attempt backend operation).events
  | .answered access call question =>
    (system.attempt backend (.complete access call question)).events
  | .elsewhere => []

def journal (backend : Backend σ) (system : System σ) : List Happening → List TraceEvent
  | [] => []
  | happening :: rest =>
    system.reported backend happening ++ journal backend (system.meet backend happening) rest

variable {backend : Backend σ} {system : System σ}

theorem shows_attempt (sound : system.Sound) {action : Action}
    (routed : (Happening.here action).Routed) {operation : Operation}
    (named : system.operation? action = some operation) :
    system.device.display.Shows (system.attempt backend operation).events
      (system.attempt backend operation).device.display := by
  cases action with
  | createLayer id =>
      cases named
      exact Device.shows_createLayer sound.numbered id
  | destroyLayer id layer =>
      cases named
      exact system.device.shows_destroyLayer id layer
  | call access call =>
      cases named
      refine Device.shows_callAt sound.stacked ?_
      rintro rfl
      exact routed
  | ask access call =>
      cases call with
      | validate =>
          cases named
          refine system.device.shows_runAt backend ?_ system.backend
          simp
      | present =>
          cases named
          refine system.device.shows_runAt backend ?_ system.backend
          rintro rfl
          exact routed
      | _ =>
          cases named
          simp only [attempt]
          split
          · exact system.device.display.shows_nothing
          · rename_i ended
            exact Device.shows_endAt ended
  | answer =>
      cases waits : system.waiting with
      | nil => simp [operation?, waits] at named
      | cons first rest =>
          obtain ⟨access, switch⟩ := first
          simp only [operation?, waits, Option.some.injEq] at named
          rw [← named]
          refine system.device.shows_replyAt backend switch.call ?_ system.backend
          cases switch <;> simp [Switch.question]
  | setVsyncEnabled id enabled =>
      cases named
      simp only [attempt, Device.setVsyncEnabled]
      split <;> exact system.device.display.shows_nothing
  | _ => cases named

/-- An action that is no operation leaves the display alone. -/
theorem step_display_of_unnamed (backend : Backend σ) {action : Action}
    (unnamed : system.operation? action = none) :
    (system.step backend action).device.display = system.device.display := by
  have idle : system.turn backend action = .idle := by
    cases action with
    | ask access call => cases call <;> cases unnamed
    | answer =>
        cases waits : system.waiting with
        | nil => simp only [turn, waits]
        | cons first rest => simp [operation?, waits] at unnamed
    | createLayer id => cases unnamed
    | destroyLayer id layer => cases unnamed
    | call access call => cases unnamed
    | _ => rfl
  rw [step_display, idle]
  rfl

/-- What is reported of a happening shows what it has made of the display. -/
theorem shows_meet (sound : system.Sound) (backend : Backend σ) {happening : Happening}
    (routed : happening.Routed) :
    system.device.display.Shows (system.reported backend happening)
      (system.meet backend happening).device.display := by
  cases happening with
  | here action =>
      simp only [reported, meet]
      cases named : system.operation? action with
      | none =>
          rw [step_display_of_unnamed backend named]
          exact system.device.display.shows_nothing
      | some operation =>
          rw [step_device backend system named]
          exact shows_attempt sound routed named
  | answered access call question =>
      have shown : system.device.Shows
          (system.device.replyAt backend access call question system.backend) := by
        refine system.device.shows_replyAt backend call ?_ system.backend
        rintro rfl
        exact routed
      cases access <;> exact shown
  | elsewhere =>
      simp only [reported, meet]
      split <;> exact system.device.display.shows_nothing

end System

end Scanout
