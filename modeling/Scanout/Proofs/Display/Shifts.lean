import Scanout.Proofs.Display.Commit
import Scanout.Proofs.Display.Commuting

/-!
# Where a committed frame shows its layers

A frame is proposed with every layer at the place where it is then. Until it is committed a client
can still shift layers without making it stale: a cursor by its position, and any layer by a display
frame that is equal to the one it has, zeros of either sign being equal. The committed slots follow.

A *shift* is read off a call and off whether the display lets it pass (`shift?`, `isOk_cursor`), not
off what becomes of the layer. `Display.shifts` are those of one layer since the last agreement. As
long as the display is validated they lead from the proposed place of each layer to where it is
(`Positioned`), and every turn keeps it so (`positioned_turn`).

`Frame.Commits` says what follows for a whole committed frame, slot by slot (`commits_run`).
-/

set_option autoImplicit false

namespace Scanout

/-! ## What a committed frame says -/

/-- A change of the place of a layer on its display. -/
inductive Shift where
  | frame (rect : Rect)
  | origin (x y : Float)

/-- Where a shift puts a layer that is at this place. -/
def Shift.apply (place : Rect) : Shift → Rect
  | frame rect => rect
  | origin x y => place.withOrigin x y

/-- The client target's slot on commit, on a display of this shape. -/
structure Slot.ShowsTarget (slot : Slot) (shape : ConfigShape) (memory : Memory) : Prop where
  placement : slot.placement = .framebufferTarget
  displayFrame : slot.displayFrame = .ofSize shape.width shape.height
  sourceCrop : slot.sourceCrop = .ofSize shape.width shape.height
  buffer : slot.buffer = memory.clientTarget.buffer
  acquireFence : slot.acquireFence = memory.clientTarget.fence
  surfaceDamage : slot.surfaceDamage = memory.clientTargetDamage

/-- A frame on commit, for a display, what was agreed on last, what is remembered and how the layers
have been shifted since the agreement. -/
structure Frame.Commits (frame : Frame) (display : Display) (negotiation : Negotiation)
    (memory : Memory) (shifts : LayerId → List Shift) : Prop where
  /-- One slot for each layer, back to front, and one more. Each layer is where its shifts lead from
  the place that was proposed. -/
  layers : ∃ layers, display.BackToFront layers ∧ frame.slots.length = layers.length + 1
    ∧ ∀ (index : Nat) (layer : Layer), layers[index]? = some layer →
      ∃ slot proposed decision, frame.slots[index]? = some slot
        ∧ negotiation.proposal.frame.slots[index]? = some proposed
        ∧ negotiation.decisions[index]? = some decision ∧ slot.Shows layer proposed decision
        ∧ slot.displayFrame = (shifts layer.id).foldl Shift.apply proposed.displayFrame
  target : ∃ config slot, display.activeConfig? = some config
    ∧ frame.slots.getLast? = some slot ∧ slot.ShowsTarget config.shape memory
  geometryChanged : frame.geometryChanged = negotiation.proposal.frame.geometryChanged
  outputBuffer : frame.outputBuffer = memory.outputBuffer

namespace Display

variable {display : Display}

/-! ## Shifts -/

/-- How an edit shifts a layer of the display, unless it is refused. -/
def shift? (display : Display) (layer : Layer) : LayerEdit → Option Shift
  | .displayFrame rect => some (.frame rect)
  | .cursor x y => if display.movesCursor layer then some (.origin x y) else none
  | _ => none

/-- The shifts of a layer by one turn, of which there is one at most. -/
def shiftsBy (display : Display) (id : LayerId) : Turn → List Shift
  | .call (.edit other edit) =>
    if id = other then ((display.layer? id).bind (display.shift? · edit)).toList else []
  | _ => []

/-- The agreement that a turn ends in. -/
def agreement? (display : Display) : Turn → Option Negotiation
  | .validate prepare => display.negotiated? prepare
  | _ => none

/-- The shifts of a layer since the last agreement, one turn later. -/
def shiftsAfter (display : Display) (id : LayerId) (shifts : List Shift) (turn : Turn) :
    List Shift :=
  match display.agreement? turn with
  | some _ => []
  | none => shifts ++ display.shiftsBy id turn

/-- The shifts of a layer since the last agreement, oldest first. -/
def shifts (display : Display) (id : LayerId) (before : List Shift) : List Turn → List Shift
  | [] => before
  | turn :: rest => (display.turn turn).2.shifts id (display.shiftsAfter id before turn) rest

/-- Where a layer is. -/
def place? (display : Display) (id : LayerId) : Option Rect :=
  (display.layer? id).map (·.geometry.displayFrame)

/-- The position of a cursor shifts its layer exactly if the client is told so. -/
theorem isOk_cursor (display : Display) (id : LayerId) (x y : Float) :
    (display.call (.edit id (.cursor x y))).1.isOk
      = ((display.layer? id).bind (display.shift? · (.cursor x y))).isSome := by
  simp only [call, edit, editDone, shift?]
  cases found : display.layer? id with
  | none =>
      simp only [setCursorPosition, found]
      split <;> rfl
  | some layer =>
      rw [Option.bind_some]
      cases moves : display.movesCursor layer with
      | true =>
          rw [setCursorPosition_of_moves found moves]
          rfl
      | false =>
          obtain ⟨cause, rests⟩ := setCursorPosition_of_rests found moves x y
          rw [rests]
          rfl

/-! ## What a turn does to the places -/

theorem place_revised (display : Display) (layer : Layer) (edit : LayerEdit) :
    (display.revised layer edit).geometry.displayFrame
      = (display.shift? layer edit).toList.foldl Shift.apply layer.geometry.displayFrame := by
  cases edit with
  | cursor x y =>
      simp only [revised, shift?]
      split <;> rfl
  | planeAlpha alpha =>
      by_cases inside : 0.0 ≤ alpha ∧ alpha ≤ 1.0
      · simp only [revised, LayerEdit.applied, LayerEdit.geometry?, if_pos inside]
        rfl
      · simp only [revised, LayerEdit.applied, LayerEdit.geometry?, if_neg inside]
        rfl
  | _ => rfl

theorem place?_edit (stacked : display.Stacked) (id other : LayerId) (edit : LayerEdit) :
    (display.edit id edit).2.place? other
      = (display.place? other).map
          ((display.shiftsBy other (.call (.edit id edit))).foldl Shift.apply) := by
  rw [place?, place?, layer?_edit stacked, shiftsBy]
  cases display.layer? other with
  | none => rfl
  | some layer =>
      by_cases own : other = id
      · simp only [if_pos own, Option.map_some, Option.bind_some, place_revised]
      · simp only [if_neg own, Option.map_some, List.foldl_nil]

/-- A change of layers that moves none of them. -/
theorem place?_of_change {after : Display} {id : LayerId} {change : Layer → Layer}
    (changed : after.layer? id = (display.layer? id).map change)
    (rests : ∀ layer, (change layer).geometry.displayFrame = layer.geometry.displayFrame) :
    after.place? id = display.place? id := by
  rw [place?, place?, changed, Option.map_map]
  congr 1
  funext layer
  exact rests layer

theorem place?_decided (display : Display) (proposal : Proposal) (decisions : List Decision)
    (id : LayerId) : (display.decided proposal decisions).place? id = display.place? id := by
  refine place?_of_change (display.layer?_latchLayers proposal id) fun layer => ?_
  split
  · unfold Layer.latched
    split <;> rfl
  · rfl

theorem place?_accepted (display : Display) (validation : Validation) (id : LayerId) :
    (display.accepted validation).place? id = display.place? id := by
  refine place?_of_change (layer?_foldl_acceptChange validation.typeChanges display id)
    fun layer => ?_
  cases validation.typeChanges.reverse.lookup id <;> rfl

theorem place?_foldl_pushReleaseFence (shares : List (LayerId × Fence)) (display : Display)
    (id : LayerId) : (shares.foldl pushReleaseFence display).place? id = display.place? id := by
  induction shares generalizing display with
  | nil => rfl
  | cons share rest ih =>
      rw [List.foldl_cons, ih]
      refine place?_of_change (display.layer?_pushReleaseFence share id) fun layer => ?_
      split <;> rfl

/-- What is no edit and ends in no agreement leaves all layers where they are, as long as the
validation stays. -/
theorem place?_turned {turn : Turn} {after : Display} (turned : display.Turned turn after)
    (other : ∀ id edit, turn ≠ .call (.edit id edit)) (none : display.agreement? turn = none)
    (validated : after.validated.isSome) :
    display.validated.isSome ∧ ∀ id, after.place? id = display.place? id := by
  cases turned with
  | added => cases validated
  | removed found =>
      rw [removeLayer_eq found] at validated
      cases validated
  | edited => exact absurd rfl (other _ _)
  | accepted known => exact ⟨Option.isSome_of_eq_some known, display.place?_accepted _⟩
  | negotiated modified proposed agreed complete => cases none.symm.trans agreed
  | @presented commit frame fences asking committed complete =>
      have amends := amends_foldl_pushReleaseFence (display.releaseShares fences) display
      exact ⟨amends.validated ▸ validated, place?_foldl_pushReleaseFence _ display⟩
  | switched => cases validated
  | _ => exact ⟨validated, fun _ => rfl⟩

/-- Without a new agreement a turn moves layers by its shifts alone, as long as the validation
stays. -/
theorem place?_turn (stacked : display.Stacked) {turn : Turn}
    (none : display.agreement? turn = none) (validated : (display.turn turn).2.validated.isSome) :
    display.validated.isSome ∧ ∀ id, (display.turn turn).2.place? id
      = (display.place? id).map ((display.shiftsBy id turn).foldl Shift.apply) := by
  by_cases edits : ∃ id edit, turn = .call (.edit id edit)
  · obtain ⟨id, edit, rfl⟩ := edits
    refine ⟨?_, fun other => place?_edit stacked id other edit⟩
    change (display.edit id edit).2.validated.isSome at validated
    rw [validated_edit stacked] at validated
    split at validated
    · cases validated
    · exact validated
  · -- nothing but an edit shifts a layer
    have other : ∀ id edit, turn ≠ .call (.edit id edit) :=
      fun id edit same => edits ⟨id, edit, same⟩
    obtain ⟨known, rests⟩ := place?_turned (turned_turn stacked.held turn) other none validated
    refine ⟨known, fun id => ?_⟩
    have unshifted : display.shiftsBy id turn = [] := by
      unfold shiftsBy
      split
      · exact absurd rfl (other _ _)
      · rfl
    rw [rests, unshifted]
    exact Option.map_id'.symm

/-! ## What the shifts since an agreement come to -/

/-- As long as the display is validated, each layer of the agreement is where its shifts since then
have put it. -/
def Positioned (display : Display) (memory : Memory) (shifts : LayerId → List Shift) : Prop :=
  display.validated.isSome → ∀ negotiation, memory.negotiation = some negotiation →
    ∀ entry ∈ negotiation.proposal.layers,
      display.place? entry.1 = some ((shifts entry.1).foldl Shift.apply entry.2.displayFrame)

theorem negotiation_next (memory : Memory) (display : Display) (turn : Turn) :
    (memory.next display turn).negotiation = (display.agreement? turn).or memory.negotiation := by
  cases turn with
  | call call =>
      cases call with
      | acceptChanges =>
          simp only [Memory.next]
          split <;> rfl
      | _ => rfl
  | validate prepare =>
      simp only [Memory.next, agreement?]
      cases display.negotiated? prepare <;> rfl
  | _ => rfl

theorem proposes_of_negotiated {prepare : Frame → Except BackendError (List Decision)}
    {negotiation : Negotiation} (agreed : display.negotiated? prepare = some negotiation) :
    display.Proposes negotiation.proposal := by
  unfold negotiated? at agreed
  split at agreed
  · cases agreed
  · rename_i proposal begun
    have proposed := (beginValidate_eq_asking begun).2
    split at agreed
    · cases agreed
    · split at agreed
      · obtain rfl := Option.some.inj agreed
        exact proposes_of_propose proposed
      · cases agreed

/-- An agreement is about layers where they are. -/
theorem place?_agreed {turn : Turn} {negotiation : Negotiation}
    (agreed : display.agreement? turn = some negotiation) {entry : LayerId × Slot}
    (member : entry ∈ negotiation.proposal.layers) :
    (display.turn turn).2.place? entry.1 = some entry.2.displayFrame := by
  cases turn with
  | validate prepare =>
      change display.negotiated? prepare = some negotiation at agreed
      change (display.validateWith prepare).2.place? entry.1 = _
      obtain ⟨layer, found, same⟩ := (proposes_of_negotiated agreed).layer? member
      rw [validateWith_eq, agreed, place?_decided, place?, found, same]
      rfl
  | _ => cases agreed

theorem positioned_turn {memory : Memory} {shifts : LayerId → List Shift}
    (stacked : display.Stacked) (positioned : display.Positioned memory shifts) (turn : Turn) :
    (display.turn turn).2.Positioned (memory.next display turn)
      fun id => display.shiftsAfter id (shifts id) turn := by
  intro validated negotiation known entry member
  rw [negotiation_next] at known
  unfold shiftsAfter
  cases agreed : display.agreement? turn with
  | some latest =>
      rw [agreed] at known
      obtain rfl := Option.some.inj known
      exact place?_agreed agreed member
  | none =>
      rw [agreed] at known
      obtain ⟨before, shifted⟩ := place?_turn stacked agreed validated
      rw [shifted, positioned before negotiation known entry member, List.foldl_append]
      rfl

theorem positioned_after {memory : Memory} {shifts : LayerId → List Shift}
    (stacked : display.Stacked) (positioned : display.Positioned memory shifts)
    {turns : List Turn} (follows : display.Follows turns) :
    (display.after turns).Positioned (memory.through display turns)
      fun id => display.shifts id (shifts id) turns := by
  induction turns generalizing display memory shifts with
  | nil => exact positioned
  | cons turn rest ih =>
      exact ih (stacked_turn stacked follows.1) (positioned_turn stacked positioned turn) follows.2

/-! ## The committed frame -/

theorem commits_of_positioned {memory : Memory} {shifts : LayerId → List Shift} {frame : Frame}
    (stacked : display.Stacked) (remembered : display.Remembered memory)
    (positioned : display.Positioned memory shifts)
    (asking : display.beginPresent = .asking frame) :
    ∃ negotiation, memory.negotiation = some negotiation
      ∧ frame.Commits display negotiation memory shifts := by
  obtain ⟨validation, validated, _, _, rfl⟩ := beginPresent_eq_asking asking
  obtain ⟨negotiation, known, agreed⟩ := remembered.agreed validation validated
  refine ⟨negotiation, known, ?_, ?_, agreed.geometryChanged, remembered.outputBuffer⟩
  · refine ⟨display.stack, backToFront_stack stacked, agreed.length_commitFrame stacked, ?_⟩
    intro index layer there
    obtain ⟨slot, proposed, decision, committed, asked, decided, shows⟩ :=
      agreed.shows stacked there
    obtain ⟨entry, _, _, listed, _, _, found, _, _⟩ := agreed.slot stacked there
    obtain rfl : proposed = entry.2 :=
      Option.some.inj (asked.symm.trans (Proposal.frame_slot listed))
    have place := positioned (Option.isSome_of_eq_some validated) negotiation known entry
      (List.mem_of_getElem? listed)
    rw [place?, found, ← id_of_layer? found, Option.map_some] at place
    exact ⟨slot, entry.2, decision, committed, asked, decided, shows,
      shows.displayFrame.trans (Option.some.inj place)⟩
  · obtain ⟨config, active, target⟩ := agreed.target
    refine ⟨config, display.commitTarget validation.proposal.target, active,
      List.getLast?_concat, ?_⟩
    rw [target]
    exact {
      placement := rfl
      displayFrame := rfl
      sourceCrop := rfl
      buffer := congrArg FencedBuffer.buffer remembered.clientTarget
      acquireFence := congrArg FencedBuffer.fence remembered.clientTarget
      surfaceDamage := remembered.clientTargetDamage }

end Display

namespace System

variable {σ : Type}

/-- How a layer has been shifted in a run since the last agreement, oldest shift first. -/
def shifts (backend : Backend σ) (system : System σ) (actions : List Action) (id : LayerId) :
    List Shift :=
  system.device.display.shifts id [] (system.turns backend actions)

/-- Whenever a display asks its backend to commit a frame, the frame shows the layers that are there
as they are, with the decisions that the backend made last, and each where its shifts since then
have put it. -/
theorem commits_run {backend : Backend σ} {system : System σ} (opened : system.Opened backend)
    (actions : List Action) {frame : Frame}
    (asking : (system.run backend actions).device.display.beginPresent = .asking frame) :
    ∃ negotiation, (system.memory backend actions).negotiation = some negotiation
      ∧ frame.Commits (system.run backend actions).device.display negotiation
        (system.memory backend actions) (system.shifts backend actions) := by
  obtain ⟨stacked, remembered⟩ := remembered_run opened actions
  have sound := sound_of_opened opened
  have start : system.device.display.Positioned {} fun _ => [] := by
    obtain ⟨id, name, required, configs, same⟩ := opened_display opened
    rw [same]
    exact fun validated => absurd validated Bool.false_ne_true
  have positioned := Display.positioned_after sound.stacked start
    (follows_turns sound backend actions)
  rw [← run_display] at positioned
  exact Display.commits_of_positioned stacked remembered positioned asking

/-- A cursor layer moves twice and a client target is set after the frame was validated. -/
def cursorRun : List Action :=
  [.createLayer ⟨1⟩, .call (.device ⟨1⟩) (.edit ⟨1⟩ (.composition .cursor)),
    .call .display (.edit ⟨1⟩ (.displayFrame ⟨0, 0, 32, 32⟩)),
    .call .display (.edit ⟨1⟩ (.buffer (some ⟨7⟩) .noop)), .ask (.device ⟨1⟩) .validate,
    .call (.device ⟨1⟩) (.edit ⟨1⟩ (.cursor 40 30)), .call .display (.edit ⟨1⟩ (.cursor 8 6)),
    .call .display (.clientTarget (some ⟨9⟩) .noop .unknown [])]

theorem commits_run_cursor :
    ∃ frame, ((onScript [(0, .cursorOverlay)]).run .scripted cursorRun).device.display.beginPresent
        = .asking frame
      ∧ (∃ negotiation, ((onScript [(0, .cursorOverlay)]).memory .scripted cursorRun).negotiation
          = some negotiation
        ∧ frame.Commits ((onScript [(0, .cursorOverlay)]).run .scripted cursorRun).device.display
          negotiation ((onScript [(0, .cursorOverlay)]).memory .scripted cursorRun)
          ((onScript [(0, .cursorOverlay)]).shifts .scripted cursorRun))
      ∧ (onScript [(0, .cursorOverlay)]).shifts .scripted cursorRun ⟨1⟩
        = [.origin 40 30, .origin 8 6]
      ∧ frame.slots.head?.map (·.displayFrame)
        = some ((Rect.withOrigin ⟨0, 0, 32, 32⟩ 40 30).withOrigin 8 6) :=
  ⟨_, rfl, commits_run (opened_onScript _) cursorRun rfl, rfl, rfl⟩

end System

end Scanout
