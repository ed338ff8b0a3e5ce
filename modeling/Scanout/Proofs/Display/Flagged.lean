import Scanout.Proofs.Display.Dirty
import Scanout.Proofs.Display.History
import Scanout.Proofs.Display.Proposals

/-!
# Which lists are flagged

A list is flagged if the display notes that the stack was reshaped, if a layer is dirty or if the
number of layers is another than on the validation before. Here the flag is read off the history of
the display, as its state is in `state_run`: an *impact* is what a turn means for the flag.

The note is what the impacts since the last validation leave due (`needsFullResend_after`). The
number of layers never matters: without the note it is still that of the last validation
(`Noted.prepared`).
-/

set_option autoImplicit false

namespace Scanout

/-! ## Impacts -/

/-- An edit changes the shape or the geometry of the stack that holds this layer. -/
def LayerEdit.reshapes (layer : Layer) : LayerEdit → Bool
  | .composition _ => false
  | .buffer _ _ => false
  | edit => edit.isEffectiveOn layer

inductive Impact where
  /-- The shape or the geometry of the stack, or the configuration, is another. -/
  | reshaping
  /-- A validation has succeeded. -/
  | validation
  | other
  deriving DecidableEq

namespace Impact

/-- The impacts since the last validation, latest first. -/
def recent (impacts : List Impact) : List Impact :=
  impacts.reverse.takeWhile fun impact => impact != validation

/-- The stack was reshaped after the last validation, or there was none. -/
def due (impacts : List Impact) : Bool :=
  !impacts.contains validation || (recent impacts).contains reshaping

/-- What an impact does to a note that was there or not. -/
def settle (noted : Bool) : Impact → Bool
  | reshaping => true
  | validation => false
  | other => noted

theorem recent_concat (impacts : List Impact) (impact : Impact) :
    recent (impacts ++ [impact])
      = if impact = validation then [] else impact :: recent impacts := by
  simp only [recent, List.reverse_append, List.reverse_singleton, List.singleton_append,
    List.takeWhile_cons]
  cases impact <;> rfl

theorem due_concat (impacts : List Impact) (impact : Impact) :
    due (impacts ++ [impact]) = settle (due impacts) impact := by
  unfold due
  rw [recent_concat]
  cases impact <;> simp [settle]

theorem due_iff {impacts : List Impact} :
    due impacts = true ↔ validation ∉ impacts ∨ reshaping ∈ recent impacts := by
  simp [due]

end Impact

namespace Display

def isReshaping (display : Display) (id : LayerId) (edit : LayerEdit) : Bool :=
  (display.layer? id).any fun layer => edit.reshapes layer

def impact (display : Display) : Turn → Impact
  | .addLayer _ => .reshaping
  | .removeLayer id => if (display.layer? id).isSome then .reshaping else .other
  | .call (.edit id edit) => if display.isReshaping id edit then .reshaping else .other
  | .validate prepare =>
    match (display.validateWith prepare).1 with
    | .error _ => .other
    | .ok _ => .validation
  | .switchConfig _ answer => if answer.isOk then .reshaping else .other
  | _ => .other

def impacts (display : Display) : List Turn → List Impact
  | [] => []
  | turn :: rest => display.impact turn :: (display.turn turn).2.impacts rest

end Display

/-- Calls that only fill in what the next frame shows. -/
def DisplayCall.isQuiet : DisplayCall → Bool
  | .edit _ (.buffer _ _) => true
  | .edit _ (.surfaceDamage _) => true
  | .edit _ (.cursor _ _) => true
  | .clientTarget _ _ _ _ => true
  | .outputBuffer _ _ => true
  | _ => false

/-- What the flag of a list means on a display with these impacts behind it. -/
structure Display.Tells (display : Display) (impacts : List Impact) (proposal : Proposal) :
    Prop where
  flagged : proposal.frame.geometryChanged = true
    ↔ Impact.validation ∉ impacts ∨ Impact.reshaping ∈ Impact.recent impacts
      ∨ ∃ layer ∈ display.layers, layer.pending ≠ layer.committed
  /-- A backend that fails, or decides on too few or too many slots, is shown the same list again. -/
  failed : ∀ prepare : Frame → Except BackendError (List Decision),
    (∀ decisions, prepare proposal.frame = .ok decisions →
      decisions.length ≠ proposal.slotCount) →
    (display.validateWith prepare).2.beginValidate = .asking proposal
  quiet : ∀ (calls : List DisplayCall) (next : Proposal), (∀ call ∈ calls, call.isQuiet = true) →
    (display.after (calls.map .call)).beginValidate = .asking next →
    next.frame.geometryChanged = proposal.frame.geometryChanged

namespace Display

/-! ## What a turn does to the note -/

variable {display after : Display}

theorem needsFullResend_setZ (stacked : display.Stacked) (id : LayerId) (z : UInt32) :
    (display.setZ id z).2.needsFullResend
      = (display.needsFullResend || display.isReshaping id (.z z)) := by
  unfold setZ isReshaping
  cases found : display.layer? id with
  | none => exact (Bool.or_false _).symm
  | some layer =>
      by_cases same : layer.z = z
      · simp [LayerEdit.reshapes, LayerEdit.isEffectiveOn, same]
      · have moved : (display.putLayer { layer with z := z }).order.move? id layer.z z
            = some ((display.order.remove layer.z id).insert z id) :=
          if_pos (stacked.held found)
        have effective : (z != layer.z) = true := by simpa using Ne.symm same
        simp only [same, if_false, moved, Option.any_some, LayerEdit.reshapes,
          LayerEdit.isEffectiveOn, effective, Bool.or_true]
        rfl

theorem needsFullResend_setDataspace (display : Display) (id : LayerId) (dataspace : Dataspace) :
    (display.setDataspace id dataspace).2.needsFullResend
      = (display.needsFullResend || display.isReshaping id (.dataspace dataspace)) := by
  unfold setDataspace isReshaping
  cases found : display.layer? id with
  | none => exact (Bool.or_false _).symm
  | some layer =>
      by_cases same : dataspace.isSupported = layer.dataspace.isSupported
      · simp [LayerEdit.reshapes, LayerEdit.isEffectiveOn, Layer.isUnsupported, same, putLayer]
      · simp [LayerEdit.reshapes, LayerEdit.isEffectiveOn, Layer.isUnsupported, same,
          Ne.symm same, reshaped]

theorem needsFullResend_setGeometry (display : Display) (id : LayerId)
    (update : LayerGeometry → LayerGeometry) {edit : LayerEdit}
    (reshapes : ∀ layer, edit.reshapes layer = (update layer.geometry != layer.geometry)) :
    (display.setGeometry id update).2.needsFullResend
      = (display.needsFullResend || display.isReshaping id edit) := by
  unfold setGeometry isReshaping
  cases found : display.layer? id with
  | none => exact (Bool.or_false _).symm
  | some layer =>
      simp only [Option.any_some, reshapes]
      cases update layer.geometry != layer.geometry with
      | true => exact (Bool.or_true _).symm
      | false => exact (Bool.or_false _).symm

theorem needsFullResend_setPlaneAlpha (display : Display) (id : LayerId) (alpha : Float32) :
    (display.setPlaneAlpha id alpha).2.needsFullResend
      = (display.needsFullResend || display.isReshaping id (.planeAlpha alpha)) := by
  unfold setPlaneAlpha
  by_cases inRange : 0.0 ≤ alpha ∧ alpha ≤ 1.0
  · rw [if_pos inRange]
    apply needsFullResend_setGeometry
    intro layer
    simp only [LayerEdit.reshapes, LayerEdit.isEffectiveOn, LayerEdit.geometry?, inRange, and_self,
      if_true]
  · have refused : display.isReshaping id (.planeAlpha alpha) = false := by
      unfold isReshaping
      cases display.layer? id with
      | none => rfl
      | some layer =>
          simp only [Option.any_some, LayerEdit.reshapes, LayerEdit.isEffectiveOn,
            LayerEdit.geometry?, inRange, if_false]
    rw [if_neg inRange, refused, Bool.or_false]

/-- What the flag is made of is left as it is. -/
structure Quiets (display after : Display) : Prop where
  resend : after.needsFullResend = display.needsFullResend
  dirty : after.dirtyLayers = display.dirtyLayers
  prepared : after.preparedLayers = display.preparedLayers
  order : after.order = display.order

theorem Quiets.trans {third : Display} (left : display.Quiets after) (right : after.Quiets third) :
    display.Quiets third where
  resend := right.resend.trans left.resend
  dirty := right.dirty.trans left.dirty
  prepared := right.prepared.trans left.prepared
  order := right.order.trans left.order

theorem quiets_setBuffer (display : Display) (id : LayerId) (buffer : Option BufferHandle)
    (acquire : Fence) : display.Quiets (display.setBuffer id buffer acquire).2 := by
  unfold setBuffer
  split <;> exact ⟨rfl, rfl, rfl, rfl⟩

theorem quiets_setSurfaceDamage (display : Display) (id : LayerId) (rects : List Rect) :
    display.Quiets (display.setSurfaceDamage id rects).2 := by
  unfold setSurfaceDamage
  split <;> exact ⟨rfl, rfl, rfl, rfl⟩

theorem quiets_setCursorPosition (display : Display) (id : LayerId) (x y : Float) :
    display.Quiets (display.setCursorPosition id x y).2 := by
  unfold setCursorPosition
  split
  · exact ⟨rfl, rfl, rfl, rfl⟩
  · split
    · exact ⟨rfl, rfl, rfl, rfl⟩
    · split <;> exact ⟨rfl, rfl, rfl, rfl⟩

theorem quiets_call (display : Display) {call : DisplayCall} (quiet : call.isQuiet = true) :
    display.Quiets (display.call call).2 := by
  cases call with
  | edit id edit =>
      cases edit with
      | buffer buffer acquire => exact display.quiets_setBuffer id buffer acquire
      | surfaceDamage rects => exact display.quiets_setSurfaceDamage id rects
      | cursor x y => exact display.quiets_setCursorPosition id x y
      | _ => cases quiet
  | clientTarget buffer acquire dataspace damage => exact ⟨rfl, rfl, rfl, rfl⟩
  | outputBuffer buffer release => exact ⟨rfl, rfl, rfl, rfl⟩
  | _ => cases quiet

theorem quiets_after (display : Display) {calls : List DisplayCall}
    (quiet : ∀ call ∈ calls, call.isQuiet = true) :
    display.Quiets (display.after (calls.map .call)) := by
  induction calls generalizing display with
  | nil => exact ⟨rfl, rfl, rfl, rfl⟩
  | cons call rest ih =>
      apply (display.quiets_call (quiet call List.mem_cons_self)).trans
      apply ih
      intro later member
      exact quiet later (List.mem_cons_of_mem _ member)

theorem isReshaping_of_never {edit : LayerEdit} (never : ∀ layer, edit.reshapes layer = false)
    (display : Display) (id : LayerId) : display.isReshaping id edit = false := by
  unfold isReshaping
  simp only [never]
  cases display.layer? id <;> rfl

theorem needsFullResend_edit (stacked : display.Stacked) (id : LayerId) (edit : LayerEdit) :
    (display.edit id edit).2.needsFullResend
      = (display.needsFullResend || display.isReshaping id edit) := by
  cases edit with
  | z z => exact needsFullResend_setZ stacked id z
  | dataspace dataspace => exact display.needsFullResend_setDataspace id dataspace
  | planeAlpha alpha => exact display.needsFullResend_setPlaneAlpha id alpha
  | displayFrame rect => exact display.needsFullResend_setGeometry id _ fun _ => rfl
  | sourceCrop rect => exact display.needsFullResend_setGeometry id _ fun _ => rfl
  | blend mode => exact display.needsFullResend_setGeometry id _ fun _ => rfl
  | transform transform => exact display.needsFullResend_setGeometry id _ fun _ => rfl
  | color color => exact display.needsFullResend_setGeometry id _ fun _ => rfl
  | composition composition =>
      rw [isReshaping_of_never (fun _ => rfl), Bool.or_false]
      simp only [edit, editDone, setComposition]
      split
      · rfl
      · split <;> rfl
  | buffer buffer acquire =>
      rw [isReshaping_of_never (fun _ => rfl), Bool.or_false]
      exact (display.quiets_setBuffer id buffer acquire).resend
  | surfaceDamage rects =>
      rw [isReshaping_of_never (fun _ => rfl), Bool.or_false]
      exact (display.quiets_setSurfaceDamage id rects).resend
  | cursor x y =>
      rw [isReshaping_of_never (fun _ => rfl), Bool.or_false]
      exact (display.quiets_setCursorPosition id x y).resend

/-! ## The note -/

/-- What a display has noted of its last validation. -/
structure Noted (display : Display) : Prop where
  /-- As long as the validation holds, nothing is noted against it. -/
  validated : display.validated.isSome → display.needsFullResend = false
  prepared : display.needsFullResend = false →
    display.preparedLayers = some display.layersInOrder.length

theorem noted_reshaped (display : Display) : display.reshaped.Noted := ⟨nofun, nofun⟩

theorem Noted.of_amends {relation : Layer → Layer → Prop} (noted : display.Noted)
    (amends : Amends relation display after) : after.Noted := by
  obtain ⟨layers, dirtyLayers, rfl⟩ := amends.confined
  exact ⟨noted.validated, noted.prepared⟩

theorem noted_edited {id : LayerId} (noted : display.Noted) (edited : display.Edited id after) :
    after.Noted := by
  cases edited with
  | kept => exact noted
  | restyled found same restyled fences => exact ⟨noted.validated, noted.prepared⟩
  | recomposed found => exact ⟨nofun, noted.prepared⟩
  | refilled found => exact ⟨nofun, noted.prepared⟩
  | reshaped found same z composition fences => exact noted_reshaped _
  | moved found => exact noted_reshaped _

theorem noted_decided (stacked : display.Stacked) {proposal : Proposal}
    {decisions : List Decision} (proposed : display.propose = .ok proposal)
    (complete : decisions.length = proposal.slotCount) :
    (display.decided proposal decisions).Noted := by
  refine ⟨fun _ => rfl, ?_⟩
  intro _
  have listed := congrArg List.length ((proposes_of_propose proposed).ids stacked)
  have order : (display.decided proposal decisions).layersInOrder = display.layersInOrder :=
    congrArg StackOrder.layers (display.amends_latchLayers proposal).order
  -- there is one decision more than there are layers, that on the client target
  have every : (proposal.layers.zip decisions).length = proposal.layers.length := by
    rw [List.length_zip, complete, Proposal.slotCount]
    omega
  rw [order, ← listed, List.length_map, ← every]
  exact congrArg some (List.length_map _)

theorem noted_turned {turn : Turn} (stacked : display.Stacked) (noted : display.Noted)
    (turned : display.Turned turn after) : after.Noted := by
  cases turned with
  | still forgotten => exact noted
  | added => exact noted_reshaped _
  | removed found =>
      rw [removeLayer_eq found]
      exact noted_reshaped _
  | edited edited => exact noted_edited noted edited
  | @accepted validation validated =>
      have amends := display.amends_foldl_acceptChange validation.typeChanges
      refine ⟨?_, (noted.of_amends amends).prepared⟩
      intro _
      apply amends.needsFullResend.trans
      apply noted.validated
      rw [validated]
      rfl
  | negotiated modified proposed agreed complete => exact noted_decided stacked proposed complete
  | @presented commit frame fences asking committed complete =>
      have amended := noted.of_amends
        (amends_foldl_pushReleaseFence (display.releaseShares fences) display)
      exact ⟨amended.validated, amended.prepared⟩
  | switched => exact noted_reshaped _
  | _ => exact ⟨noted.validated, noted.prepared⟩

theorem needsFullResend_validate (noted : display.Noted)
    (prepare : Frame → Except BackendError (List Decision)) :
    (display.validateWith prepare).2.needsFullResend
      = Impact.settle display.needsFullResend (display.impact (.validate prepare)) := by
  simp only [impact, validateWith]
  cases begun : display.beginValidate with
  | finished result notices =>
      unfold beginValidate at begun
      cases record : display.validated with
      | some validation =>
          -- the last validation still holds, and nothing has been noted since
          simp only [record, Begun.finished.injEq] at begun
          rw [← begun.1]
          apply noted.validated
          rw [record]
          rfl
      | none =>
          cases proposed : display.propose with
          | error cause =>
              simp only [record, proposed, Begun.finished.injEq] at begun
              rw [← begun.1]
              rfl
          | ok proposal => simp [record, proposed] at begun
  | asking proposal =>
      cases answer : prepare proposal.frame with
      | error cause => simp only [answer, finishValidate]; rfl
      | ok decisions =>
          simp only [answer, finishValidate]
          split <;> rfl

/-- What a turn means is what it does to the note. -/
theorem needsFullResend_turn (stacked : display.Stacked) (noted : display.Noted) (turn : Turn) :
    (display.turn turn).2.needsFullResend
      = Impact.settle display.needsFullResend (display.impact turn) := by
  cases turn with
  | idle => rfl
  | addLayer id => rfl
  | removeLayer id =>
      simp only [Display.turn, impact]
      cases found : display.layer? id with
      | none => simp only [removeLayer, found]; rfl
      | some layer => rw [removeLayer_eq found]; rfl
  | call call =>
      cases call with
      | edit id edit =>
          simp only [Display.turn, Display.call, impact, needsFullResend_edit stacked]
          cases display.isReshaping id edit with
          | true => exact Bool.or_true _
          | false => exact Bool.or_false _
      | acceptChanges =>
          simp only [Display.turn, Display.call, impact, acceptChanges]
          split
          · rfl
          · exact (display.amends_foldl_acceptChange _).needsFullResend
      | clientTarget buffer acquire dataspace damage => rfl
      | outputBuffer buffer release => rfl
      | colorMode mode =>
          simp only [Display.turn, Display.call, impact, setColorMode]
          split <;> rfl
  | validate prepare => exact needsFullResend_validate noted prepare
  | present commit =>
      simp only [Display.turn, presentWith, impact]
      cases display.beginPresent with
      | finished result notices => rfl
      | asking frame =>
          cases answer : commit frame with
          | error cause => simp only [answer, finishPresent]; rfl
          | ok fences =>
              simp only [answer, finishPresent]
              split
              · exact (amends_foldl_pushReleaseFence _ display).needsFullResend
              · rfl
  | switchConfig id answer => cases answer <;> rfl
  | switchPower mode answer => cases answer <;> rfl

/-- After a whole history, what is noted is what the impacts leave due. -/
theorem needsFullResend_after {display : Display} (stacked : display.Stacked)
    (noted : display.Noted) {turns : List Turn} (follows : display.Follows turns)
    (past : List Impact) (known : display.needsFullResend = Impact.due past) :
    (display.after turns).needsFullResend = Impact.due (past ++ display.impacts turns) := by
  induction turns generalizing display past with
  | nil => simpa [after, impacts] using known
  | cons turn rest ih =>
      obtain ⟨fresh, follows⟩ := follows
      have turned := turned_turn stacked.held turn
      have step : (display.turn turn).2.needsFullResend
          = Impact.due (past ++ [display.impact turn]) := by
        rw [needsFullResend_turn stacked noted, known, Impact.due_concat]
      have later := ih (stacked_turned stacked fresh turned) (noted_turned stacked noted turned)
        follows _ step
      simpa [after, impacts] using later

theorem noted_after {display : Display} (stacked : display.Stacked) (noted : display.Noted)
    {turns : List Turn} (follows : display.Follows turns) : (display.after turns).Noted :=
  after_induction (motive := fun _ display => display.Noted) noted_turned {} stacked noted follows

/-! ## The flag -/

theorem geometryChanged_eq (stacked : display.Stacked) {proposal : Proposal}
    (proposes : display.Proposes proposal) :
    proposal.frame.geometryChanged = (display.needsFullResend || decide (0 < display.dirtyLayers)
      || display.preparedLayers != some display.layersInOrder.length) := by
  rw [← proposes.ids stacked, List.length_map]
  exact proposes.geometryChanged

theorem dirtyLayers_pos_iff (counted : display.Counted) :
    0 < display.dirtyLayers ↔ ∃ layer ∈ display.layers, layer.pending ≠ layer.committed := by
  rw [counted, List.countP_pos_iff]
  simp [Layer.isDirty, Latched.isDirty, Layer.pending, Layer.committed]

theorem geometryChanged_iff (stacked : display.Stacked) (counted : display.Counted)
    (noted : display.Noted) {proposal : Proposal} (proposes : display.Proposes proposal) :
    proposal.frame.geometryChanged = true ↔ display.needsFullResend = true
      ∨ ∃ layer ∈ display.layers, layer.pending ≠ layer.committed := by
  rw [geometryChanged_eq stacked proposes, ← dirtyLayers_pos_iff counted]
  cases resend : display.needsFullResend with
  | true => simp
  | false =>
      -- the number of layers is that of the last validation, so it adds nothing
      simp [noted.prepared resend]

theorem validateWith_failed {proposal : Proposal}
    (asking : display.beginValidate = .asking proposal)
    {prepare : Frame → Except BackendError (List Decision)}
    (failed : ∀ decisions, prepare proposal.frame = .ok decisions →
      decisions.length ≠ proposal.slotCount) :
    (display.validateWith prepare).2 = display := by
  have disagreed : display.negotiated? prepare = none := by
    unfold negotiated?
    simp only [asking]
    cases answer : prepare proposal.frame with
    | error cause => rfl
    | ok decisions => exact if_neg (failed decisions answer)
  rw [validateWith_eq, disagreed]

theorem follows_calls (display : Display) (calls : List DisplayCall) :
    display.Follows (calls.map .call) := by
  induction calls generalizing display with
  | nil => trivial
  | cons call rest ih => exact ⟨trivial, ih _⟩

theorem geometryChanged_quiet (stacked : display.Stacked) {proposal next : Proposal}
    (proposes : display.Proposes proposal) {calls : List DisplayCall}
    (quiet : ∀ call ∈ calls, call.isQuiet = true)
    (later : (display.after (calls.map .call)).Proposes next) :
    next.frame.geometryChanged = proposal.frame.geometryChanged := by
  have quiets := display.quiets_after quiet
  have stackedLater := stacked_after stacked (display.follows_calls calls)
  have order : (display.after (calls.map .call)).layersInOrder = display.layersInOrder :=
    congrArg StackOrder.layers quiets.order
  rw [geometryChanged_eq stackedLater later, geometryChanged_eq stacked proposes, quiets.resend,
    quiets.dirty, quiets.prepared, order]

end Display

namespace System

variable {σ : Type}

/-- What a run of a device means for the flag of its display, oldest impact first. -/
def impacts (backend : Backend σ) (system : System σ) : List Action → List Impact
  | [] => []
  | action :: rest =>
    system.device.display.impact (system.turn backend action)
      :: impacts backend (system.step backend action) rest

theorem impacts_eq (backend : Backend σ) (system : System σ) (actions : List Action) :
    system.impacts backend actions
      = system.device.display.impacts (system.turns backend actions) := by
  induction actions generalizing system with
  | nil => rfl
  | cons action rest ih =>
      simp only [impacts, turns, Display.impacts, ih]
      rw [step_display]

theorem noted_of_opened {backend : Backend σ} {system : System σ}
    (opened : system.Opened backend) : system.device.display.Noted := by
  obtain ⟨id, name, required, configs, same⟩ := opened_display opened
  rw [same]
  exact ⟨nofun, nofun⟩

theorem noted_run {backend : Backend σ} {system : System σ} (opened : system.Opened backend)
    (actions : List Action) : (system.run backend actions).device.display.Noted := by
  have sound := sound_of_opened opened
  rw [run_display]
  exact Display.noted_after sound.stacked (noted_of_opened opened)
    (follows_turns sound backend actions)

/-- **In every run of an opened device, the flag of a list that a backend is to prepare tells what
has become of the stack since the last validation.** -/
theorem flagged_run {backend : Backend σ} {system : System σ} (opened : system.Opened backend)
    (actions : List Action) {proposal : Proposal}
    (asking : (system.run backend actions).device.display.beginValidate = .asking proposal) :
    (system.run backend actions).device.display.Tells (system.impacts backend actions)
      proposal := by
  have sound := sound_of_opened opened
  have follows := follows_turns sound backend actions
  obtain ⟨id, name, required, configs, same⟩ := opened_display opened
  have start : system.device.display.needsFullResend = Impact.due [] := same ▸ rfl
  have due := Display.needsFullResend_after sound.stacked (noted_of_opened opened) follows [] start
  have countedAfter := counted_run opened actions
  have notedAfter := noted_run opened actions
  rw [run_display] at asking countedAfter notedAfter ⊢
  have stackedAfter := Display.stacked_after sound.stacked follows
  have proposes := Display.proposes_of_propose (Display.beginValidate_eq_asking asking).2
  refine ⟨?_, ?_, ?_⟩
  · rw [Display.geometryChanged_iff stackedAfter countedAfter notedAfter proposes, due,
      List.nil_append, ← impacts_eq, Impact.due_iff, or_assoc]
  · intro prepare failed
    rw [Display.validateWith_failed asking failed]
    exact asking
  · intro calls next quiet later
    have proposesNext := Display.proposes_of_propose (Display.beginValidate_eq_asking later).2
    exact Display.geometryChanged_quiet stackedAfter proposes quiet proposesNext

/-- A layer is moved to the front after a validation, and back. -/
def restackRun : List Action :=
  [.createLayer ⟨1⟩, .ask (.device ⟨1⟩) .validate, .call (.device ⟨1⟩) (.edit ⟨1⟩ (.z 5)),
    .call (.device ⟨1⟩) (.edit ⟨1⟩ (.z 0))]

/-- The list that follows is the same as before, and is flagged. -/
theorem flagged_run_restacked :
    (onScript []).impacts .scripted restackRun
        = [.reshaping, .validation, .reshaping, .reshaping]
      ∧ ∃ proposal,
        ((onScript []).run .scripted restackRun).device.display.beginValidate = .asking proposal
        ∧ proposal.frame.geometryChanged = true
        ∧ ((onScript []).run .scripted restackRun).device.display.Tells
          ((onScript []).impacts .scripted restackRun) proposal :=
  ⟨rfl, _, rfl, rfl, flagged_run (opened_onScript []) restackRun rfl⟩

end System

end Scanout
