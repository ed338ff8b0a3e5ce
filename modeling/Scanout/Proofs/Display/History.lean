import Scanout.Proofs.Device.Opened

/-!
# The protocol's state and its history

`Display.state` is read off a record that many calls write, clear, empty or leave alone. Here the
same state is read off the history of the display: what clients and backend have done, seen from
outside. A *deed* sums up one turn; `verdict` looks back to the last effective mutation and, since
then, to the latest validation and to the acceptances after it.

`outstanding?_turn` says what each deed does to the record. From it follows that the record is what
is outstanding after a whole history (`outstanding?_after`).
-/

set_option autoImplicit false

namespace Scanout

/-! ## Deeds -/

/-- The geometry that an edit of a layer's geometry asks for, unless it is refused. -/
def LayerEdit.geometry? (geometry : LayerGeometry) : LayerEdit → Option LayerGeometry
  | .displayFrame rect => some { geometry with displayFrame := rect }
  | .sourceCrop rect => some { geometry with sourceCrop := rect }
  | .planeAlpha alpha =>
    if 0.0 ≤ alpha ∧ alpha ≤ 1.0 then some { geometry with planeAlpha := alpha } else none
  | .blend mode => some { geometry with blend := mode }
  | .transform turned => some { geometry with transform := turned }
  | .color filling => some { geometry with color := filling }
  | _ => none

/-- An edit of this layer is a change that a validated frame cannot hold. -/
def LayerEdit.isEffectiveOn (layer : Layer) : LayerEdit → Bool
  | .z key => key != layer.z
  | .composition asked => asked != layer.pending
  | .buffer _ _ => true
  | .surfaceDamage _ => false
  | .dataspace space => space.isSupported != layer.dataspace.isSupported
  | .cursor _ _ => false
  | edit =>
    match edit.geometry? layer.geometry with
    | none => false
    | some geometry => geometry != layer.geometry

/-- What a turn means for the state of the protocol. -/
inductive Deed where
  | mutation
  /-- A validation that has succeeded, with the number of overrides that it reports. -/
  | validated (typeChanges : Nat)
  | accepted
  | other
  deriving DecidableEq

namespace Display

def isMutation (display : Display) (id : LayerId) (edit : LayerEdit) : Bool :=
  match display.layer? id with
  | none => false
  | some layer => edit.isEffectiveOn layer

def deed (display : Display) : Turn → Deed
  | .addLayer _ => .mutation
  | .removeLayer id => if (display.layer? id).isSome then .mutation else .other
  | .call (.edit id edit) => if display.isMutation id edit then .mutation else .other
  | .call .acceptChanges =>
    match display.acceptChanges.1 with
    | .error _ => .other
    | .ok _ => .accepted
  | .validate prepare =>
    match (display.validateWith prepare).1 with
    | .error _ => .other
    | .ok summary => .validated summary.typeChanges
  | .switchConfig _ answer => if answer.isOk then .mutation else .other
  | _ => .other

def deeds (display : Display) : List Turn → List Deed
  | [] => []
  | turn :: rest => display.deed turn :: (display.turn turn).2.deeds rest

end Display

/-! ## The verdict of a history -/

namespace Deed

def isMutation : Deed → Bool
  | mutation => true
  | _ => false

def isValidation : Deed → Bool
  | validated _ => true
  | _ => false

/-- The overrides that a validation reports. -/
def typeChanges? : Deed → Option Nat
  | validated typeChanges => some typeChanges
  | _ => none

/-- The deeds since the last mutation, latest first. -/
def recent (deeds : List Deed) : List Deed := deeds.reverse.takeWhile fun deed => !deed.isMutation

/-- An acceptance comes after the latest validation, in a history with the latest deed first. -/
def acceptedSince (recent : List Deed) : Bool :=
  (recent.takeWhile fun deed => !deed.isValidation).contains accepted

/-- The state of the protocol after a history, oldest deed first. -/
def verdict (deeds : List Deed) : DisplayState :=
  match (recent deeds).findSome? typeChanges? with
  | none => .modified
  | some typeChanges =>
    if 0 < typeChanges ∧ ¬acceptedSince (recent deeds) then .validatedWithChanges
    else .validatedNoChanges

/-- The number of overrides that wait to be accepted after a history, if it ends validated. -/
def outstanding? (deeds : List Deed) : Option Nat :=
  ((recent deeds).findSome? typeChanges?).map fun typeChanges =>
    if acceptedSince (recent deeds) then 0 else typeChanges

/-- What a deed does to the number of overrides that wait. -/
def settle (outstanding : Option Nat) : Deed → Option Nat
  | mutation => none
  | validated typeChanges => some typeChanges
  | accepted => outstanding.map fun _ => 0
  | other => outstanding

theorem recent_append (deeds : List Deed) (deed : Deed) :
    recent (deeds ++ [deed]) = if deed.isMutation then [] else deed :: recent deeds := by
  simp only [recent, List.reverse_append, List.reverse_singleton, List.singleton_append,
    List.takeWhile_cons]
  cases deed.isMutation <;> rfl

theorem outstanding?_append (deeds : List Deed) (deed : Deed) :
    outstanding? (deeds ++ [deed]) = settle (outstanding? deeds) deed := by
  unfold outstanding?
  rw [recent_append]
  cases deed with
  | mutation => rfl
  | validated typeChanges =>
      simp [isMutation, typeChanges?, acceptedSince, isValidation, settle, List.findSome?_cons]
  | accepted =>
      cases latest : (recent deeds).findSome? typeChanges?
        <;> simp [isMutation, typeChanges?, acceptedSince, isValidation, settle,
          List.findSome?_cons, latest]
  | other =>
      cases latest : (recent deeds).findSome? typeChanges?
        <;> simp [isMutation, typeChanges?, acceptedSince, isValidation, settle,
          List.findSome?_cons, latest]

theorem verdict_eq (deeds : List Deed) :
    verdict deeds
      = match outstanding? deeds with
        | none => .modified
        | some outstanding =>
          if outstanding = 0 then .validatedNoChanges else .validatedWithChanges := by
  unfold verdict outstanding?
  cases (recent deeds).findSome? typeChanges? with
  | none => rfl
  | some typeChanges =>
      simp only [Option.map_some]
      by_cases since : acceptedSince (recent deeds) = true
      · simp [since]
      · by_cases zero : typeChanges = 0
        · simp [since, zero]
        · simp [since, zero, Nat.pos_of_ne_zero zero]

end Deed

/-! ## What a turn does to the record -/

namespace Display

/-- The number of overrides that wait to be accepted, on a validated display. -/
def outstanding? (display : Display) : Option Nat :=
  display.validated.map (·.typeChanges.length)

theorem state_eq (display : Display) :
    display.state
      = match display.outstanding? with
        | none => .modified
        | some outstanding =>
          if outstanding = 0 then .validatedNoChanges else .validatedWithChanges := by
  unfold state outstanding?
  cases display.validated with
  | none => rfl
  | some validation =>
      obtain ⟨typeChanges, requests, proposal⟩ := validation
      cases typeChanges <;> rfl

variable {display : Display}

theorem isMutation_of_none {id : LayerId} (missing : display.layer? id = none)
    (edit : LayerEdit) : display.isMutation id edit = false := by
  simp only [isMutation, missing]

theorem isMutation_of_some {id : LayerId} {layer : Layer}
    (found : display.layer? id = some layer) (edit : LayerEdit) :
    display.isMutation id edit = edit.isEffectiveOn layer := by
  simp only [isMutation, found]

theorem validated_setZ (stacked : display.Stacked) (id : LayerId) (z : UInt32) :
    (display.setZ id z).2.validated
      = if display.isMutation id (.z z) then none else display.validated := by
  unfold setZ isMutation
  cases found : display.layer? id with
  | none => rfl
  | some layer =>
      by_cases same : layer.z = z
      · simp [LayerEdit.isEffectiveOn, same]
      · have moved : (display.putLayer { layer with z := z }).order.move? id layer.z z
            = some ((display.order.remove layer.z id).insert z id) :=
          if_pos (stacked.held found)
        have effective : (z != layer.z) = true := by simpa using Ne.symm same
        simp only [same, if_false, moved, LayerEdit.isEffectiveOn, effective, if_true]
        rfl

theorem validated_setComposition (display : Display) (id : LayerId)
    (composition : Composition) :
    (display.setComposition id composition).2.validated
      = if display.isMutation id (.composition composition) then none else display.validated := by
  unfold setComposition isMutation
  cases found : display.layer? id with
  | none => rfl
  | some layer =>
      by_cases same : layer.pending = composition
      · simp [LayerEdit.isEffectiveOn, same]
      · have effective : (composition != layer.pending) = true := by simpa using Ne.symm same
        simp only [same, if_false, LayerEdit.isEffectiveOn, effective, if_true]
        rfl

theorem validated_setDataspace (display : Display) (id : LayerId) (dataspace : Dataspace) :
    (display.setDataspace id dataspace).2.validated
      = if display.isMutation id (.dataspace dataspace) then none else display.validated := by
  unfold setDataspace
  cases found : display.layer? id with
  | none => rw [isMutation_of_none found]; rfl
  | some layer =>
      rw [isMutation_of_some found]
      by_cases same : dataspace.isSupported = layer.dataspace.isSupported
      · simp [LayerEdit.isEffectiveOn, Layer.isUnsupported, same, putLayer]
      · simp [LayerEdit.isEffectiveOn, Layer.isUnsupported, same, Ne.symm same, reshaped]

/-- All setters of a geometry compare what they put in with what was there. -/
theorem validated_setGeometry (display : Display) (id : LayerId)
    (update : LayerGeometry → LayerGeometry) :
    (display.setGeometry id update).2.validated
      = if (display.layer? id).any fun layer => update layer.geometry != layer.geometry then none
        else display.validated := by
  unfold setGeometry
  cases found : display.layer? id with
  | none => rfl
  | some layer =>
      simp only [Option.any_some]
      split <;> rfl

theorem isMutation_geometry {id : LayerId} {edit : LayerEdit}
    (update : LayerGeometry → LayerGeometry)
    (effective : ∀ layer, edit.isEffectiveOn layer
      = (update layer.geometry != layer.geometry)) :
    display.isMutation id edit
      = (display.layer? id).any fun layer => update layer.geometry != layer.geometry := by
  unfold isMutation
  cases display.layer? id with
  | none => rfl
  | some layer => exact effective layer

theorem validated_setPlaneAlpha (display : Display) (id : LayerId) (alpha : Float32) :
    (display.setPlaneAlpha id alpha).2.validated
      = if display.isMutation id (.planeAlpha alpha) then none else display.validated := by
  unfold setPlaneAlpha
  by_cases inRange : 0.0 ≤ alpha ∧ alpha ≤ 1.0
  · let update (geometry : LayerGeometry) := { geometry with planeAlpha := alpha }
    have effective : ∀ layer : Layer, (LayerEdit.planeAlpha alpha).isEffectiveOn layer
        = (update layer.geometry != layer.geometry) := by
      intro layer
      simp only [LayerEdit.isEffectiveOn, LayerEdit.geometry?, inRange, and_self, if_true, update]
    rw [if_pos inRange, validated_setGeometry, isMutation_geometry update effective]
  · have refused : display.isMutation id (.planeAlpha alpha) = false := by
      cases found : display.layer? id with
      | none => exact isMutation_of_none found _
      | some layer =>
          rw [isMutation_of_some found]
          simp only [LayerEdit.isEffectiveOn, LayerEdit.geometry?, inRange, if_false]
    rw [if_neg inRange, refused]
    rfl

theorem validated_setCursorPosition (display : Display) (id : LayerId) (x y : Float) :
    (display.setCursorPosition id x y).2.validated = display.validated := by
  unfold setCursorPosition
  split
  · rfl
  · split
    · rfl
    · split <;> rfl

/-- An edit drops the record exactly if it is an effective mutation. -/
theorem validated_edit (stacked : display.Stacked) (id : LayerId) (edit : LayerEdit) :
    (display.edit id edit).2.validated
      = if display.isMutation id edit then none else display.validated := by
  have geometry : ∀ update : LayerGeometry → LayerGeometry,
      (∀ layer, edit.isEffectiveOn layer = (update layer.geometry != layer.geometry)) →
      (display.setGeometry id update).2.validated
        = if display.isMutation id edit then none else display.validated := by
    intro update effective
    rw [validated_setGeometry, isMutation_geometry update effective]
  cases edit with
  | z z => exact validated_setZ stacked id z
  | composition composition => exact display.validated_setComposition id composition
  | buffer buffer acquire =>
      simp only [edit, setBuffer]
      cases found : display.layer? id with
      | none => rw [isMutation_of_none found]; rfl
      | some layer => rw [isMutation_of_some found]; rfl
  | surfaceDamage rects =>
      simp only [edit, editDone, setSurfaceDamage]
      cases found : display.layer? id with
      | none => rw [isMutation_of_none found]; rfl
      | some layer => rw [isMutation_of_some found]; rfl
  | dataspace dataspace => exact display.validated_setDataspace id dataspace
  | planeAlpha alpha => exact display.validated_setPlaneAlpha id alpha
  | cursor x y =>
      have kept : display.isMutation id (.cursor x y) = false := by
        cases found : display.layer? id with
        | none => exact isMutation_of_none found _
        | some layer => rw [isMutation_of_some found]; rfl
      rw [kept]
      exact display.validated_setCursorPosition id x y
  | displayFrame rect => exact geometry _ fun _ => rfl
  | sourceCrop rect => exact geometry _ fun _ => rfl
  | blend mode => exact geometry _ fun _ => rfl
  | transform transform => exact geometry _ fun _ => rfl
  | color color => exact geometry _ fun _ => rfl

theorem outstanding?_validate (display : Display)
    (prepare : Frame → Except BackendError (List Decision)) :
    (display.validateWith prepare).2.outstanding?
      = Deed.settle display.outstanding? (display.deed (.validate prepare)) := by
  simp only [deed, validateWith]
  cases begun : display.beginValidate with
  | finished result notices =>
      unfold beginValidate at begun
      cases record : display.validated with
      | some validation =>
          -- a validated display reports its validation again, less what is accepted
          simp only [record, Begun.finished.injEq] at begun
          rw [← begun.1]
          simp only [outstanding?, record, Deed.settle, Validation.summary, Option.map_some]
      | none =>
          cases proposed : display.propose with
          | error cause =>
              simp only [record, proposed, Begun.finished.injEq] at begun
              rw [← begun.1]
              rfl
          | ok proposal => simp [record, proposed] at begun
  | asking proposal =>
      cases answer : prepare proposal.frame with
      | error cause => simp only [answer, finishValidate, failed, Deed.settle]
      | ok decisions =>
          simp only [answer, finishValidate]
          split <;> rfl

/-- What a turn means is what it does to the record. -/
theorem outstanding?_turn (stacked : display.Stacked) (turn : Turn) :
    (display.turn turn).2.outstanding?
      = Deed.settle display.outstanding? (display.deed turn) := by
  cases turn with
  | idle => rfl
  | addLayer id => rfl
  | removeLayer id =>
      simp only [Display.turn, deed]
      cases found : display.layer? id with
      | none => simp only [removeLayer, found, Option.isSome_none, Deed.settle]; rfl
      | some layer => rw [removeLayer_eq found]; rfl
  | call call =>
      cases call with
      | edit id edit =>
          simp only [Display.turn, Display.call, deed, outstanding?, validated_edit stacked]
          cases display.isMutation id edit <;> rfl
      | acceptChanges =>
          simp only [Display.turn, Display.call, deed, acceptChanges]
          cases record : display.validated with
          | none => rfl
          | some validation => simp [outstanding?, record, Deed.settle]
      | clientTarget buffer acquire dataspace damage => rfl
      | outputBuffer buffer release => rfl
      | colorMode mode =>
          simp only [Display.turn, Display.call, deed, setColorMode]
          split <;> rfl
  | validate prepare => exact display.outstanding?_validate prepare
  | present commit =>
      simp only [Display.turn, presentWith, deed, Deed.settle]
      cases display.beginPresent with
      | finished result notices => rfl
      | asking frame =>
          cases answer : commit frame with
          | error cause => simp only [answer, finishPresent, failed]
          | ok fences =>
              simp only [answer, finishPresent]
              split
              · exact congrArg (Option.map _)
                  (amends_foldl_pushReleaseFence _ display).validated
              · rfl
  | switchConfig id answer => cases answer <;> rfl
  | switchPower mode answer => cases answer <;> rfl

/-- After a whole history, the record is what the deeds leave outstanding. -/
theorem outstanding?_after {display : Display} (stacked : display.Stacked) {turns : List Turn}
    (follows : display.Follows turns) (past : List Deed)
    (known : display.outstanding? = Deed.outstanding? past) :
    (display.after turns).outstanding? = Deed.outstanding? (past ++ display.deeds turns) := by
  induction turns generalizing display past with
  | nil => simpa [after, deeds] using known
  | cons turn rest ih =>
      obtain ⟨fresh, follows⟩ := follows
      have step : (display.turn turn).2.outstanding?
          = Deed.outstanding? (past ++ [display.deed turn]) := by
        rw [outstanding?_turn stacked, known, Deed.outstanding?_append]
      have later := ih (stacked_turn stacked fresh) follows _ step
      simpa [after, deeds] using later

end Display

namespace System

variable {σ : Type}

/-- What a run of a device means for the protocol of its display, oldest deed first. -/
def deeds (backend : Backend σ) (system : System σ) : List Action → List Deed
  | [] => []
  | action :: rest =>
    system.device.display.deed (system.turn backend action)
      :: deeds backend (system.step backend action) rest

theorem deeds_eq (backend : Backend σ) (system : System σ) (actions : List Action) :
    system.deeds backend actions
      = system.device.display.deeds (system.turns backend actions) := by
  induction actions generalizing system with
  | nil => rfl
  | cons action rest ih =>
      simp only [deeds, turns, Display.deeds, ih]
      rw [step_display]

/-- In every run of an opened device, the state of the protocol is the verdict of its history. -/
theorem state_run {backend : Backend σ} {system : System σ} (opened : system.Opened backend)
    (actions : List Action) :
    (system.run backend actions).device.display.state
      = Deed.verdict (system.deeds backend actions) := by
  have sound := sound_of_opened opened
  have start : system.device.display.outstanding? = Deed.outstanding? [] := by
    obtain ⟨id, name, required, configs, same⟩ := opened_display opened
    rw [same]
    rfl
  have record := Display.outstanding?_after sound.stacked
    (follows_turns sound backend actions) [] start
  rw [run_display, Display.state_eq, record, List.nil_append, deeds_eq, Deed.verdict_eq]

/-- A layer asks for the hardware and is forced back to the client, which has not accepted it yet. -/
theorem state_run_forced :
    (onScript [(0, .framebuffer)]).Opened .scripted
      ∧ ((onScript [(0, .framebuffer)]).run .scripted
          [.createLayer ⟨1⟩, .call (.device ⟨1⟩) (.edit ⟨1⟩ (.composition .device)),
            .ask (.device ⟨1⟩) .validate]).device.display.state = .validatedWithChanges :=
  ⟨opened_onScript _, (state_run (opened_onScript _) _).trans (by rfl)⟩

end System

end Scanout
