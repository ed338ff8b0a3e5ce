import Scanout.Proofs.Display.Stacking

/-!
# Calls of a display that fail

A call fails before it has done anything, after it has asked the backend or, when a layer is moved,
after the layer's new Z key has been written. `Spares` says of a call's outcome that the display is
as it was if the call has failed. All outcomes do, on a display whose order is that of its layers:
there the last of these points is never reached.
-/

set_option autoImplicit false

namespace Scanout

namespace Display

/-- If the call has failed, the display is as it was. -/
def Spares {answer : Type} (display : Display) (outcome : Except Error answer × Display) : Prop :=
  ∀ cause, outcome.1 = .error cause → outcome.2 = display

variable {answer answer' : Type} {display : Display}

theorem spares_self (result : Except Error answer) : display.Spares (result, display) :=
  fun _ _ => rfl

theorem spares_ok (value : answer) (after : Display) : display.Spares (.ok value, after) := by
  intro cause failed
  cases failed

theorem Spares.map {outcome : Except Error answer × Display} (spares : display.Spares outcome)
    (tell : answer → answer') : display.Spares (outcome.1.map tell, outcome.2) := by
  intro cause failed
  obtain ⟨result, after⟩ := outcome
  cases result with
  | error earlier => exact spares earlier rfl
  | ok value => cases failed

/-! ## Calls without the backend -/

theorem spares_removeLayer (display : Display) (id : LayerId) :
    display.Spares (display.removeLayer id) := by
  unfold removeLayer
  split
  · exact spares_self _
  · exact spares_ok _ _

/-- Where the order holds the layer, moving it does not fail half-way. -/
theorem spares_setZ {id : LayerId}
    (held : ∀ layer, display.layer? id = some layer → display.order.holds layer.z id = true)
    (z : UInt32) : display.Spares (display.setZ id z) := by
  unfold setZ
  cases found : display.layer? id with
  | none => exact spares_self _
  | some layer =>
      dsimp only
      split
      · exact spares_self _
      · have moved : (display.putLayer { layer with z := z }).order.move? id layer.z z
            = some ((display.order.remove layer.z id).insert z id) :=
          if_pos (held layer found)
        rw [moved]
        exact spares_ok _ _

theorem spares_setComposition (display : Display) (id : LayerId) (composition : Composition) :
    display.Spares (display.setComposition id composition) := by
  unfold setComposition
  split
  · exact spares_self _
  · split
    · exact spares_self _
    · exact spares_ok _ _

theorem spares_setBuffer (display : Display) (id : LayerId) (buffer : Option BufferHandle)
    (acquire : Fence) : display.Spares (display.setBuffer id buffer acquire) := by
  unfold setBuffer
  split
  · exact spares_self _
  · exact spares_ok _ _

theorem spares_setSurfaceDamage (display : Display) (id : LayerId) (rects : List Rect) :
    display.Spares (display.setSurfaceDamage id rects) := by
  unfold setSurfaceDamage
  split
  · exact spares_self _
  · exact spares_ok _ _

theorem spares_setDataspace (display : Display) (id : LayerId) (dataspace : Dataspace) :
    display.Spares (display.setDataspace id dataspace) := by
  unfold setDataspace
  split
  · exact spares_self _
  · dsimp only
    split <;> exact spares_ok _ _

theorem spares_setGeometry (display : Display) (id : LayerId)
    (update : LayerGeometry → LayerGeometry) :
    display.Spares (display.setGeometry id update) := by
  unfold setGeometry
  split
  · exact spares_self _
  · dsimp only
    split <;> exact spares_ok _ _

theorem spares_setPlaneAlpha (display : Display) (id : LayerId) (alpha : Float32) :
    display.Spares (display.setPlaneAlpha id alpha) := by
  unfold setPlaneAlpha
  split
  · exact display.spares_setGeometry id _
  · exact spares_self _

theorem spares_setCursorPosition (display : Display) (id : LayerId) (x y : Float) :
    display.Spares (display.setCursorPosition id x y) := by
  unfold setCursorPosition
  split
  · exact spares_self _
  · split
    · exact spares_self _
    · split
      · exact spares_ok _ _
      · exact spares_self _

theorem spares_edit {id : LayerId}
    (held : ∀ layer, display.layer? id = some layer → display.order.holds layer.z id = true)
    (edit : LayerEdit) : display.Spares (display.edit id edit) := by
  cases edit with
  | z z => exact (spares_setZ held z).map _
  | composition composition => exact (display.spares_setComposition id composition).map _
  | buffer buffer acquire => exact (display.spares_setBuffer id buffer acquire).map _
  | surfaceDamage rects => exact (display.spares_setSurfaceDamage id rects).map _
  | dataspace dataspace => exact (display.spares_setDataspace id dataspace).map _
  | planeAlpha alpha => exact (display.spares_setPlaneAlpha id alpha).map _
  | cursor x y => exact (display.spares_setCursorPosition id x y).map _
  | displayFrame rect => exact (display.spares_setGeometry id _).map _
  | sourceCrop rect => exact (display.spares_setGeometry id _).map _
  | blend mode => exact (display.spares_setGeometry id _).map _
  | transform transform => exact (display.spares_setGeometry id _).map _
  | color color => exact (display.spares_setGeometry id _).map _

theorem spares_acceptChanges (display : Display) : display.Spares display.acceptChanges := by
  unfold acceptChanges
  split
  · exact spares_self _
  · exact spares_ok _ _

theorem spares_setColorMode (display : Display) (mode : ColorMode) :
    display.Spares (display.setColorMode mode) := by
  unfold setColorMode
  split
  · exact spares_ok _ _
  · exact spares_self _

theorem spares_call (stacked : display.Stacked) (call : DisplayCall) :
    display.Spares (display.call call) := by
  cases call with
  | edit id edit => exact (spares_edit (fun _ found => stacked.held found) edit).map _
  | clientTarget buffer acquire dataspace damage => exact spares_ok _ _
  | outputBuffer buffer release => exact spares_ok _ _
  | acceptChanges => exact display.spares_acceptChanges.map _
  | colorMode mode => exact (display.spares_setColorMode mode).map _

/-! ## Calls that ask the backend

The first half leaves the display alone in any case. The second half has the backend's answer: an
error, the wrong number of decisions or fences, or what was asked for. -/

theorem spares_finishValidate (display : Display) (proposal : Proposal)
    (reply : Except BackendError (List Decision)) :
    display.Spares ((display.finishValidate proposal reply).result,
      (display.finishValidate proposal reply).display) := by
  cases reply with
  | error cause => exact spares_self _
  | ok decisions =>
      unfold finishValidate
      dsimp only
      split
      · exact spares_ok _ _
      · exact spares_self _

theorem spares_finishPresent (display : Display) (frame : Frame)
    (reply : Except BackendError CommitFences) :
    display.Spares ((display.finishPresent frame reply).result,
      (display.finishPresent frame reply).display) := by
  cases reply with
  | error cause => exact spares_self _
  | ok fences =>
      unfold finishPresent
      dsimp only
      split
      · exact spares_ok _ _
      · exact spares_self _

theorem spares_finishSetActiveConfig (display : Display) (id : ConfigId)
    (reply : Except BackendError Unit) :
    display.Spares ((display.finishSetActiveConfig id reply).result,
      (display.finishSetActiveConfig id reply).display) := by
  cases reply with
  | error cause => exact spares_self _
  | ok done => exact spares_ok _ _

theorem spares_finishSetPowerMode (display : Display) (mode : PowerMode)
    (reply : Except BackendError Unit) :
    display.Spares ((display.finishSetPowerMode mode reply).result,
      (display.finishSetPowerMode mode reply).display) := by
  cases reply with
  | error cause => exact spares_self _
  | ok done => exact spares_ok _ _

variable {σ : Type}

theorem spares_complete (display : Display) (backend : Backend σ) (question : Question)
    (state : σ) :
    display.Spares ((display.complete backend question state).1.result,
      (display.complete backend question state).1.display) := by
  cases question with
  | prepare proposal => exact (display.spares_finishValidate proposal _).map _
  | commit frame => exact (display.spares_finishPresent frame _).map _
  | activeConfig id index => exact (display.spares_finishSetActiveConfig id _).map _
  | powerMode mode => exact (display.spares_finishSetPowerMode mode _).map _

theorem spares_run (display : Display) (backend : Backend σ) (call : BackendCall) (state : σ) :
    display.Spares ((display.run backend call state).1.result,
      (display.run backend call state).1.display) := by
  unfold run
  split
  · exact spares_self _
  · exact display.spares_complete backend _ state

end Display

end Scanout
