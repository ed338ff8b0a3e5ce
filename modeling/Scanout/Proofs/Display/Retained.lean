import Scanout.Proofs.Display.Stacking

/-!
# Layers that stay

Only the creation of a layer brings one, and only its destruction takes it away. All other calls
leave a display with the layers that it has (`retains_call`), and so do the backend's answers,
whatever has happened since the question (`retains_completed`).
-/

set_option autoImplicit false

namespace Scanout

namespace Display

/-- The same display with the same layers, which may have changed. -/
structure Retains (display after : Display) : Prop where
  id : after.id = display.id
  ids : after.ids = display.ids

namespace Retains

variable {display after : Display}

theorem refl (display : Display) : display.Retains display := ⟨rfl, rfl⟩

theorem trans {third : Display} (left : display.Retains after) (right : after.Retains third) :
    display.Retains third :=
  ⟨right.id.trans left.id, right.ids.trans left.ids⟩

theorem of_amends {relation : Layer → Layer → Prop} (amends : Amends relation display after) :
    display.Retains after := by
  refine ⟨?_, amends.ids⟩
  obtain ⟨layers, dirtyLayers, rfl⟩ := amends.confined
  rfl

end Retains

variable (display : Display)

theorem retains_putLayer (layer : Layer) : display.Retains (display.putLayer layer) :=
  ⟨rfl, display.ids_putLayer layer⟩

theorem retains_edited {display after : Display} {id : LayerId} (edited : display.Edited id after) :
    display.Retains after := by
  refine ⟨?_, ids_edited edited⟩
  cases edited <;> rfl

theorem retains_setZ (id : LayerId) (z : UInt32) : display.Retains (display.setZ id z).2 := by
  unfold setZ
  cases display.layer? id with
  | none => exact .refl display
  | some layer =>
      dsimp only
      split
      · exact .refl display
      · split
        · exact display.retains_putLayer _
        · exact ⟨rfl, display.ids_putLayer _⟩

theorem retains_edit (id : LayerId) (edit : LayerEdit) :
    display.Retains (display.edit id edit).2 := by
  cases edit with
  | z z => exact display.retains_setZ id z
  | composition composition => exact retains_edited (display.edited_setComposition id composition)
  | buffer buffer acquire => exact retains_edited (display.edited_setBuffer id buffer acquire)
  | surfaceDamage rects => exact retains_edited (display.edited_setSurfaceDamage id rects)
  | dataspace dataspace => exact retains_edited (display.edited_setDataspace id dataspace)
  | planeAlpha alpha => exact retains_edited (display.edited_setPlaneAlpha id alpha)
  | cursor x y => exact retains_edited (display.edited_setCursorPosition id x y)
  | _ => exact retains_edited (display.edited_setGeometry id _)

theorem retains_call (call : DisplayCall) : display.Retains (display.call call).2 := by
  cases call with
  | edit id edit => exact display.retains_edit id edit
  | clientTarget buffer acquire dataspace damage => exact ⟨rfl, rfl⟩
  | outputBuffer buffer release => exact ⟨rfl, rfl⟩
  | acceptChanges =>
      simp only [Display.call, acceptChanges]
      cases display.validated with
      | none => exact .refl display
      | some validation =>
          have amended :=
            Retains.of_amends (display.amends_foldl_acceptChange validation.typeChanges)
          exact ⟨amended.id, amended.ids⟩
  | colorMode mode =>
      simp only [Display.call, setColorMode]
      split
      · exact ⟨rfl, rfl⟩
      · exact .refl display

/-! ## Answers of the backend -/

/-- What an answer of the backend can do to a display. -/
inductive Completed (display : Display) : Display → Prop where
  | kept : Completed display display
  | decided (proposal : Proposal) (decisions : List Decision) :
      Completed display (display.decided proposal decisions)
  | delivered (fences : CommitFences) : Completed display (display.deliver fences)
  | switched (id : ConfigId) :
      Completed display (reshaped { display with activeConfigId := some id })
  | powered (mode : PowerMode) : Completed display { display with powerMode := mode }

/-- The question may be an old one, of which the display has lost sight. -/
theorem completed_complete {σ : Type} (backend : Backend σ) (question : Question) (state : σ) :
    display.Completed (display.complete backend question state).1.display := by
  cases question with
  | prepare proposal =>
      simp only [complete, Outcome.map]
      cases (backend.prepare proposal.frame state).1 with
      | error cause => exact .kept
      | ok decisions =>
          simp only [finishValidate]
          split
          · exact .decided proposal decisions
          · exact .kept
  | commit frame =>
      simp only [complete, Outcome.map]
      cases (backend.commit frame state).1 with
      | error cause => exact .kept
      | ok fences =>
          simp only [finishPresent]
          split
          · exact .delivered fences
          · exact .kept
  | activeConfig id index =>
      simp only [complete, Outcome.map]
      cases (backend.setActiveConfig index state).1 with
      | error cause => exact .kept
      | ok done => exact .switched id
  | powerMode mode =>
      simp only [complete, Outcome.map]
      cases (backend.setPowerMode mode state).1 with
      | error cause => exact .kept
      | ok done => exact .powered mode

variable {display : Display} {after : Display}

theorem retains_completed (completed : display.Completed after) : display.Retains after := by
  cases completed with
  | decided proposal decisions =>
      have amended := Retains.of_amends (display.amends_latchLayers proposal)
      exact ⟨amended.id, amended.ids⟩
  | delivered fences =>
      have amended :=
        Retains.of_amends (amends_foldl_pushReleaseFence (display.releaseShares fences) display)
      exact ⟨amended.id, amended.ids⟩
  | _ => exact ⟨rfl, rfl⟩

theorem stacked_completed (stacked : display.Stacked) (completed : display.Completed after) :
    after.Stacked := by
  cases completed with
  | decided proposal decisions =>
      exact (stacked.of_amends Layer.Alike.z (display.amends_latchLayers proposal)).of_eq rfl rfl
  | delivered fences =>
      exact (stacked.of_amends (fun restyled => restyled.alike.z)
        (amends_foldl_pushReleaseFence _ display)).of_eq rfl rfl
  | _ => exact stacked.of_eq rfl rfl

end Display

end Scanout
