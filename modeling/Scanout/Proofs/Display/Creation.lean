import Scanout.Proofs.Display.Overrides

/-!
# Stacking by key and by creation

Every layer's Z key is kept twice, in the layer and in the stacking order, and three calls have to
change both. `Display.StackedBy` says that the copies never part and what the order looks like from
outside: each layer once, by Z key, and layers of one key as they were created. A run's own record
of creations, `System.created`, stands in for the layers' numbers, which no client chooses.

The order of a display is determined by the keys of its layers (`Display.layersInOrder_eq_of_keys`),
so it does not matter which moves led there.
-/

set_option autoImplicit false

namespace Scanout

/-- The first layer was created before the second. -/
def CreatedBefore (created : List LayerId) (earlier later : LayerId) : Prop :=
  [earlier, later].Sublist created

/-- These are the layers of a display back to front: by Z key and, at one key, as created. -/
structure Display.StackedAs (display : Display) (created : List LayerId)
    (layers : List Layer) : Prop where
  perm : layers.Perm display.layers
  sorted : layers.Pairwise fun behind front =>
    behind.z < front.z ∨ behind.z = front.z ∧ CreatedBefore created behind.id front.id
  listed : display.layersInOrder = layers.map (·.id)
  proposed : ∀ proposal, display.beginValidate = .asking proposal →
    proposal.layers.map (·.1) = display.layersInOrder
      ∧ proposal.frame.slots = layers.map Layer.slot ++ [proposal.target]

/-- What holds of a display's order, with the layers in order of creation. -/
structure Display.StackedBy (display : Display) (created : List LayerId) : Prop where
  once : created.Nodup
  live : display.ids.Sublist created
  /-- One entry for each layer with its Z key, and none besides. -/
  entries : display.order.entries.Perm (display.layers.map fun layer => ⟨layer.z, layer.id⟩)
  stacked : ∃ layers, display.StackedAs created layers
  /-- A move never misses its entry. -/
  moves : ∀ {id : LayerId} {layer : Layer}, display.layer? id = some layer → ∀ z,
    (display.order.move? id layer.z z).isSome ∧ (display.setZ id z).1 = .ok ()
  /-- No list of layers has a gap. -/
  found : ∀ id ∈ display.layersInOrder, (display.layer? id).isSome
  retained : ∀ validation, display.validated = some validation →
    validation.proposal.layers.map (·.1) = display.layersInOrder

/-! ## Creations -/

/-- A list with rising numbers has every two of its layers in the order of their numbers. -/
theorem createdBefore_of_lt {created : List LayerId}
    (rising : created.Pairwise fun earlier later => earlier.number.toNat < later.number.toNat)
    {earlier later : LayerId} (there : earlier ∈ created) (thereToo : later ∈ created)
    (less : earlier.number.toNat < later.number.toNat) : CreatedBefore created earlier later := by
  induction rising with
  | nil => cases there
  | @cons first rest before _ ih =>
      rcases List.mem_cons.mp there with rfl | inRest
      · rcases List.mem_cons.mp thereToo with rfl | inRestToo
        · omega
        · exact (List.singleton_sublist.mpr inRestToo).cons_cons earlier
      · rcases List.mem_cons.mp thereToo with rfl | inRestToo
        · have behind := before earlier inRest
          omega
        · exact (ih inRest inRestToo).cons first

namespace System

variable {σ : Type} {backend : Backend σ} {system : System σ}

/-- The layers that a run creates, one after the other. -/
def created (backend : Backend σ) (system : System σ) (actions : List Action) : List LayerId :=
  (system.turns backend actions).filterMap Turn.added?

/-- The layers were created in this order and have numbers that the device has handed out. -/
structure Numbered (system : System σ) (created : List LayerId) : Prop where
  live : system.device.display.ids.Sublist created
  rising : created.Pairwise fun earlier later => earlier.number.toNat < later.number.toNat
  below : ∀ id ∈ created, id.number.toNat < system.device.layerNumbers.next.toNat

theorem numbered_step (sound : system.Sound) {created : List LayerId}
    (numbered : system.Numbered created) (action : Action) :
    (system.step backend action).Numbered
      (created ++ (system.turn backend action).added?.toList) := by
  obtain ⟨grown, added⟩ := numbers_step backend system action
  have turned := Display.turned_turn sound.stacked.held (system.turn backend action)
  have new : ∀ id ∈ (system.turn backend action).added?.toList,
      id.number = system.device.layerNumbers.next
        ∧ id.number.toNat < (system.step backend action).device.layerNumbers.next.toNat := by
    intro id member
    exact added id (Turn.added?_eq_some_iff.mp (Option.mem_toList.mp member))
  -- a new number lies above all that were handed out, whether their layers are still there or not
  refine ⟨?_, ?_, ?_⟩
  · rw [step_display]
    exact (Display.ids_turned turned).trans (numbered.live.append_right _)
  · refine List.pairwise_append.mpr ⟨numbered.rising, ?_, ?_⟩
    · cases (system.turn backend action).added? with
      | none => exact List.Pairwise.nil
      | some id => exact List.pairwise_singleton _ id
    · intro earlier there later member
      rw [(new later member).1]
      exact numbered.below earlier there
  · intro id member
    rcases List.mem_append.mp member with old | member
    · exact Nat.lt_of_lt_of_le (numbered.below id old) grown
    · exact (new id member).2

theorem numbered_run (sound : system.Sound) {past : List LayerId}
    (numbered : system.Numbered past) (actions : List Action) :
    (system.run backend actions).Numbered (past ++ system.created backend actions) := by
  induction actions generalizing system past with
  | nil => simpa [created, turns, run] using numbered
  | cons action rest ih =>
      have later := ih (sound_step sound backend action) (numbered_step sound numbered action)
      have first : system.created backend (action :: rest)
          = (system.turn backend action).added?.toList
            ++ (system.step backend action).created backend rest := by
        simp only [created, turns, List.filterMap_cons]
        cases (system.turn backend action).added? <;> rfl
      rw [first, ← List.append_assoc]
      exact later

end System

/-! ## The order seen from outside -/

namespace Display

variable {display : Display}

theorem setZ_ok (stacked : display.Stacked) {id : LayerId} {layer : Layer}
    (found : display.layer? id = some layer) (z : UInt32) :
    (display.order.move? id layer.z z).isSome ∧ (display.setZ id z).1 = .ok () := by
  have moved : display.order.move? id layer.z z
      = some ((display.order.remove layer.z id).insert z id) := if_pos (stacked.held found)
  have movedAfter : (display.putLayer { layer with z := z }).order.move? id layer.z z
      = some ((display.order.remove layer.z id).insert z id) := moved
  refine ⟨by simp [moved], ?_⟩
  unfold setZ
  rw [found]
  dsimp only
  split
  · rfl
  · rw [movedAfter]

theorem stackedAs_stack (stacked : display.Stacked) {created : List LayerId}
    (live : display.ids.Sublist created)
    (rising : created.Pairwise fun earlier later =>
      earlier.number.toNat < later.number.toNat) :
    display.StackedAs created display.stack where
  perm := (backToFront_stack stacked).perm
  sorted := by
    have known : ∀ layer ∈ display.stack, layer.id ∈ created := by
      intro layer member
      have there := (backToFront_stack stacked).perm.mem_iff.mp member
      exact live.subset (List.mem_map_of_mem there)
    refine (backToFront_stack stacked).sorted.imp_of_mem ?_
    intro behind front memberBehind memberFront before
    rcases before with lower | ⟨same, less⟩
    · exact Or.inl lower
    · have less : behind.id.number.toNat < front.id.number.toNat :=
        UInt64.lt_iff_toNat_lt.mp less
      exact Or.inr ⟨same, createdBefore_of_lt rising (known behind memberBehind)
        (known front memberFront) less⟩
  listed := (stack_ids stacked).symm
  proposed := by
    intro proposal asking
    have proposes := proposes_of_propose (beginValidate_eq_asking asking).2
    refine ⟨proposes.ids stacked, ?_⟩
    simp only [Proposal.frame, proposes.layers, List.map_map]
    rfl

end Display

namespace System

variable {σ : Type} {backend : Backend σ} {system : System σ}

theorem numbered_of_opened (opened : system.Opened backend) (actions : List Action) :
    (system.run backend actions).Numbered (system.created backend actions) := by
  have start : system.Numbered [] := by
    obtain ⟨id, name, required, configs, same⟩ := opened_display opened
    refine ⟨?_, List.Pairwise.nil, ?_⟩
    · rw [same]
      exact List.Sublist.refl _
    · intro id member
      cases member
  exact numbered_run (sound_of_opened opened) start actions

theorem stackedBy_run (opened : system.Opened backend) (actions : List Action) :
    (system.run backend actions).device.display.StackedBy (system.created backend actions) := by
  obtain ⟨stacked, remembered⟩ := remembered_run opened actions
  obtain ⟨live, rising, _⟩ := numbered_of_opened opened actions
  refine {
    once := rising.imp fun less same => absurd (congrArg (·.number.toNat) same) (Nat.ne_of_lt less)
    live := live
    entries := Display.entries_perm stacked
    stacked := ⟨_, Display.stackedAs_stack stacked live rising⟩
    moves := fun found z => Display.setZ_ok stacked found z
    found := ?_
    retained := ?_ }
  · intro id member
    obtain ⟨layer, found⟩ := (Display.mem_layersInOrder_iff stacked).mp member
    rw [found]
    rfl
  · intro validation validated
    obtain ⟨negotiation, _, agreed⟩ := remembered.agreed validation validated
    exact agreed.slotIds

/-- In every run the stacking order has one entry for each layer, with its key; the layers and the
slots of every proposed frame lie by key and, at one key, as they were created; and of two runs that
end with the same layers at the same keys, whatever moves they made, the orders are the same. -/
theorem stacking_run (opened : system.Opened backend) (actions : List Action) :
    (system.run backend actions).device.display.StackedBy (system.created backend actions)
      ∧ ∀ {τ : Type} {other : Backend τ} {start : System τ}, start.Opened other →
        ∀ moves : List Action,
          (∀ id, ((start.run other moves).device.display.layer? id).map (·.z)
            = ((system.run backend actions).device.display.layer? id).map (·.z)) →
          (start.run other moves).device.display.layersInOrder
            = (system.run backend actions).device.display.layersInOrder := by
  refine ⟨stackedBy_run opened actions, ?_⟩
  intro τ other start openedToo moves keys
  have sound := sound_run (sound_of_opened opened) backend actions
  have soundToo := sound_run (sound_of_opened openedToo) other moves
  exact Display.layersInOrder_eq_of_keys sound.stacked soundToo.stacked keys

/-- Three layers, of which the first moves to the front and back again and the second goes away. -/
def movingRun : List Action :=
  [.createLayer ⟨1⟩, .createLayer ⟨1⟩, .createLayer ⟨1⟩,
    .call (.device ⟨1⟩) (.edit ⟨1⟩ (.z 5)), .ask (.device ⟨1⟩) .validate,
    .destroyLayer ⟨1⟩ ⟨2⟩, .call .display (.edit ⟨1⟩ (.z 0)), .createLayer ⟨1⟩]

/-- The same layers without the moves. -/
def stillRun : List Action :=
  [.createLayer ⟨1⟩, .createLayer ⟨1⟩, .destroyLayer ⟨1⟩ ⟨2⟩, .createLayer ⟨1⟩, .createLayer ⟨1⟩]

theorem stacking_run_moving :
    (onScript []).Opened .scripted
      ∧ ((onScript []).run .scripted movingRun).device.display.StackedBy [⟨1⟩, ⟨2⟩, ⟨3⟩, ⟨4⟩]
      ∧ ((onScript []).run .scripted stillRun).device.display.layersInOrder
        = ((onScript []).run .scripted movingRun).device.display.layersInOrder
      ∧ ((onScript []).run .scripted movingRun).device.display.layersInOrder = [⟨1⟩, ⟨3⟩, ⟨4⟩] := by
  obtain ⟨stackedBy, unique⟩ := stacking_run (opened_onScript []) movingRun
  have layers : ((onScript []).run .scripted stillRun).device.display.layers
      = ((onScript []).run .scripted movingRun).device.display.layers := by rfl
  refine ⟨opened_onScript [], stackedBy, unique (opened_onScript []) stillRun ?_, by rfl⟩
  intro id
  simp only [Display.layer?, layers]

end System

end Scanout
