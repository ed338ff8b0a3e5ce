import Scanout.Proofs.Device.Failure
import Scanout.Proofs.Display.Retained

/-!
# The register of layers

A device keeps a register of its display's layers beside the display. Its own calls create and
destroy layers in both, and nothing else touches either (`registers_meet`), whatever the backend
answers and however late. So the register has exactly the display's layers, and these are the ones
that were created and not destroyed (`Registered`). All devices take the numbers of their layers
from one counter, so a number is never given out twice, not even by another device.

What follows for a client that names a display and a layer is `Addressed`.
-/

set_option autoImplicit false

namespace Scanout

/-! ## Devices that keep their register -/

namespace Device

/-- Neither the register nor the layers of the display have changed. -/
structure Kept (device after : Device) : Prop where
  owners : after.owners = device.owners
  layerNumbers : after.layerNumbers = device.layerNumbers
  retains : device.display.Retains after.display

namespace Kept

theorem refl (device : Device) : device.Kept device := ⟨rfl, rfl, .refl _⟩

theorem trans {device after third : Device} (left : device.Kept after) (right : after.Kept third) :
    device.Kept third :=
  ⟨right.owners.trans left.owners, right.layerNumbers.trans left.layerNumbers,
    left.retains.trans right.retains⟩

theorem of_confined {device after : Device} (confined : device.Confined after)
    (retains : device.display.Retains after.display) : device.Kept after :=
  ⟨confined.owners, confined.layerNumbers, retains⟩

end Kept

variable (device : Device)

theorem kept_withDisplay {display : Display} (retains : device.display.Retains display) :
    device.Kept (device.withDisplay display) :=
  ⟨rfl, rfl, retains⟩

theorem kept_call (id : DisplayId) (call : DisplayCall) :
    device.Kept (device.call id call).device := by
  have retains : device.display.Retains (device.call id call).device.display := by
    rw [call_display]
    split
    · exact device.display.retains_call call
    · exact .refl _
  obtain ⟨display, same⟩ := device.call_device id call
  rw [same] at retains ⊢
  exact device.kept_withDisplay retains

theorem kept_beginAt {device after : Device} {access : Access} {call : BackendCall}
    (begun : device.beginAt access call = .inl after) : device.Kept after := by
  refine .of_confined (confined_beginAt begun) ?_
  cases reached : device.reaches access with
  | false =>
      rw [beginAt_of_not_reaches reached] at begun
      rw [← Sum.inl.inj begun]
      exact .refl _
  | true =>
      cases first : device.display.begin call with
      | finished result notices =>
          obtain ⟨finished, ended, same⟩ := beginAt_of_finished reached first
          rw [ended] at begun
          rw [← Sum.inl.inj begun, same]
          exact .refl _
      | asking question =>
          rw [beginAt_of_asking reached first] at begun
          cases begun

theorem kept_completeAt {σ : Type} (backend : Backend σ) (access : Access) (call : BackendCall)
    (question : Question) (state : σ) :
    device.Kept (device.completeAt backend access call question state).1 := by
  refine .of_confined (device.confined_completeAt backend access call question state) ?_
  rw [completeAt_display]
  exact Display.retains_completed (device.display.completed_complete backend question state)

theorem kept_setVsyncEnabled (id : DisplayId) (enabled : Bool) :
    device.Kept (device.setVsyncEnabled id enabled).2 := by
  unfold setVsyncEnabled
  split
  · exact .refl device
  · exact ⟨rfl, rfl, .refl _⟩

theorem kept_install (callback : Vsync.CallbackId) (kind : CallbackKind) :
    device.Kept (device.install callback kind) := by
  cases kind <;> exact ⟨rfl, rfl, .refl _⟩

theorem kept_uninstall (kind : CallbackKind) : device.Kept (device.uninstall kind) := by
  cases kind <;> exact ⟨rfl, rfl, .refl _⟩

theorem kept_awaitTicks (now : HostTime) (count : Nat) :
    device.Kept (device.awaitTicks now count) := by
  obtain ⟨ticks, timer, same⟩ := device.awaitTicks_device now count
  rw [same]
  exact ⟨rfl, rfl, .refl _⟩

end Device

/-! ## What is created and destroyed -/

inductive LayerEntry where
  | created (layer : LayerId)
  | destroyed (layer : LayerId)
  /-- Another device creates a layer with this number. -/
  | elsewhere (layer : LayerId)
  deriving DecidableEq

namespace LayerEntry

/-- The number that is given out. -/
def issued? : LayerEntry → Option LayerId
  | created layer => some layer
  | destroyed _ => none
  | elsewhere layer => some layer

/-- The numbers that are given out, in order. -/
def issued (history : List LayerEntry) : List LayerId := history.filterMap issued?

theorem issued_append (first later : List LayerEntry) :
    issued (first ++ later) = issued first ++ issued later :=
  List.filterMap_append

theorem issued_destroyed (layer : LayerId) : issued [.destroyed layer] = [] := rfl

end LayerEntry

namespace Device

def createdEntries (device : Device) (id : DisplayId) : List LayerEntry :=
  match (device.createLayer id).result with
  | .ok layer => [.created layer]
  | .error _ => []

def destroyedEntries (device : Device) (id : DisplayId) (layer : LayerId) : List LayerEntry :=
  match (device.destroyLayer id layer).result with
  | .ok _ => [.destroyed layer]
  | .error _ => []

/-- The register has the display's layers and no others, each with the display's number. -/
def InStep (device : Device) : Prop :=
  device.owners = device.display.ids.map fun layer => (layer, device.display.id)

/-- What a device can do to its register and its layers, and the entries for it. -/
inductive Registers (device : Device) : List LayerEntry → Device → Prop where
  | kept {after : Device} (kept : device.Kept after) : Registers device [] after
  | created {number : UInt64} {numbering : Numbering} {after : Device}
      (allocated : device.layerNumbers.allocate? = some (number, numbering))
      (numbers : after.layerNumbers = numbering)
      (owners : after.owners = device.owners ++ [(⟨number⟩, device.display.id)])
      (id : after.display.id = device.display.id)
      (ids : after.display.ids = device.display.ids ++ [⟨number⟩]) :
      Registers device [.created ⟨number⟩] after
  | destroyed {layer : LayerId} {after : Device} (there : layer ∈ device.display.ids)
      (numbers : after.layerNumbers = device.layerNumbers)
      (owners : after.owners = device.owners.filter fun entry => entry.1 != layer)
      (id : after.display.id = device.display.id)
      (ids : after.display.ids = device.display.ids.filter (· != layer)) :
      Registers device [.destroyed layer] after
  | elsewhere {number : UInt64} {numbering : Numbering}
      (allocated : device.layerNumbers.allocate? = some (number, numbering)) :
      Registers device [.elsewhere ⟨number⟩] { device with layerNumbers := numbering }

/-- What the register and the display have to do with the entries so far. -/
structure Registered (device : Device) (history : List LayerEntry) : Prop where
  inStep : device.InStep
  distinct : device.display.ids.Nodup
  live : ∀ layer, layer ∈ device.display.ids
    ↔ .created layer ∈ history ∧ .destroyed layer ∉ history
  destroyed : ∀ layer, .destroyed layer ∈ history → .created layer ∈ history
  elsewhere : ∀ layer, .elsewhere layer ∈ history → .created layer ∉ history
  /-- Numbers are given out in ascending order. -/
  ascending : (LayerEntry.issued history).Pairwise fun earlier later =>
    earlier.number.toNat < later.number.toNat
  below : ∀ layer ∈ LayerEntry.issued history,
    layer.number.toNat < device.layerNumbers.next.toNat

namespace Registered

variable {device after : Device} {history : List LayerEntry} {number : UInt64}
  {numbering : Numbering}

theorem below_of_issued (registered : device.Registered history) {entry : LayerEntry}
    (member : entry ∈ history) {layer : LayerId} (issued : entry.issued? = some layer) :
    layer.number.toNat < device.layerNumbers.next.toNat :=
  registered.below layer (List.mem_filterMap.mpr ⟨entry, member, issued⟩)

/-- The number that is given out next stands in no entry yet. -/
theorem fresh (registered : device.Registered history)
    (allocated : device.layerNumbers.allocate? = some (number, numbering)) :
    .created ⟨number⟩ ∉ history ∧ .destroyed ⟨number⟩ ∉ history
      ∧ .elsewhere ⟨number⟩ ∉ history := by
  obtain ⟨rfl, _⟩ := Numbering.allocate?_next allocated
  have uncreated : .created ⟨device.layerNumbers.next⟩ ∉ history :=
    fun created => Nat.lt_irrefl _ (registered.below_of_issued created rfl)
  exact ⟨uncreated, fun destroyed => uncreated (registered.destroyed _ destroyed),
    fun elsewhere => Nat.lt_irrefl _ (registered.below_of_issued elsewhere rfl)⟩

theorem ascending_issue (registered : device.Registered history)
    (allocated : device.layerNumbers.allocate? = some (number, numbering)) :
    (LayerEntry.issued history ++ [⟨number⟩] : List LayerId).Pairwise
      fun earlier later => earlier.number.toNat < later.number.toNat := by
  obtain ⟨rfl, _⟩ := Numbering.allocate?_next allocated
  refine List.pairwise_append.mpr ⟨registered.ascending, List.pairwise_singleton _ _, ?_⟩
  intro earlier member later new
  rw [List.mem_singleton.mp new]
  exact registered.below earlier member

theorem below_issue (registered : device.Registered history)
    (allocated : device.layerNumbers.allocate? = some (number, numbering)) :
    ∀ layer ∈ LayerEntry.issued history ++ [⟨number⟩],
      layer.number.toNat < numbering.next.toNat := by
  obtain ⟨rfl, next⟩ := Numbering.allocate?_next allocated
  intro layer member
  rw [next]
  rcases List.mem_append.mp member with old | new
  · exact Nat.lt_succ_of_lt (registered.below layer old)
  · rw [List.mem_singleton.mp new]
    exact Nat.lt_succ_self _

theorem kept (registered : device.Registered history) (kept : device.Kept after) :
    after.Registered history where
  inStep := by
    unfold InStep
    rw [kept.owners, kept.retains.ids, kept.retains.id]
    exact registered.inStep
  distinct := kept.retains.ids ▸ registered.distinct
  live := kept.retains.ids ▸ registered.live
  destroyed := registered.destroyed
  elsewhere := registered.elsewhere
  ascending := registered.ascending
  below := kept.layerNumbers ▸ registered.below

theorem created (registered : device.Registered history)
    (allocated : device.layerNumbers.allocate? = some (number, numbering))
    (numbers : after.layerNumbers = numbering)
    (owners : after.owners = device.owners ++ [(⟨number⟩, device.display.id)])
    (id : after.display.id = device.display.id)
    (ids : after.display.ids = device.display.ids ++ [⟨number⟩]) :
    after.Registered (history ++ [.created ⟨number⟩]) where
  inStep := by
    unfold InStep
    rw [owners, ids, id, registered.inStep, List.map_append]
    rfl
  distinct := by
    have absent : ⟨number⟩ ∉ device.display.ids := fun there =>
      (registered.fresh allocated).1 ((registered.live _).mp there).1
    rw [ids]
    exact registered.distinct.append (List.nodup_singleton _) (by simpa using absent)
  live := by
    intro layer
    rw [ids]
    by_cases new : layer = ⟨number⟩
    · simp [new, (registered.fresh allocated).2.1]
    · simp [new, registered.live layer]
  destroyed := by
    intro layer destroyed
    have old : .destroyed layer ∈ history := by simpa using destroyed
    exact List.mem_append_left _ (registered.destroyed layer old)
  elsewhere := by
    intro layer elsewhere created
    have old : .elsewhere layer ∈ history := by simpa using elsewhere
    rcases List.mem_append.mp created with before | new
    · exact registered.elsewhere layer old before
    · obtain rfl := LayerEntry.created.inj (List.mem_singleton.mp new)
      exact (registered.fresh allocated).2.2 old
  ascending := by
    rw [LayerEntry.issued_append]
    exact registered.ascending_issue allocated
  below := by
    rw [LayerEntry.issued_append, numbers]
    exact registered.below_issue allocated

theorem gone (registered : device.Registered history) {layer : LayerId}
    (there : layer ∈ device.display.ids) (numbers : after.layerNumbers = device.layerNumbers)
    (owners : after.owners = device.owners.filter fun entry => entry.1 != layer)
    (id : after.display.id = device.display.id)
    (ids : after.display.ids = device.display.ids.filter (· != layer)) :
    after.Registered (history ++ [.destroyed layer]) where
  inStep := by
    unfold InStep
    rw [owners, ids, id, registered.inStep, List.filter_map]
    rfl
  distinct := by
    rw [ids]
    exact registered.distinct.filter _
  live := by
    intro other
    rw [ids]
    by_cases same : other = layer
    · simp [same]
    · simp [same, registered.live other]
  destroyed := by
    intro other destroyed
    rcases List.mem_append.mp destroyed with before | now
    · exact List.mem_append_left _ (registered.destroyed other before)
    · obtain rfl := LayerEntry.destroyed.inj (List.mem_singleton.mp now)
      exact List.mem_append_left _ ((registered.live other).mp there).1
  elsewhere := by
    intro other elsewhere created
    exact registered.elsewhere other (by simpa using elsewhere) (by simpa using created)
  ascending := by
    rw [LayerEntry.issued_append, LayerEntry.issued_destroyed, List.append_nil]
    exact registered.ascending
  below := by
    rw [LayerEntry.issued_append, LayerEntry.issued_destroyed, List.append_nil, numbers]
    exact registered.below

theorem issued (registered : device.Registered history)
    (allocated : device.layerNumbers.allocate? = some (number, numbering)) :
    Registered { device with layerNumbers := numbering }
      (history ++ [.elsewhere ⟨number⟩]) where
  inStep := registered.inStep
  distinct := registered.distinct
  live := by
    intro layer
    simpa using registered.live layer
  destroyed := by
    intro layer destroyed
    have old : .destroyed layer ∈ history := by simpa using destroyed
    exact List.mem_append_left _ (registered.destroyed layer old)
  elsewhere := by
    intro layer elsewhere created
    have old : .created layer ∈ history := by simpa using created
    rcases List.mem_append.mp elsewhere with before | new
    · exact registered.elsewhere layer before old
    · obtain rfl := LayerEntry.elsewhere.inj (List.mem_singleton.mp new)
      exact (registered.fresh allocated).1 old
  ascending := by
    rw [LayerEntry.issued_append]
    exact registered.ascending_issue allocated
  below := by
    rw [LayerEntry.issued_append]
    exact registered.below_issue allocated

end Registered

theorem registered_step {device after : Device} {history entries : List LayerEntry}
    (registered : device.Registered history) (registers : device.Registers entries after) :
    after.Registered (history ++ entries) := by
  cases registers with
  | kept kept =>
      rw [List.append_nil]
      exact registered.kept kept
  | created allocated numbers owners id ids =>
      exact registered.created allocated numbers owners id ids
  | destroyed there numbers owners id ids => exact registered.gone there numbers owners id ids
  | elsewhere allocated => exact registered.issued allocated

end Device

/-! ## Displays and layers that a client names -/

/-- A call of a device that names a display and a layer. -/
inductive LayerCall where
  | resolve
  | destroy
  | edit (edit : LayerEdit) (offered : edit.isResolved = true)

/-- Why a display refuses a call for a layer that it has, if it does. -/
def Display.refusal? (display : Display) (layer : LayerId) : LayerCall → Option Error
  | .edit (.cursor _ _) _ =>
    if display.state = .validatedWithChanges then some .notValidated
    else if (display.layer? layer).map (·.committed) = some .cursor then none
    else some .badLayer
  | _ => none

namespace Device

/-- Why a device refuses a call, if it does. -/
def refusal? (device : Device) (id : DisplayId) (layer : LayerId) : LayerCall → Option Error
  | .resolve => failure? (device.resolveLayer id layer)
  | .destroy => failure? (device.destroyLayer id layer).result
  | .edit edit _ => failure? (device.editLayer id layer edit).result

/-- What a client is told who names a display and a layer. -/
structure Addressed (device : Device) : Prop where
  badDisplay : ∀ id layer call,
    device.refusal? id layer call = some .badDisplay ↔ id ≠ device.display.id
  badLayer : ∀ id layer, device.resolveLayer id layer = .error .badLayer
    ↔ id = device.display.id ∧ layer ∉ device.display.ids
  /-- A call for what does not resolve fails for the same reason. -/
  unresolved : ∀ id layer cause, device.resolveLayer id layer = .error cause →
    ∀ call, device.refusal? id layer call = some cause
  /-- Any other call fails only if the display itself refuses it. -/
  resolved : ∀ layer ∈ device.display.ids, ∀ call,
    device.refusal? device.display.id layer call = device.display.refusal? layer call

variable {device : Device}

theorem id_of_find {id : DisplayId} {display : Display} (found : device.find id = .ok display) :
    id = device.display.id := by
  unfold find at found
  split at found
  · rename_i same
    exact same.symm
  · cases found

theorem lookup_owners (ids : List LayerId) (display : DisplayId) (layer : LayerId) :
    (ids.map fun layer => (layer, display)).lookup layer
      = if layer ∈ ids then some display else none := by
  induction ids with
  | nil => rfl
  | cons first rest ih =>
      rw [List.map_cons, List.lookup_cons]
      by_cases here : layer = first
      · simp [here]
      · have differs : (layer == first) = false := by simpa using here
        simp [differs, here, ih]

theorem resolveLayer_eq (inStep : device.InStep) (id : DisplayId) (layer : LayerId) :
    device.resolveLayer id layer
      = if id = device.display.id then
          if layer ∈ device.display.ids then .ok device.display else .error .badLayer
        else .error .badDisplay := by
  unfold InStep at inStep
  unfold resolveLayer find
  by_cases here : id = device.display.id
  · by_cases there : layer ∈ device.display.ids
    · simp [here, there, inStep, lookup_owners]
    · simp [here, there, inStep, lookup_owners]
  · simp [here, Ne.symm here]

theorem refusal?_of_error {id : DisplayId} {layer : LayerId} {cause : Error}
    (unresolved : device.resolveLayer id layer = .error cause) (call : LayerCall) :
    device.refusal? id layer call = some cause := by
  cases call with
  | resolve => simp only [refusal?, unresolved, failure?]
  | destroy => simp only [refusal?, destroyLayer, unresolved, failure?]
  | edit edit offered =>
      simp only [refusal?, editLayer, resolveEdit, offered, if_true, unresolved, failure?]

end Device

theorem Display.refusal?_edit {display : Display} (stacked : display.Stacked) {layer : LayerId}
    (there : layer ∈ display.ids) (edit : LayerEdit) (offered : edit.isResolved = true) :
    failure? (display.edit layer edit).1 = display.refusal? layer (.edit edit offered) := by
  obtain ⟨found, same⟩ := mem_ids_iff.mp there
  cases edit with
  | z z =>
      have move : (display.putLayer { found with z := z }).order.move? layer found.z z
          = some ((display.order.remove found.z layer).insert z layer) := if_pos (stacked.held same)
      simp only [edit, setZ, same, editDone, refusal?]
      split
      · rfl
      · simp only [move]
        rfl
  | composition composition =>
      simp only [edit, setComposition, same, editDone, refusal?]
      split <;> rfl
  | buffer buffer acquire =>
      simp only [edit, setBuffer, same, refusal?]
      rfl
  | dataspace dataspace =>
      simp only [edit, setDataspace, same, editDone, refusal?]
      split <;> rfl
  | cursor x y =>
      simp only [edit, setCursorPosition, same, editDone, refusal?, Option.map_some,
        Option.some.injEq]
      split
      · rfl
      · split <;> rfl
  | _ => cases offered

namespace Device

variable {device : Device}

theorem refusal?_of_live (stacked : device.display.Stacked) (inStep : device.InStep)
    {layer : LayerId} (there : layer ∈ device.display.ids) (call : LayerCall) :
    device.refusal? device.display.id layer call = device.display.refusal? layer call := by
  have resolved : device.resolveLayer device.display.id layer = .ok device.display := by
    rw [resolveLayer_eq inStep, if_pos rfl, if_pos there]
  cases call with
  | resolve => simp only [refusal?, resolved, failure?, Display.refusal?]
  | destroy =>
      obtain ⟨found, same⟩ := Display.mem_ids_iff.mp there
      simp only [refusal?, destroyLayer, resolved, Display.removeLayer, same, failure?,
        Display.refusal?]
  | edit edit offered =>
      rw [← Display.refusal?_edit stacked there edit offered]
      simp only [refusal?, editLayer, resolveEdit, offered, if_true, resolved]
      cases made : device.display.edit layer edit with
      | mk result after => cases result <;> simp only [failure?]

theorem refusal?_ne_badDisplay (display : Display) (layer : LayerId) (call : LayerCall) :
    display.refusal? layer call ≠ some .badDisplay := by
  unfold Display.refusal?
  split
  · split
    · simp
    · split <;> simp
  · simp

theorem addressed_of_inStep (stacked : device.display.Stacked) (inStep : device.InStep) :
    device.Addressed where
  badDisplay := by
    intro id layer call
    constructor
    · rintro refused rfl
      by_cases there : layer ∈ device.display.ids
      · rw [refusal?_of_live stacked inStep there] at refused
        exact refusal?_ne_badDisplay device.display layer call refused
      · have missing : device.resolveLayer device.display.id layer = .error .badLayer := by
          rw [resolveLayer_eq inStep, if_pos rfl, if_neg there]
        rw [refusal?_of_error missing] at refused
        cases refused
    · intro foreign
      refine refusal?_of_error ?_ call
      rw [resolveLayer_eq inStep, if_neg foreign]
  badLayer := by
    intro id layer
    rw [resolveLayer_eq inStep]
    by_cases here : id = device.display.id
    · by_cases there : layer ∈ device.display.ids <;> simp [here, there]
    · simp [here]
  unresolved := fun _ _ _ unresolved call => refusal?_of_error unresolved call
  resolved := fun _ there call => refusal?_of_live stacked inStep there call

/-! ## Creating and destroying layers -/

theorem registers_createLayer (device : Device) (id : DisplayId) :
    device.Registers (device.createdEntries id) (device.createLayer id).device := by
  unfold createdEntries createLayer
  cases found : device.find id with
  | error cause => exact .kept (.refl device)
  | ok display =>
      obtain rfl := find_eq_ok found
      obtain rfl := id_of_find found
      cases allocated : device.layerNumbers.allocate? with
      | none => exact .kept (.refl device)
      | some taken => exact .created allocated rfl rfl rfl (Display.ids_addLayer _ _)

theorem registers_destroyLayer
    (inStep : device.InStep)
    (id : DisplayId) (layer : LayerId) :
    device.Registers (device.destroyedEntries id layer) (device.destroyLayer id layer).device := by
  unfold destroyedEntries destroyLayer
  have resolution := resolveLayer_eq inStep id layer
  split at resolution
  · split at resolution
    · rename_i there
      obtain ⟨found, same⟩ := Display.mem_ids_iff.mp there
      have removed := Display.ids_removeLayer same
      simp only [resolution]
      simp only [Display.removeLayer, same] at removed ⊢
      exact .destroyed there rfl rfl rfl removed
    · rw [resolution]
      exact .kept (.refl device)
  · rw [resolution]
    exact .kept (.refl device)

theorem registered_of_openOn {σ : Type} {backend : Backend σ} {settings : Settings}
    {id : DisplayId} {now : HostTime} {state after : σ} {device : Device} {notices : List Notice}
    (opened : openOn backend settings id now state = ((.ok device, notices), after)) :
    device.Registered [] := by
  obtain ⟨configs, timer, rfl⟩ := openOn_eq_ok opened
  exact {
    inStep := rfl
    distinct := List.nodup_nil
    live := by simp [Display.create, Display.ids]
    destroyed := by simp
    elsewhere := by simp
    ascending := .nil
    below := by simp [LayerEntry.issued] }

end Device

/-! ## Runs -/

/-- What happens to a device, in its own calls and beside them. -/
inductive Happening where
  | here (action : Action)
  /-- The backend answers to a question, however long ago it was asked. -/
  | answered (access : Access) (call : BackendCall) (question : Question)
  /-- Another device creates a layer and takes a number from the counter. -/
  | elsewhere

namespace System

variable {σ : Type}

def meet (backend : Backend σ) (system : System σ) : Happening → System σ
  | .here action => system.step backend action
  | .answered access call question => system.complete backend access call question
  | .elsewhere =>
    match system.device.layerNumbers.allocate? with
    | none => system
    | some (_, numbering) => system.withDevice { system.device with layerNumbers := numbering }

def entries (system : System σ) : Happening → List LayerEntry
  | .here (.createLayer id) => system.device.createdEntries id
  | .here (.destroyLayer id layer) => system.device.destroyedEntries id layer
  | .elsewhere =>
    match system.device.layerNumbers.allocate? with
    | none => []
    | some (number, _) => [.elsewhere ⟨number⟩]
  | _ => []

def through (backend : Backend σ) (system : System σ) : List Happening → System σ
  | [] => system
  | happening :: rest => through backend (system.meet backend happening) rest

/-- What was created and destroyed, in order. -/
def chronicle (backend : Backend σ) (system : System σ) : List Happening → List LayerEntry
  | [] => []
  | happening :: rest =>
    system.entries happening ++ chronicle backend (system.meet backend happening) rest

variable {backend : Backend σ} {system : System σ}

theorem through_append (backend : Backend σ) (system : System σ) (first later : List Happening) :
    system.through backend (first ++ later)
      = (system.through backend first).through backend later := by
  induction first generalizing system with
  | nil => rfl
  | cons happening rest ih => exact ih (system.meet backend happening)

/-- Runs of actions are the case in which nothing happens beside the device. -/
theorem through_here (backend : Backend σ) (system : System σ) (actions : List Action) :
    system.through backend (actions.map .here) = system.run backend actions := by
  induction actions generalizing system with
  | nil => rfl
  | cons action rest ih => exact ih (system.step backend action)

theorem chronicle_append (backend : Backend σ) (system : System σ)
    (first later : List Happening) :
    system.chronicle backend (first ++ later)
      = system.chronicle backend first
        ++ (system.through backend first).chronicle backend later := by
  induction first generalizing system with
  | nil => rfl
  | cons happening rest ih =>
      simp only [List.cons_append, chronicle, through, ih, List.append_assoc]

theorem kept_complete (backend : Backend σ) (system : System σ) (access : Access)
    (call : BackendCall) (question : Question) :
    system.device.Kept (system.complete backend access call question).device :=
  system.device.kept_completeAt backend access call question system.backend

theorem kept_ask (backend : Backend σ) (system : System σ) (access : Access)
    (call : BackendCall) : system.device.Kept (system.ask backend access call).device := by
  unfold ask
  split
  · rename_i begun
    exact system.device.kept_beginAt begun
  · exact system.kept_complete backend access call _
  · exact system.kept_complete backend access call _
  · exact .refl system.device
  · exact .refl system.device

theorem registers_meet
    (inStep : system.device.InStep)
    (backend : Backend σ) (happening : Happening) :
    system.device.Registers (system.entries happening) (system.meet backend happening).device := by
  cases happening with
  | here action =>
      cases action with
      | createLayer id => exact system.device.registers_createLayer id
      | destroyLayer id layer => exact Device.registers_destroyLayer inStep id layer
      | call access call =>
          cases access with
          | device id => exact .kept (system.device.kept_call id call)
          | display =>
              exact .kept (system.device.kept_withDisplay (system.device.display.retains_call call))
      | ask access call => exact .kept (system.kept_ask backend access call)
      | answer =>
          refine .kept ?_
          simp only [meet, step]
          split
          · exact .refl system.device
          · exact kept_complete backend _ _ _ _
      | setVsyncEnabled id enabled => exact .kept (system.device.kept_setVsyncEnabled id enabled)
      | install callback kind => exact .kept (system.device.kept_install callback kind)
      | uninstall kind => exact .kept (system.device.kept_uninstall kind)
      | awaitTicks now count => exact .kept (system.device.kept_awaitTicks now count)
      | _ => exact .kept ⟨rfl, rfl, .refl _⟩
  | answered access call question =>
      exact .kept (system.kept_complete backend access call question)
  | elsewhere =>
      simp only [entries, meet]
      cases allocated : system.device.layerNumbers.allocate? with
      | none => exact .kept (.refl system.device)
      | some taken => exact .elsewhere allocated

end System

namespace System

variable {σ : Type} {backend : Backend σ} {system : System σ}

theorem sound_meet (sound : system.Sound) (backend : Backend σ) (happening : Happening) :
    (system.meet backend happening).Sound := by
  cases happening with
  | here action => exact sound_step sound backend action
  | answered access call question =>
      have kept := system.kept_complete backend access call question
      refine ⟨?_, ?_⟩
      · simp only [meet]
        rw [complete_display]
        exact Display.stacked_completed sound.stacked
          (system.device.display.completed_complete backend question system.backend)
      · simp only [meet]
        rw [kept.retains.ids, kept.layerNumbers]
        exact sound.numbered
  | elsewhere =>
      simp only [meet]
      split
      · exact sound
      · rename_i number numbering allocated
        refine ⟨sound.stacked, ?_⟩
        intro id there
        have lower := sound.numbered id there
        have next := (Numbering.allocate?_next allocated).2
        simp only [withDevice]
        omega

/-- What was registered stays so, and the entries of the run come behind those before. -/
theorem registered_through (sound : system.Sound) {history : List LayerEntry}
    (registered : system.device.Registered history) (backend : Backend σ)
    (happenings : List Happening) :
    (system.through backend happenings).Sound
      ∧ (system.through backend happenings).device.Registered
        (history ++ system.chronicle backend happenings) := by
  induction happenings generalizing system history with
  | nil =>
      simp only [through, chronicle, List.append_nil]
      exact ⟨sound, registered⟩
  | cons happening rest ih =>
      have stepped := Device.registered_step registered
        (registers_meet registered.inStep backend happening)
      simp only [through, chronicle, ← List.append_assoc]
      exact ih (sound_meet sound backend happening) stepped

theorem registered_of_opened (opened : system.Opened backend) : system.device.Registered [] := by
  obtain ⟨settings, id, now, state, notices, after, isOpen⟩ := opened.device
  exact Device.registered_of_openOn isOpen

/-- In every state that an opened device gets into, its register has the display's layers, which are
those that were created and not destroyed, a client is told so whatever it names, and a layer that
was destroyed never comes back. -/
theorem register_run (opened : system.Opened backend) (happenings : List Happening) :
    let device := (system.through backend happenings).device
    let history := system.chronicle backend happenings
    device.Registered history ∧ device.Addressed
      ∧ ∀ layer, .destroyed layer ∈ history → ∀ later,
        layer ∉ (system.through backend (happenings ++ later)).device.display.ids := by
  intro device history
  have sound := sound_of_opened opened
  have empty := registered_of_opened opened
  obtain ⟨soundAfter, registered⟩ := registered_through sound empty backend happenings
  rw [List.nil_append] at registered
  refine ⟨registered, Device.addressed_of_inStep soundAfter.stacked registered.inStep, ?_⟩
  -- the entry is still there when the run goes on
  intro layer destroyed later there
  have registeredLater := (registered_through sound empty backend (happenings ++ later)).2
  rw [List.nil_append, chronicle_append] at registeredLater
  exact ((registeredLater.live layer).mp there).2 (List.mem_append_left _ destroyed)

def crowdedRun : List Happening :=
  [.here (.createLayer ⟨1⟩), .here (.createLayer ⟨1⟩), .elsewhere, .here (.createLayer ⟨2⟩),
    .here (.destroyLayer ⟨1⟩ ⟨1⟩), .here (.destroyLayer ⟨1⟩ ⟨3⟩), .here (.createLayer ⟨1⟩)]

theorem register_run_crowded :
    let device := ((onScript []).through .scripted crowdedRun).device
    let history := (onScript []).chronicle .scripted crowdedRun
    (onScript []).Opened .scripted
      ∧ history = [.created ⟨1⟩, .created ⟨2⟩, .elsewhere ⟨3⟩, .destroyed ⟨1⟩, .created ⟨4⟩]
      ∧ device.Registered history ∧ device.display.ids = [⟨2⟩, ⟨4⟩]
      ∧ device.refusal? ⟨1⟩ ⟨1⟩ .destroy = some .badLayer
      ∧ device.refusal? ⟨2⟩ ⟨2⟩ .resolve = some .badDisplay := by
  have opened := opened_onScript []
  obtain ⟨registered, addressed, _⟩ := register_run opened crowdedRun
  refine ⟨opened, by rfl, registered, by rfl, ?_, ?_⟩
  · exact addressed.unresolved ⟨1⟩ ⟨1⟩ .badLayer (by rfl) .destroy
  · exact (addressed.badDisplay ⟨2⟩ ⟨2⟩ .resolve).mpr (by decide)

end System

end Scanout
