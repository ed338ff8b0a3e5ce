import Scanout.Proofs.Device.Reported
import Scanout.Proofs.Trace.Playback
import Scanout.Trace.Sink

/-!
# Replicas of a display

Whoever has a recording of a device, and nothing else, can tell which layers its display has and how
they lie, how many frames it has presented and how the last of them retires: `Replica.ofEvents` adds
up the events, and `Display.ReplicatedBy` is what the display and the outcome have in common.

A replica and its display stay in step through every happening (`mirrored_shows`), and a recording
keeps the device's journal but for the times (`Tracer.recording_foldl`). Together: `replica_run`.
-/

set_option autoImplicit false

namespace Scanout

/-- What the events of a display tell about it. -/
structure Replica where
  layers : List StackEntry := []
  /-- The number of every frame and of its retire fence's primitive. -/
  frames : List (UInt64 × Option UInt64) := []
  deriving DecidableEq

namespace Replica

def read (replica : Replica) : Occurrence → Replica
  | .layer layer .created => { replica with layers := replica.layers ++ [⟨0, layer⟩] }
  | .layer layer .destroyed =>
    { replica with layers := replica.layers.filter fun entry => entry.layer != layer }
  | .layer layer (.movedTo z) =>
    { replica with
      layers := replica.layers.map fun entry => if entry.layer = layer then ⟨z, layer⟩ else entry }
  | .presented frame retire => { replica with frames := replica.frames ++ [(frame, retire)] }
  | _ => replica

def readAll (replica : Replica) (events : List TraceEvent) : Replica :=
  (events.map (·.what)).foldl read replica

def ofEvents (events : List TraceEvent) : Replica := readAll {} events

/-- The layers by Z key and, at one key, by number. -/
def backToFront (replica : Replica) : List LayerId :=
  (replica.layers.mergeSort fun a b => !b.before a).map (·.layer)

end Replica

/-- The replica has the display's layers, as they lie, and knows of its frames. -/
structure Display.ReplicatedBy (display : Display) (replica : Replica) : Prop where
  /-- No layer is listed twice. -/
  distinct : (replica.layers.map (·.layer)).Nodup
  order : replica.backToFront = display.layersInOrder
  keys : ∀ entry ∈ replica.layers, (display.layer? entry.layer).map (·.z) = some entry.z
  numbered : replica.frames.map (·.1)
    = (List.range display.framesPresented).map fun index => UInt64.ofNat (index + 1)
  counted : replica.frames.length = display.framesPresented
  retire : ∀ frame, replica.frames.getLast? = some frame →
    frame.2 = display.retireFence.id?.map UInt64.ofNat

/-! ## Events that tell nothing -/

namespace Replica

theorem readAll_append (replica : Replica) (first later : List TraceEvent) :
    replica.readAll (first ++ later) = (replica.readAll first).readAll later := by
  simp only [readAll, List.map_append, List.foldl_append]

/-- Events that a replica learns nothing from may be left out. -/
theorem readAll_filter (kept : TraceEvent → Bool)
    (silent : ∀ event, kept event = false → ∀ replica : Replica, replica.read event.what = replica)
    (replica : Replica) (events : List TraceEvent) :
    replica.readAll (events.filter kept) = replica.readAll events := by
  induction events generalizing replica with
  | nil => rfl
  | cons event rest ih =>
      have later : replica.readAll (event :: rest)
          = (replica.read event.what).readAll rest := rfl
      cases keeps : kept event with
      | true =>
          rw [List.filter_cons_of_pos keeps, later, ← ih]
          rfl
      | false => rw [List.filter_cons_of_neg (by simp [keeps]), later, silent event keeps, ih]

theorem readAll_of_unshown (replica : Replica) {events : List TraceEvent}
    (unshown : events.filter TraceEvent.isShown = []) : replica.readAll events = replica := by
  rw [← readAll_filter TraceEvent.isShown ?_ replica events, unshown]
  · rfl
  · rintro ⟨display, time, what⟩ untold replica
    cases what <;> first | rfl | cases untold

/-- Ticks tell nothing about layers and frames. -/
theorem readAll_timed (replica : Replica) (events : List TraceEvent) :
    replica.readAll (events.filter TraceEvent.isTimed) = replica.readAll events := by
  refine readAll_filter TraceEvent.isTimed ?_ replica events
  rintro ⟨display, time, what⟩ untimed replica
  cases what <;> first | rfl | cases untimed

end Replica

/-! ## Moves -/

namespace Replica

/-- A move lists the same layers. -/
theorem layers_movedTo (replica : Replica) (id : LayerId) (z : UInt32) :
    (replica.read (.layer id (.movedTo z))).layers.map (·.layer)
      = replica.layers.map (·.layer) := by
  simp only [read, List.map_map]
  refine List.map_congr_left fun entry _ => ?_
  by_cases here : entry.layer = id <;> simp [here]

/-- A move takes the layer's only entry out and puts in one with the new key. -/
theorem mem_movedTo {replica : Replica} {id : LayerId} {old : UInt32}
    (there : ⟨old, id⟩ ∈ replica.layers)
    (own : ∀ entry ∈ replica.layers, entry.layer = id → entry = ⟨old, id⟩) (z : UInt32)
    (entry : StackEntry) :
    entry ∈ (replica.read (.layer id (.movedTo z))).layers
      ↔ entry = ⟨z, id⟩ ∨ entry ∈ replica.layers ∧ entry ≠ ⟨old, id⟩ := by
  simp only [read, List.mem_map]
  constructor
  · rintro ⟨other, member, rfl⟩
    split
    · exact Or.inl rfl
    · rename_i elsewhere
      exact Or.inr ⟨member, fun same => elsewhere (congrArg StackEntry.layer same)⟩
  · rintro (rfl | ⟨member, different⟩)
    · exact ⟨_, there, if_pos rfl⟩
    · exact ⟨entry, member, if_neg fun here => different (own entry member here)⟩

end Replica

/-! ## Replicas that keep in step -/

namespace Display

/-- Display and replica are in step: the same entries in any order, and the same frames. -/
structure Mirrored (display : Display) (replica : Replica) : Prop where
  distinct : (replica.layers.map (·.layer)).Nodup
  entries : ∀ entry, entry ∈ replica.layers ↔ entry ∈ display.order.entries
  numbered : replica.frames.map (·.1)
    = (List.range display.framesPresented).map fun index => UInt64.ofNat (index + 1)
  retire : ∀ frame, replica.frames.getLast? = some frame →
    frame.2 = display.retireFence.id?.map UInt64.ofNat

variable {display after : Display} {replica : Replica}

theorem mirrored_unmoved (mirrored : display.Mirrored replica) (unmoved : display.Unmoved after) :
    after.Mirrored replica where
  distinct := mirrored.distinct
  entries := unmoved.order ▸ mirrored.entries
  numbered := unmoved.framesPresented ▸ mirrored.numbered
  retire := unmoved.retireFence ▸ mirrored.retire

theorem mem_layers_iff (stacked : display.Stacked) (mirrored : display.Mirrored replica)
    {layer : LayerId} : layer ∈ replica.layers.map (·.layer) ↔ layer ∈ display.ids := by
  rw [← mem_layersInOrder stacked, layersInOrder, StackOrder.layers]
  simp only [List.mem_map, mirrored.entries]

theorem mirrored_addLayer (stacked : display.Stacked) (mirrored : display.Mirrored replica)
    {layer : LayerId} (fresh : layer ∉ display.ids) :
    (display.addLayer layer).Mirrored (replica.read (.layer layer .created)) where
  distinct := by
    have absent := mt (mem_layers_iff stacked mirrored).mp fresh
    simp only [Replica.read, List.map_append, List.map_cons, List.map_nil]
    exact mirrored.distinct.append (List.nodup_singleton layer) (by simpa using absent)
  entries := by
    intro entry
    have order : (display.addLayer layer).order = display.order.insert 0 layer := rfl
    rw [order, StackOrder.mem_insert, ← mirrored.entries]
    simp only [Replica.read, List.mem_append, List.mem_singleton]
    exact or_comm
  numbered := mirrored.numbered
  retire := mirrored.retire

/-- A layer has one entry, with its key. -/
theorem entry_eq_of_layer (stacked : display.Stacked) {entry : StackEntry}
    (member : entry ∈ display.order.entries) {layer : Layer}
    (found : display.layer? entry.layer = some layer) : entry = ⟨layer.z, entry.layer⟩ := by
  obtain ⟨other, same, z⟩ := (stacked.entries entry).mp member
  obtain rfl : layer = other := Option.some.inj (found.symm.trans same)
  exact congrArg₂ StackEntry.mk z.symm rfl

theorem mirrored_removeLayer (stacked : display.Stacked) (mirrored : display.Mirrored replica)
    {id : LayerId} {layer : Layer} (found : display.layer? id = some layer) :
    (display.removeLayer id).2.Mirrored (replica.read (.layer id .destroyed)) := by
  rw [removeLayer_eq found]
  refine ⟨mirrored.distinct.sublist (List.filter_sublist.map _), ?_, mirrored.numbered,
    mirrored.retire⟩
  intro entry
  change _ ↔ entry ∈ (display.order.remove layer.z id).entries
  rw [StackOrder.mem_remove, ← mirrored.entries]
  simp only [Replica.read, List.mem_filter, bne_iff_ne]
  refine and_congr_right fun member => not_congr ⟨?_, congrArg StackEntry.layer⟩
  rintro rfl
  exact entry_eq_of_layer stacked ((mirrored.entries entry).mp member) found

theorem mirrored_setZ (stacked : display.Stacked) (mirrored : display.Mirrored replica)
    {id : LayerId} {z : UInt32} (done : (display.setZ id z).1 = .ok ()) :
    (display.setZ id z).2.Mirrored (replica.read (.layer id (.movedTo z))) := by
  have distinct : ((replica.read (.layer id (.movedTo z))).layers.map (·.layer)).Nodup :=
    (replica.layers_movedTo id z).symm ▸ mirrored.distinct
  unfold setZ at done ⊢
  cases found : display.layer? id with
  | none =>
      rw [found] at done
      cases done
  | some layer =>
      have there : ⟨layer.z, id⟩ ∈ replica.layers :=
        (mirrored.entries _).mpr ((stacked.entries _).mpr ⟨layer, found, rfl⟩)
      have own : ∀ entry ∈ replica.layers, entry.layer = id → entry = ⟨layer.z, id⟩ := by
        rintro entry member rfl
        exact entry_eq_of_layer stacked ((mirrored.entries entry).mp member) found
      have moves := Replica.mem_movedTo there own z
      dsimp only
      split
      · -- the layer has this key already, and so has its entry
        rename_i same
        refine ⟨distinct, ?_, mirrored.numbered, mirrored.retire⟩
        intro entry
        rw [moves, ← mirrored.entries, ← same]
        by_cases here : entry = ⟨layer.z, id⟩ <;> simp [here, there]
      · have moved : (display.putLayer { layer with z := z }).order.move? id layer.z z
            = some ((display.order.remove layer.z id).insert z id) := if_pos (stacked.held found)
        rw [moved]
        refine ⟨distinct, ?_, mirrored.numbered, mirrored.retire⟩
        intro entry
        change _ ↔ entry ∈ ((display.order.remove layer.z id).insert z id).entries
        rw [moves, StackOrder.mem_insert, StackOrder.mem_remove, ← mirrored.entries]

theorem mirrored_deliver (mirrored : display.Mirrored replica) (fences : CommitFences) :
    (display.deliver fences).Mirrored
      (replica.read (.presented (UInt64.ofNat (display.framesPresented + 1))
        (fences.retire.id?.map UInt64.ofNat))) := by
  have kept := Unmoved.of_amends
    (amends_foldl_pushReleaseFence (display.releaseShares fences) display)
  have order : (display.deliver fences).order = display.order := kept.order
  refine ⟨mirrored.distinct, order ▸ mirrored.entries, ?_, ?_⟩
  · have counted : (display.deliver fences).framesPresented = display.framesPresented + 1 := rfl
    rw [counted, List.range_succ, List.map_append, ← mirrored.numbered]
    simp only [Replica.read, List.map_append, List.map_cons, List.map_nil]
  · intro frame last
    simp only [Replica.read, List.getLast?_concat, Option.some.injEq] at last
    rw [← last]
    rfl

theorem mirrored_shows (stacked : display.Stacked) (mirrored : display.Mirrored replica)
    {events : List TraceEvent} (shows : display.Shows events after) :
    after.Mirrored (replica.readAll events) := by
  cases shows with
  | unmoved unmoved unshown =>
      rw [replica.readAll_of_unshown unshown]
      exact mirrored_unmoved mirrored unmoved
  | created id fresh => exact mirrored_addLayer stacked mirrored fresh
  | destroyed id found => exact mirrored_removeLayer stacked mirrored found
  | moved id done => exact mirrored_setZ stacked mirrored done
  | presented id fences => exact mirrored_deliver mirrored fences

/-! ## What a replica that is in step tells -/

theorem sorted_backToFront (entries : List StackEntry) (distinct : entries.Nodup) :
    StackOrder.Sorted (entries.mergeSort fun a b => !b.before a) := by
  have ordered : (entries.mergeSort fun a b => !b.before a).Pairwise
      fun a b => (!b.before a) = true := by
    refine List.pairwise_mergeSort ?_ ?_ entries
    · intro a b c
      simp only [Bool.not_eq_true', Bool.eq_false_iff, ne_eq, StackEntry.before_iff]
      omega
    · intro a b
      simp only [Bool.or_eq_true, Bool.not_eq_true', Bool.eq_false_iff, ne_eq,
        StackEntry.before_iff]
      omega
  have apart : (entries.mergeSort fun a b => !b.before a).Nodup :=
    (List.mergeSort_perm entries _).nodup_iff.mpr distinct
  refine (ordered.and apart).imp ?_
  rintro a b ⟨notBehind, different⟩
  exact StackEntry.before_of_not_before (by simpa using notBehind) (Ne.symm different)

/-- The order depends on the entries alone, not on how they are listed. -/
theorem backToFront_eq (stacked : display.Stacked) (mirrored : display.Mirrored replica) :
    replica.backToFront = display.layersInOrder := by
  have same : (replica.layers.mergeSort fun a b => !b.before a) = display.order.entries := by
    refine List.Pairwise.eq_of_mem_iff
      (sorted_backToFront replica.layers (.of_map _ mirrored.distinct)) stacked.sorted ?_
    intro entry
    rw [List.mem_mergeSort, mirrored.entries]
  exact congrArg (List.map (·.layer)) same

theorem replicatedBy_of_mirrored (stacked : display.Stacked)
    (mirrored : display.Mirrored replica) : display.ReplicatedBy replica where
  distinct := mirrored.distinct
  order := backToFront_eq stacked mirrored
  keys := by
    intro entry member
    obtain ⟨layer, found, z⟩ := (stacked.entries entry).mp ((mirrored.entries entry).mp member)
    rw [found, Option.map_some, z]
  numbered := mirrored.numbered
  counted := by simpa using congrArg List.length mirrored.numbered
  retire := mirrored.retire

end Display

/-! ## Recordings -/

namespace Tracer

/-- A recording keeps all that was reported, in order; only the times are the recorder's. -/
theorem recording_foldl (tracer : Tracer) (records : tracer.sink = .record)
    (events : List TraceEvent) :
    ∃ stamped, (events.foldl report tracer).recording
        = tracer.recording ++ TraceEvent.recording stamped
      ∧ stamped.map (·.what) = events.map (·.what) := by
  induction events generalizing tracer with
  | nil => exact ⟨[], (List.append_nil _).symm, rfl⟩
  | cons event rest ih =>
      let time : HostTime := ⟨UInt64.ofNat (step.nanos * tracer.counting event)⟩
      have first : tracer.report event = { tracer with
          seen := tracer.counting event
          recording := tracer.recording ++ (event.reportedAt time).record } := by
        simp only [report, records]
        rfl
      obtain ⟨stamped, recorded, same⟩ := ih (tracer.report event) (by rw [first, records])
      refine ⟨event.reportedAt time :: stamped, ?_, ?_⟩
      · rw [List.foldl_cons, recorded, first, List.append_assoc]
        rfl
      · have kept : (event.reportedAt time).what = event.what := by
          unfold TraceEvent.reportedAt
          split <;> rfl
        rw [List.map_cons, List.map_cons, kept, same]

theorem sink_foldl (tracer : Tracer) (events : List TraceEvent) :
    (events.foldl report tracer).sink = tracer.sink := by
  induction events generalizing tracer with
  | nil => rfl
  | cons event rest ih =>
      rw [List.foldl_cons, ih]
      cases sink : tracer.sink <;> simp [report, sink]

/-- Nothing is lost between the events and their recording. -/
theorem replica_recording (tracer : Tracer) (events : List TraceEvent) :
    Replica.ofEvents
        (Playback.events (events.foldl report (tracer.install .record)).recording)
      = Replica.ofEvents events := by
  obtain ⟨stamped, recorded, same⟩ :=
    recording_foldl (tracer.install .record) rfl events
  have all : (events.foldl report (tracer.install .record)).recording
      = TraceEvent.recording stamped := recorded
  rw [all, Playback.events_recording]
  simp only [Replica.ofEvents, Replica.readAll, same]

end Tracer

/-! ## Runs -/

namespace System

variable {σ : Type} {backend : Backend σ} {system : System σ}

theorem sound_through (sound : system.Sound) (backend : Backend σ)
    (happenings : List Happening) : (system.through backend happenings).Sound := by
  induction happenings generalizing system with
  | nil => exact sound
  | cons happening rest ih => exact ih (sound_meet sound backend happening)

theorem mirrored_through (sound : system.Sound) (backend : Backend σ) {replica : Replica}
    (mirrored : system.device.display.Mirrored replica) {happenings : List Happening}
    (routed : ∀ happening ∈ happenings, happening.Routed) :
    (system.through backend happenings).device.display.Mirrored
      (replica.readAll (system.journal backend happenings)) := by
  induction happenings generalizing system replica with
  | nil => exact mirrored
  | cons happening rest ih =>
      have shown := shows_meet sound backend (routed happening List.mem_cons_self)
      have next := Display.mirrored_shows sound.stacked mirrored shown
      simp only [through, journal, Replica.readAll_append]
      exact ih (sound_meet sound backend happening) next
        fun later member => routed later (List.mem_cons_of_mem _ member)

theorem mirrored_of_opened (opened : system.Opened backend) :
    system.device.display.Mirrored {} := by
  obtain ⟨id, name, required, configs, same⟩ := opened_display opened
  rw [same]
  exact ⟨.nil, by simp [Display.create], rfl, by simp⟩

/-- **A recording of a device is a replica of its display.** -/
theorem replica_run (opened : system.Opened backend) {happenings : List Happening}
    (routed : ∀ happening ∈ happenings, happening.Routed) {events : List TraceEvent}
    (told : events.filter TraceEvent.isTimed = system.journal backend happenings)
    (tracer : Tracer) :
    (system.through backend happenings).device.display.ReplicatedBy
      (Replica.ofEvents
        (Playback.events (events.foldl Tracer.report (tracer.install .record)).recording)) := by
  have sound := sound_of_opened opened
  have mirrored := mirrored_through sound backend (mirrored_of_opened opened) routed
  rw [← told, Replica.readAll_timed] at mirrored
  rw [Tracer.replica_recording]
  exact Display.replicatedBy_of_mirrored (sound_through sound backend happenings).stacked mirrored

/-- Two layers, of which one is moved, one moved to where it is, and one destroyed; a frame that is
presented twice, and calls that fail. A tick comes in between. -/
def shownHappenings : List Happening :=
  [.here (.createLayer ⟨1⟩), .here (.createLayer ⟨1⟩), .here (.createLayer ⟨1⟩),
    .here (.call (.device ⟨1⟩) (.edit ⟨1⟩ (.z 7))), .here (.call (.device ⟨1⟩) (.edit ⟨2⟩ (.z 0))),
    .here (.call (.device ⟨1⟩) (.edit ⟨9⟩ (.z 3))), .here (.destroyLayer ⟨1⟩ ⟨3⟩),
    .here (.ask (.device ⟨1⟩) .present), .here (.ask (.device ⟨1⟩) .validate),
    .here (.call (.device ⟨1⟩) .acceptChanges),
    .here (.call (.device ⟨1⟩) (.clientTarget (some ⟨9⟩) .noop .unknown [])),
    .here (.ask (.device ⟨1⟩) .present), .here (.ask (.device ⟨1⟩) .present)]

def shownEvents : List TraceEvent :=
  Device.tickEvent ⟨1⟩ ⟨5⟩ false :: (onScript []).journal .scripted shownHappenings

theorem replica_run_shown :
    let after := ((onScript []).through .scripted shownHappenings).device.display
    let recorder := shownEvents.foldl Tracer.report (Tracer.install {} .record)
    (onScript []).Opened .scripted ∧ (∀ happening ∈ shownHappenings, happening.Routed)
      ∧ shownEvents.filter TraceEvent.isTimed = (onScript []).journal .scripted shownHappenings
      ∧ after.ReplicatedBy (Replica.ofEvents (Playback.events recorder.recording))
      ∧ after.layersInOrder = [⟨2⟩, ⟨1⟩] ∧ after.framesPresented = 2 := by
  have routed : ∀ happening ∈ shownHappenings, happening.Routed := by
    simp [shownHappenings, Happening.Routed]
  have told : shownEvents.filter TraceEvent.isTimed
      = (onScript []).journal .scripted shownHappenings := by rfl
  exact ⟨opened_onScript [], routed, told, replica_run (opened_onScript []) routed told {}, rfl,
    rfl⟩

end System

end Scanout
