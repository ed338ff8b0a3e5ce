import Scanout.Backend.Interface

/-!
# The scripted backend

A backend without hardware. It takes every slot as it is asked for and moves what it may move to an
overlay, unless its script says otherwise: for a slot by number, or for a slot by the buffer it
shows, where the number counts first. It remembers how often it was called and the last frame of
each kind.

Fences of a commit are pending, and their signals stay with the script until a command completes
them all, unless the script signals them at once.
-/

set_option autoImplicit false

namespace Scanout

/-- What the scripted backend does and what it has seen. -/
structure Script where
  configs : List ConfigShape := []
  /-- Decisions for slots, the latest first. -/
  forcedSlots : List (Nat × Placement) := []
  /-- Decisions for buffers, the latest first. -/
  forcedBuffers : List (BufferHandle × Placement) := []
  clearedSlots : List Nat := []
  failPrepare : Bool := false
  failCommit : Bool := false
  /-- A commit answers one release fence too few. -/
  shortRelease : Bool := false
  /-- Fences are signaled as soon as they are handed out. -/
  autoSignal : Bool := false
  prepareCount : Nat := 0
  lastPrepared : Option Frame := none
  commitCount : Nat := 0
  lastCommitted : Option Frame := none
  /-- The primitives whose signals the script holds, oldest first. -/
  signals : List Nat := []
  activeIndex : Option Nat := none
  powerMode : Option PowerMode := none
  deriving Inhabited

/-- The configuration of an ordinary panel: 60 Hz at 160 dots per inch. -/
def ConfigShape.standard (width height : UInt32) : ConfigShape where
  width := width
  height := height
  vsyncPeriod := ⟨16666666⟩
  dpiX := 160000
  dpiY := 160000

/-- The scripted backend together with the fences of the system that it runs in. -/
structure Stage where
  script : Script := {}
  fences : FenceTable := {}
  deriving Inhabited

namespace Script

/-- The placement that the script takes when nothing is forced. -/
def accepted (slot : Slot) : Placement :=
  if slot.placement = .framebuffer ∧ !slot.skip then .overlay else slot.placement

def forced? (script : Script) (index : Nat) (slot : Slot) : Option Placement :=
  match script.forcedSlots.lookup index with
  | some placement => some placement
  | none => slot.buffer.bind fun buffer => script.forcedBuffers.lookup buffer

def decide (script : Script) (index : Nat) (slot : Slot) : Decision where
  placement := (script.forced? index slot).getD (accepted slot)
  clearClientTarget := script.clearedSlots.contains index

def decideFrom (script : Script) (index : Nat) : List Slot → List Decision
  | [] => []
  | slot :: rest => script.decide index slot :: script.decideFrom (index + 1) rest

theorem length_decideFrom (script : Script) (index : Nat) (slots : List Slot) :
    (script.decideFrom index slots).length = slots.length := by
  induction slots generalizing index with
  | nil => rfl
  | cons slot rest inductionHypothesis => simp [decideFrom, inductionHypothesis]

end Script

namespace Stage

/-- A fence for a frame. Its signal stays with the script, or is given at once. -/
def issueFence (stage : Stage) : Fence × Stage :=
  let (primitive, fences) := stage.fences.issue
  if stage.script.autoSignal then
    (.shared primitive, { stage with fences := fences.signal primitive })
  else
    (.shared primitive,
      { script := { stage.script with signals := stage.script.signals ++ [primitive] }
        fences := fences })

def issueFences : Nat → Stage → List Fence × Stage
  | 0, stage => ([], stage)
  | count + 1, stage =>
    let (fence, stage) := stage.issueFence
    let (fences, stage) := issueFences count stage
    (fence :: fences, stage)

def displayConfigs (stage : Stage) : Except BackendError (List ConfigShape) × Stage :=
  (.ok stage.script.configs, stage)

/-- Decides on the slots of a frame, or fails once if the script says so. -/
def prepare (frame : Frame) (stage : Stage) : Except BackendError (List Decision) × Stage :=
  let seen := { stage.script with
    prepareCount := stage.script.prepareCount + 1
    lastPrepared := some frame }
  if seen.failPrepare then
    (.error (.rejected "scripted prepare failure"),
      { stage with script := { seen with failPrepare := false } })
  else (.ok (seen.decideFrom 0 frame.slots), { stage with script := seen })

def releaseCount (script : Script) (frame : Frame) : Nat :=
  if script.shortRelease then frame.slots.length - 1 else frame.slots.length

/-- Hands out the fences of a frame, the retire fence first, or fails once if the script says so. -/
def commit (frame : Frame) (stage : Stage) : Except BackendError CommitFences × Stage :=
  let seen := { stage.script with
    commitCount := stage.script.commitCount + 1
    lastCommitted := some frame }
  if seen.failCommit then
    (.error .deviceLost, { stage with script := { seen with failCommit := false } })
  else
    let (retire, issued) := issueFence { stage with script := seen }
    let (release, issued) := issueFences (releaseCount seen frame) issued
    (.ok ⟨retire, release⟩, issued)

def setActiveConfig (index : Nat) (stage : Stage) : Except BackendError Unit × Stage :=
  if index < stage.script.configs.length then
    (.ok (), { stage with script := { stage.script with activeIndex := some index } })
  else (.error (.rejected ("no config " ++ toString index)), stage)

def setPowerMode (mode : PowerMode) (stage : Stage) : Except BackendError Unit × Stage :=
  (.ok (), { stage with script := { stage.script with powerMode := some mode } })

def completeAll (status : FenceStatus) (stage : Stage) : Nat × Stage :=
  (stage.script.signals.length,
    { script := { stage.script with signals := [] }
      fences := stage.script.signals.foldl (fun fences primitive => fences.finish primitive status)
        stage.fences })

end Stage

def Backend.scripted : Backend Stage where
  displayConfigs := Stage.displayConfigs
  prepare := Stage.prepare
  commit := Stage.commit
  setActiveConfig := Stage.setActiveConfig
  setPowerMode := Stage.setPowerMode

inductive ScriptCommand where
  | forceSlot (slot : Nat) (placement : Placement)
  | forceBuffer (buffer : BufferHandle) (placement : Placement)
  | clearSlot (slot : Nat)
  | resetOverrides
  | failPrepare
  | failCommit
  | shortRelease (on : Bool)
  | autoSignal (on : Bool)
  | signalAll
  | abandonAll
  | lastPrepared
  | lastCommitted
  | describe

inductive ScriptAnswer where
  | done
  | count (fences : Nat)
  | frame (frame : Option Frame)
  | text (text : String)

def Script.text (script : Script) : String :=
  "ScriptHandle \x7b prepare_count: " ++ toString script.prepareCount ++ ", commit_count: "
    ++ toString script.commitCount ++ ", .. \x7d"

namespace ScriptCommand

def applyTo (script : Script) : ScriptCommand → Script
  | forceSlot slot placement =>
    { script with forcedSlots := (slot, placement) :: script.forcedSlots }
  | forceBuffer buffer placement =>
    { script with forcedBuffers := (buffer, placement) :: script.forcedBuffers }
  | clearSlot slot => { script with clearedSlots := slot :: script.clearedSlots }
  | resetOverrides => { script with forcedSlots := [], forcedBuffers := [], clearedSlots := [] }
  | failPrepare => { script with failPrepare := true }
  | failCommit => { script with failCommit := true }
  | shortRelease on => { script with shortRelease := on }
  | autoSignal on => { script with autoSignal := on }
  | signalAll => script
  | abandonAll => script
  | lastPrepared => script
  | lastCommitted => script
  | describe => script

def run (stage : Stage) : ScriptCommand → ScriptAnswer × Stage
  | signalAll =>
    let (count, after) := stage.completeAll .signaled
    (.count count, after)
  | abandonAll =>
    let (count, after) := stage.completeAll .abandoned
    (.count count, after)
  | lastPrepared => (.frame stage.script.lastPrepared, stage)
  | lastCommitted => (.frame stage.script.lastCommitted, stage)
  | describe => (.text stage.script.text, stage)
  | command => (.done, { stage with script := command.applyTo stage.script })

end ScriptCommand

end Scanout
