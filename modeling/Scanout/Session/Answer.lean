import Scanout.Backend.Fault
import Scanout.Device.Report
import Scanout.Session.Command

/-!
# Answers of a session

What a command answers, and what the session tells about each step beside the answer: the calls it
has made in the meantime, the notices, and a status of the display and the backend. An answer comes
with the states of the fences at the moment it is given.
-/

set_option autoImplicit false

namespace Scanout

inductive Answer where
  | nothing
  | failed (cause : Error)
  | fenceFailed (cause : FenceError)
  | completed
  | truth (value : Bool)
  | count (value : Nat)
  | word (value : UInt64)
  | text (text : String)
  | layer (id : LayerId)
  | display (id : DisplayId)
  | content (content : FencedBuffer)
  | summary (summary : ValidateSummary)
  | fence (fence : Fence)
  | shares (fences : List (LayerId × Fence))
  | changes (changes : List (LayerId × Composition))
  | requests (requests : List (LayerId × LayerRequest))
  | configs (configs : List DisplayConfig)
  | config (config : DisplayConfig)
  | info (info : Layer.Info)
  | about (display : Display)
  | frame (frame : Option Frame)

namespace Answer

def ofResult {α : Type} (tell : α → Answer) : Except Error α → Answer
  | .error cause => failed cause
  | .ok value => tell value

def ofCall : CallResult → Answer
  | .done => nothing
  | .replaced previous => content previous
  | .summary found => summary found
  | .fence found => fence found

def ofScript : ScriptAnswer → Answer
  | .done => nothing
  | .count fences => count fences
  | .frame found => frame found
  | .text found => text found

def ofQuery (display : Display) : Query → Answer
  | .hasLayer id => truth (display.layer? id).isSome
  | .latestFence id => ofResult fence (display.latestReleaseFence id)
  | .layerInfo id => ofResult info (display.layerInfo id)
  | .targetSupport width height format dataspace =>
    ofResult (fun _ => nothing) (display.supportsClientTarget width height format dataspace)
  | .changes => ofResult changes display.changedCompositions
  | .requests => ofResult requests display.requests
  | .releaseFences => shares display.releaseFences
  | .retireFence => fence display.retireFence
  | .configs => configs display.configs
  | .activeConfig => ofResult config display.activeConfig
  | .configAttribute id which => ofResult word (display.configAttribute id which)
  | .about => about display
  | .report => text display.report

end Answer

/-- An answer and the states of the fences in it. -/
structure Answered where
  answer : Answer
  fences : FenceTable

inductive CallbackNews where
  | connected (display : DisplayId)
  | refresh (display : DisplayId)
  | tick (display : DisplayId) (deadline : HostTime)
  deriving DecidableEq, Inhabited

def CallbackNews.kind : CallbackNews → CallbackKind
  | connected _ => .hotplug
  | refresh _ => .refresh
  | tick _ _ => .vsync

def CallbackNews.display : CallbackNews → DisplayId
  | connected display => display
  | refresh display => display
  | tick display _ => display

/-- What happens in the course of a step. -/
inductive SessionEvent where
  | called (label : String) (news : CallbackNews)
  | hooked (point : HookPoint)
  | nested (answered : Answered)

/-- The state of the device's display and of the backend after a step. -/
structure Status where
  state : DisplayState
  dirtyLayers : Nat
  framesPresented : Nat
  order : List LayerId
  bufferedTicks : Nat
  script : Script

structure StepReport where
  answered : Answered
  status : Status
  events : List SessionEvent
  notices : List Notice

end Scanout
