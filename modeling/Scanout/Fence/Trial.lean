import Scanout.Buffer
import Scanout.Fence.Deferred
import Scanout.Fence.Named

/-!
# Trials of fences

A trial works with fences, rows of deferred fences and guarded buffers by name, one command after
the other. Several waiters may wait for one fence while its producer completes it: all of them see the
same result.
-/

set_option autoImplicit false

namespace Scanout

structure FenceTrial where
  named : NamedFences := {}
  queues : List (String × DeferredFences) := []
  resources : List (String × FencedBuffer) := []
  deriving Inhabited

/-- One command of a trial. A fence without a name is one that is satisfied. -/
inductive FenceCommand where
  | create (name : String)
  | createNoop (name : String)
  | duplicate (name : Option String) (copy : String)
  | drop (name : String)
  | finish (name : String) (status : FenceStatus)
  | show (name : Option String)
  | showSignal (name : String)
  | same (name other : Option String)
  | wait (name : Option String)
  | waitTimeout (name : Option String)
  | waitAll (name : String) (waiters : Nat) (status : FenceStatus)
  | createQueue (name : String)
  | copyQueue (name copy : String)
  | push (queue : String) (name : Option String)
  | showQueue (name : String)
  | createResource (name : String) (buffer : Option BufferHandle) (fence : Option String)
  | createEmptyResource (name : String)
  | replace (resource : String) (buffer : Option BufferHandle) (fence : Option String)
  | showResource (name : String)

inductive FenceAnswer where
  | nothing
  | number (id : Nat)
  | truth (value : Bool)
  | fence (fence : Fence)
  | text (text : Option String)
  | waited (results : List (Except FenceError Unit))
  | result (result : Except FenceError Unit)
  | queue (fences : DeferredFences)
  | content (content : FencedBuffer)
  | resource (content : FencedBuffer)
  | detail (fence : Fence)
  | unknown

namespace FenceTrial

/-- The trial with a value under a name, in place of the one that had it. -/
def putIn {α : Type} (name : String) (value : α) (entries : List (String × α)) :
    List (String × α) :=
  (name, value) :: entries.filter fun entry => entry.1 != name

def renamed (trial : FenceTrial) (named : NamedFences) : FenceTrial := { trial with named := named }

def numberAnswer (fence : Fence) : FenceAnswer :=
  match fence.id? with
  | none => .nothing
  | some id => .number id

def run (trial : FenceTrial) : FenceCommand → FenceAnswer × FenceTrial
  | .create name =>
    let (fence, named) := trial.named.create name
    (numberAnswer fence, trial.renamed named)
  | .createNoop name => (.nothing, trial.renamed (trial.named.put name .noop))
  | .duplicate name copy =>
    (.nothing, trial.renamed (trial.named.put copy (trial.named.fence name)))
  | .drop name =>
    let (found, named) := trial.named.drop name
    (.truth found, trial.renamed named)
  | .finish name status =>
    let (found, named) := trial.named.finish name status
    (.truth found, trial.renamed named)
  | .show name => (.detail (trial.named.fence name), trial)
  | .showSignal name =>
    (.text ((trial.named.signals.lookup name).map FenceTable.signalText), trial)
  | .same name other => (.truth ((trial.named.fence name).sameAs (trial.named.fence other)), trial)
  | .wait name =>
    match trial.named.table.wait? (trial.named.fence name) with
    | none => (.unknown, trial)
    | some result => (.result result, trial)
  | .waitTimeout name =>
    (.result (trial.named.table.waitTimeout (trial.named.fence name)), trial)
  | .waitAll name waiters status =>
    let fence := trial.named.fence (some name)
    let named := (trial.named.finish name status).2
    (.waited (List.replicate waiters (named.table.waitTimeout fence)), trial.renamed named)
  | .createQueue name => (.nothing, { trial with queues := putIn name {} trial.queues })
  | .copyQueue name copy =>
    match trial.queues.lookup name with
    | none => (.unknown, trial)
    | some queue => (.nothing, { trial with queues := putIn copy queue trial.queues })
  | .push queue name =>
    match trial.queues.lookup queue with
    | none => (.unknown, trial)
    | some fences =>
      let (after, evicted) := fences.push (trial.named.fence name)
      (.fence evicted, { trial with queues := putIn queue after trial.queues })
  | .showQueue name =>
    match trial.queues.lookup name with
    | none => (.unknown, trial)
    | some queue => (.queue queue, trial)
  | .createResource name buffer fence =>
    (.nothing, { trial with
      resources := putIn name ⟨buffer, trial.named.fence fence⟩ trial.resources })
  | .createEmptyResource name =>
    (.nothing, { trial with resources := putIn name {} trial.resources })
  | .replace resource buffer fence =>
    match trial.resources.lookup resource with
    | none => (.unknown, trial)
    | some content =>
      let (after, previous) := content.replace buffer (trial.named.fence fence)
      (.content previous, { trial with resources := putIn resource after trial.resources })
  | .showResource name =>
    match trial.resources.lookup name with
    | none => (.unknown, trial)
    | some content => (.resource content, trial)

/-- Runs commands one after the other. Each answer comes with the states of the fences at that
moment. -/
def runAll (trial : FenceTrial) : List FenceCommand → List (FenceAnswer × FenceTable)
  | [] => []
  | command :: rest =>
    let (answer, after) := trial.run command
    (answer, after.named.table) :: after.runAll rest

end FenceTrial

end Scanout
