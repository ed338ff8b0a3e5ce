import Scanout.Fence.Basic
import Scanout.Text.Hexadecimal

/-!
# Buffers

Buffers belong to whoever allocated them; here only their handles are passed on, each together with
the fence that guards it.
-/

set_option autoImplicit false

namespace Scanout

structure BufferHandle where
  value : UInt64
  deriving DecidableEq, Inhabited

def BufferHandle.text (handle : BufferHandle) : String :=
  "BufferHandle(" ++ Text.markedHexadecimal handle.value.toNat ++ ")"

def BufferHandle.optionText : Option BufferHandle → String
  | none => "None"
  | some handle => "Some(" ++ handle.text ++ ")"

/-- A buffer, if any, and the fence that guards it. -/
structure FencedBuffer where
  buffer : Option BufferHandle := none
  fence : Fence := .noop
  deriving DecidableEq, Inhabited

namespace FencedBuffer

/-- Puts in another buffer and fence and hands back the ones before. -/
def replace (content : FencedBuffer) (buffer : Option BufferHandle) (fence : Fence) :
    FencedBuffer × FencedBuffer :=
  (⟨buffer, fence⟩, content)

def text (content : FencedBuffer) (table : FenceTable) : String :=
  "FencedResource \x7b buffer: " ++ BufferHandle.optionText content.buffer ++ ", fence: "
    ++ table.text content.fence ++ " \x7d"

end FencedBuffer

end Scanout
