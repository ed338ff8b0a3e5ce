import Scanout.Geometry
import Scanout.Text.Hexadecimal

/-!
# Attributes of a layer

How a layer is to be composed, blended, turned, coloured and placed. Every enumeration lists its
values once, in `all`, and names them.
-/

set_option autoImplicit false

namespace Scanout

/-- Who composes a layer. -/
inductive Composition where
  /-- Nobody has been asked yet. -/
  | invalid
  /-- The client draws it into the client target. -/
  | client
  /-- An overlay of the display hardware shows it. -/
  | device
  | solidColor
  | cursor
  /-- A stream that bypasses buffers. -/
  | sideband
  deriving DecidableEq, Inhabited

namespace Composition

def all : List Composition := [invalid, client, device, solidColor, cursor, sideband]

def name : Composition → String
  | invalid => "Invalid"
  | client => "Client"
  | device => "Device"
  | solidColor => "SolidColor"
  | cursor => "Cursor"
  | sideband => "Sideband"

def label : Composition → String
  | invalid => "invalid"
  | client => "client"
  | device => "device"
  | solidColor => "solid-color"
  | cursor => "cursor"
  | sideband => "sideband"

end Composition

/-- How a layer's pixels mix with those beneath it. -/
inductive BlendMode where
  | none
  | premultiplied
  | coverage
  deriving DecidableEq, Inhabited

namespace BlendMode

def all : List BlendMode := [none, premultiplied, coverage]

def name : BlendMode → String
  | none => "None"
  | premultiplied => "Premultiplied"
  | coverage => "Coverage"

end BlendMode

/-- How a layer's buffer is turned before it is shown. -/
inductive Transform where
  | identity
  | flipH
  | flipV
  | rot90
  | rot180
  | rot270
  | flipHRot90
  | flipVRot90
  deriving DecidableEq, Inhabited

namespace Transform

def all : List Transform :=
  [identity, flipH, flipV, rot90, rot180, rot270, flipHRot90, flipVRot90]

def name : Transform → String
  | identity => "Identity"
  | flipH => "FlipH"
  | flipV => "FlipV"
  | rot90 => "Rot90"
  | rot180 => "Rot180"
  | rot270 => "Rot270"
  | flipHRot90 => "FlipHRot90"
  | flipVRot90 => "FlipVRot90"

end Transform

structure Dataspace where
  code : UInt32
  deriving DecidableEq, Inhabited

namespace Dataspace

def unknown : Dataspace := ⟨0⟩

/-- Only the display's own colour space is supported. -/
def isSupported (dataspace : Dataspace) : Bool := dataspace == unknown

def text (dataspace : Dataspace) : String :=
  "Dataspace(" ++ Text.markedHexadecimal dataspace.code.toNat ++ ")"

end Dataspace

structure Color where
  red : UInt8
  green : UInt8
  blue : UInt8
  alpha : UInt8
  deriving DecidableEq, Inhabited

def Color.clear : Color := ⟨0, 0, 0, 0⟩

inductive PixelFormat where
  | rgba8888
  | rgbx8888
  | rgb888
  | rgb565
  | bgra8888
  | other (code : UInt32)
  deriving DecidableEq, Inhabited

namespace PixelFormat

def named : List PixelFormat := [rgba8888, rgbx8888, rgb888, rgb565, bgra8888]

def name : PixelFormat → String
  | rgba8888 => "Rgba8888"
  | rgbx8888 => "Rgbx8888"
  | rgb888 => "Rgb888"
  | rgb565 => "Rgb565"
  | bgra8888 => "Bgra8888"
  | other _ => "Other"

end PixelFormat

/-- Where and how a layer appears. Records are compared field by field, numbers as numbers. -/
structure LayerGeometry where
  /-- The place on the display. -/
  displayFrame : Rect := .zero
  /-- The part of the buffer that is shown. -/
  sourceCrop : Rect := .zero
  /-- The opacity, from 0 to 1. -/
  planeAlpha : Float32 := 1.0
  blend : BlendMode := .none
  transform : Transform := .identity
  /-- The colour of a layer of one colour. -/
  color : Color := .clear
  deriving BEq, Inhabited

/-- What a validation asks the client to do for a layer. -/
inductive LayerRequest where
  | clearClientTarget
  deriving DecidableEq, Inhabited

def LayerRequest.name : LayerRequest → String
  | .clearClientTarget => "ClearClientTarget"

end Scanout
