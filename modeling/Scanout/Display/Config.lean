import Scanout.Backend.Frame
import Scanout.Clock.HostTime
import Scanout.Decimal.Fixed
import Scanout.Identity

/-!
# Configurations of a display

A backend lists its configurations by index and may list one shape several times. `coalesce` gives
every shape one configuration, which remembers the indices it stands for, in ascending order.
Configurations are numbered from 1 in order of first appearance.
-/

set_option autoImplicit false

namespace Scanout

structure DisplayConfig where
  id : ConfigId
  shape : ConfigShape
  /-- The backend's indices of this shape, ascending. -/
  backendIndices : List Nat
  deriving DecidableEq, Inhabited

inductive Attribute where
  | width
  | height
  | vsyncPeriod
  | dpiX
  | dpiY
  deriving DecidableEq, Inhabited

namespace Attribute

def all : List Attribute := [width, height, vsyncPeriod, dpiX, dpiY]

def name : Attribute → String
  | width => "Width"
  | height => "Height"
  | vsyncPeriod => "VsyncPeriod"
  | dpiX => "DpiX"
  | dpiY => "DpiY"

end Attribute

inductive ColorMode where
  | native
  | srgb
  | displayP3
  deriving DecidableEq, Inhabited

namespace ColorMode

def all : List ColorMode := [native, srgb, displayP3]

def name : ColorMode → String
  | native => "Native"
  | srgb => "Srgb"
  | displayP3 => "DisplayP3"

end ColorMode

namespace DisplayConfig

/-- The value of an attribute in a 64-bit register. -/
def valueOf (config : DisplayConfig) : Attribute → UInt64
  | .width => config.shape.width.toUInt64
  | .height => config.shape.height.toUInt64
  | .vsyncPeriod => config.shape.vsyncPeriod.clampedNanos
  | .dpiX => config.shape.dpiX.toUInt64
  | .dpiY => config.shape.dpiY.toUInt64

def rateText (period : Duration) : String :=
  if period.isZero then "" else " @ " ++ Decimal.fixedText 1 (1.0 / period.seconds) ++ " Hz"

/-- A density that is given in dots per thousand inches. -/
def densityText (dotsPerThousand : UInt32) : String :=
  Decimal.fixedText 1 (dotsPerThousand.toUInt64.toFloat / 1000.0)

/-- The configuration in diagnostics, as in `1920 x 1080 @ 60.0 Hz, 160.0 x 160.0 DPI`. -/
def text (config : DisplayConfig) : String :=
  toString config.shape.width.toNat ++ " x " ++ toString config.shape.height.toNat
    ++ rateText config.shape.vsyncPeriod ++ ", " ++ densityText config.shape.dpiX ++ " x "
    ++ densityText config.shape.dpiY ++ " DPI"

/-- The number of the configuration that follows `count` others; numbers end with the register. -/
def idAfter (count : Nat) : ConfigId := ⟨saturate32 (count + 1)⟩

/-- Adds an index to the configuration of this shape, if there is one. -/
def addIndex? (index : Nat) (shape : ConfigShape) :
    List DisplayConfig → Option (List DisplayConfig)
  | [] => none
  | config :: rest =>
    if config.shape = shape then
      some ({ config with backendIndices := config.backendIndices ++ [index] } :: rest)
    else (addIndex? index shape rest).map (config :: ·)

/-- Files one entry of the backend's list: under its shape, or as a configuration of its own. -/
def file (configs : List DisplayConfig) (index : Nat) (shape : ConfigShape) :
    List DisplayConfig :=
  (addIndex? index shape configs).getD (configs ++ [⟨idAfter configs.length, shape, [index]⟩])

def fileFrom (configs : List DisplayConfig) (index : Nat) : List ConfigShape → List DisplayConfig
  | [] => configs
  | shape :: rest => fileFrom (file configs index shape) (index + 1) rest

/-- One configuration for each shape in the backend's list. -/
def coalesce (shapes : List ConfigShape) : List DisplayConfig := fileFrom [] 0 shapes

end DisplayConfig

end Scanout
