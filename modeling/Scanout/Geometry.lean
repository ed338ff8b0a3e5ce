import Scanout.Decimal.Shortest

/-!
# Rectangles

Corners are binary64 numbers and are compared as such: zeros of either sign are equal and a number
that is not one differs from everything. `Rect.withOrigin` moves a rectangle and puts its corners
in order.
-/

set_option autoImplicit false

namespace Scanout

/-- The lesser of two numbers. If one is not a number, the other one; of equal ones, the second. -/
def lesser (a b : Float) : Float := if a.isNaN || b ≤ a then b else a

/-- The greater of two numbers. If one is not a number, the other one; of equal ones, the second. -/
def greater (a b : Float) : Float := if a.isNaN || a ≤ b then b else a

/-- A rectangle between two corners. -/
structure Rect where
  x0 : Float
  y0 : Float
  x1 : Float
  y1 : Float
  deriving BEq, Inhabited

namespace Rect

def zero : Rect := ⟨0.0, 0.0, 0.0, 0.0⟩

def ofSize (width height : UInt32) : Rect :=
  ⟨0.0, 0.0, width.toUInt64.toFloat, height.toUInt64.toFloat⟩

/-- The rectangle with its corners in order. -/
def ordered (rect : Rect) : Rect :=
  ⟨lesser rect.x0 rect.x1, lesser rect.y0 rect.y1,
    greater rect.x0 rect.x1, greater rect.y0 rect.y1⟩

/-- The rectangle of the same extent at another origin, its corners in order. -/
def withOrigin (rect : Rect) (x y : Float) : Rect :=
  ordered ⟨x, y, x + (rect.x1 - rect.x0), y + (rect.y1 - rect.y0)⟩

/-- The rectangle whose sides have moved outward by `distance`. -/
def inset (rect : Rect) (distance : Float) : Rect :=
  let sides := rect.ordered
  ⟨sides.x0 - distance, sides.y0 - distance, sides.x1 + distance, sides.y1 + distance⟩

/-- Corners have no exponent from `1e-4` to below `1e16` and always show a fraction. -/
def cornerStyle : Decimal.Style where
  positionalFrom := -4
  positionalBelow := 16
  wholeSuffix := ".0"
  exponentMark := "e"
  nan := "NaN"
  infinity := "inf"

def text (rect : Rect) : String :=
  "Rect \x7b x0: " ++ cornerStyle.text rect.x0 ++ ", y0: " ++ cornerStyle.text rect.y0
    ++ ", x1: " ++ cornerStyle.text rect.x1 ++ ", y1: " ++ cornerStyle.text rect.y1 ++ " \x7d"

end Rect

end Scanout
