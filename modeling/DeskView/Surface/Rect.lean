/-!
# Rectangles
-/

namespace DeskView

/-- A rectangle of pixels; its corner may lie on either side of the origin. -/
structure Rect where
  x : Int32 := 0
  y : Int32 := 0
  width : UInt32 := 0
  height : UInt32 := 0
deriving Repr, DecidableEq, Inhabited

namespace Rect

/-- The rectangle of a size with its corner at the origin. -/
def sized (width height : UInt32) : Rect := ⟨0, 0, width, height⟩

/-- Whether no pixel lies inside. -/
def isEmpty (r : Rect) : Bool := r.width = 0 || r.height = 0

/-- Whether the pixel `(px, py)` lies inside. -/
def contains (r : Rect) (px py : Int) : Bool :=
  r.x.toInt ≤ px && px < r.x.toInt + r.width.toNat &&
    (r.y.toInt ≤ py && py < r.y.toInt + r.height.toNat)

end Rect

end DeskView
