/-!
# Frame geometry

The engine reports the size of its current frame as three signed words.  They describe a frame
only if all three are positive (`Reported.geometry?`); anything else means "no frame yet".
-/

namespace DeskView

/-- The size of a frame: its bytes, and its width and height in pixels. -/
structure Geometry where
  size : Nat
  width : UInt32
  height : UInt32
deriving Repr, DecidableEq

/-- What the engine reported for the current frame. -/
structure Reported where
  size : Int32
  width : Int32
  height : Int32
deriving Repr, DecidableEq

namespace Reported

/-- The frame that was reported, if one is ready. -/
def geometry? (r : Reported) : Option Geometry :=
  if 0 < r.size ∧ 0 < r.width ∧ 0 < r.height then
    some ⟨r.size.toInt.toNat, r.width.toUInt32, r.height.toUInt32⟩
  else none

end Reported

end DeskView
