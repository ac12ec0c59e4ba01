import DeskView.Document.Choice
import DeskView.Surface.Rect

/-!
# Scaling a frame to the surface

`ScaleMode.destination` says which part of a surface a frame covers: all of it when stretched, the
largest centred rectangle of the frame's own shape when letterboxed.  The products are taken in 64
bits, where two 32-bit factors cannot overflow.
-/

namespace DeskView

/-- How a frame is fitted to the surface. -/
inductive ScaleMode where
  /-- The frame covers the whole surface. -/
  | stretch
  /-- The frame keeps its shape and is centred. -/
  | letterbox
deriving Repr, DecidableEq

namespace ScaleMode

instance : Inhabited ScaleMode := ⟨.stretch⟩

instance : Choice ScaleMode := ⟨[("stretch", .stretch), ("letterbox", .letterbox)]⟩

/-- The mode's name in a diagnostic. -/
def label : ScaleMode → String
  | .stretch => "Stretch"
  | .letterbox => "Letterbox"

/-- The width and height of the largest rectangle with the shape of the source inside the
destination: one side is filled, the other follows from the source's shape, rounded down. -/
def fit (srcW srcH destW destH : UInt32) : UInt32 × UInt32 :=
  if destH.toUInt64 * srcW.toUInt64 < destW.toUInt64 * srcH.toUInt64 then
    ((destH.toUInt64 * srcW.toUInt64 / srcH.toUInt64).toUInt32, destH)
  else
    (destW, (destW.toUInt64 * srcH.toUInt64 / srcW.toUInt64).toUInt32)

/-- The part of a `destW` by `destH` surface that a `srcW` by `srcH` frame covers. -/
def destination (mode : ScaleMode) (srcW srcH destW destH : UInt32) : Rect :=
  match mode with
  | .stretch => .sized destW destH
  | .letterbox =>
    if srcW = 0 ∨ srcH = 0 then .sized destW destH
    else
      let (width, height) := fit srcW srcH destW destH
      ⟨((destW - width) / 2).toInt32, ((destH - height) / 2).toInt32, width, height⟩

end ScaleMode

end DeskView
