import DeskView.Document.Choice

/-!
# Input events

A pointer event has a position on the surface, as fractions of its width and height.
`InputEvent.atPixel` makes one from a position in pixels, `InputEvent.remotePixel` finds the pixel
of the remote frame under it.

The fractions are kept as their bits (`Single`): what is no number has many patterns of bits, and an event
is handed on with the one that it came with.
-/

namespace DeskView

/-- What a pointer does. -/
inductive PointerAction where
  | down
  | up
  | move
  | cancel
  | scroll
deriving Repr, DecidableEq

namespace PointerAction

instance : Choice PointerAction :=
  ⟨[("Down", .down), ("Up", .up), ("Move", .move), ("Cancel", .cancel), ("Scroll", .scroll)]⟩

/-- The action's name. -/
def label : PointerAction → String
  | .down => "Down"
  | .up => "Up"
  | .move => "Move"
  | .cancel => "Cancel"
  | .scroll => "Scroll"

end PointerAction

/-- A number in single precision, or one of the patterns that stand for none. -/
structure Single where
  bits : UInt32
deriving Repr, DecidableEq

namespace Single

/-- The number; all the patterns that stand for none have one value. -/
def value (s : Single) : Float32 := .ofBits s.bits

/-- The bits of a number. -/
def ofValue (v : Float32) : Single := ⟨v.toBits⟩

end Single

/-- A pointer event. -/
structure InputEvent where
  action : PointerAction
  /-- The position across, as a fraction of the width. -/
  x : Single
  /-- The position down, as a fraction of the height. -/
  y : Single
  /-- The moment, in milliseconds of a clock of the caller's. -/
  time : UInt64
deriving DecidableEq

namespace InputEvent

/-- A pixel coordinate as the nearest number in single precision. -/
def coordinate (n : Int32) : Float32 := .ofModel (.ofInt32 n)

/-- A number brought into the range from zero to one; what is no number stays so. -/
def clampUnit (v : Float32) : Float32 :=
  if v < 0 then 0 else if 1 < v then 1 else v

/-- A position within an extent, as a fraction of it; anywhere in an empty extent is its start. -/
def normalize (v : Float32) (extent : UInt32) : Float32 :=
  if extent = 0 then 0 else clampUnit (v / extent.toFloat32)

/-- The event at a position in pixels on a surface. -/
def atPixel (action : PointerAction) (x y : Float32) (width height : UInt32) (time : UInt64) :
    InputEvent :=
  ⟨action, .ofValue (normalize x width), .ofValue (normalize y height), time⟩

/-- A fraction of an extent in whole pixels: the product is taken in double precision, cut towards
zero and kept within a signed word. -/
def scaleTo (v : Float32) (extent : UInt32) : Int32 :=
  (Float.Model.UnpackedFloat.mul .binary64 v.toModel.unpack (.ofUInt32 .binary64 extent)).toInt32

/-- The pixel under the event in a remote frame. -/
def remotePixel (e : InputEvent) (width height : UInt32) : Int32 × Int32 :=
  (scaleTo e.x.value width, scaleTo e.y.value height)

end InputEvent

end DeskView
