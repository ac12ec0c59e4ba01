import DeskView.Memory
import DeskView.Surface.Target

/-!
# The in-memory canvas

A `Canvas` is a grid of pixels of four bytes.  `Canvas.overlay` is scaling without filtering: each
pixel of the canvas that lies inside the destination takes the bytes of one source pixel, found by
rounding down, and keeps its own bytes where the image has none there.

A `MemoryTarget` draws on a back canvas and shows a front canvas, which a commit makes equal to
the back one.
-/

namespace DeskView

/-- A grid of pixels of four bytes each. -/
structure Canvas where
  width : UInt32
  height : UInt32
  /-- The bytes, row after row. -/
  pixels : Array UInt8
  /-- How many transactions were committed. -/
  posted : Nat := 0
deriving Repr, DecidableEq

namespace Canvas

/-- The bytes of one pixel. -/
def bytesPerPixel : Nat := 4

/-- Whether there can be a canvas of some size. -/
def canExist (width height : UInt32) : Bool :=
  Memory.canHold (width.toNat * height.toNat) bytesPerPixel

/-- A canvas of zeros. -/
def blank (width height : UInt32) : Canvas :=
  { width, height,
    pixels := Array.replicate (width.toNat * height.toNat * bytesPerPixel) 0 }

/-- The bytes of the pixel in column `x` of row `y`. -/
def pixel? (c : Canvas) (x y : UInt32) : Option (Array UInt8) :=
  if c.width ≤ x ∨ c.height ≤ y then none
  else
    let offset := (y.toNat * c.width.toNat + x.toNat) * bytesPerPixel
    if offset + bytesPerPixel ≤ c.pixels.size then
      some (c.pixels.extract offset (offset + bytesPerPixel))
    else none

/-- The column or row of the source that belongs to place `d` of the destination: the `extent`
places are mapped to `source` ones by rounding down. -/
def scaleDown (d source extent : Int) : Int := d * source / extent

/-- Where in the image the bytes for canvas pixel `(cx, cy)` start, if that pixel lies inside `dst`
and the image has a whole pixel there.  Before its first byte it has none. -/
def sample (image : Image) (src dst : Rect) (cx cy : Nat) : Option Nat :=
  if dst.contains cx cy then
    let sx := src.x.toInt + scaleDown (cx - dst.x.toInt) src.width.toNat dst.width.toNat
    let sy := src.y.toInt + scaleDown (cy - dst.y.toInt) src.height.toNat dst.height.toNat
    let s := sy * image.stride + sx * bytesPerPixel
    if 0 ≤ s ∧ s + bytesPerPixel ≤ image.pixels.size then some s.toNat else none
  else none

/-- The canvas with the part `src` of `image` drawn over its part `dst`. -/
def overlay (c : Canvas) (image : Image) (src dst : Rect) : Canvas :=
  { c with pixels := c.pixels.mapIdx fun i old =>
      let p := i / bytesPerPixel
      match sample image src dst (p % c.width.toNat) (p / c.width.toNat) with
      | some s => image.pixels.getD (s + i % bytesPerPixel) old
      | none => old }

end Canvas

/-- A target that draws in memory. -/
structure MemoryTarget where
  /-- What is drawn on. -/
  back : Canvas
  /-- What is shown. -/
  front : Canvas
  /-- Whether a transaction is open. -/
  inTransaction : Bool := false
deriving Repr, DecidableEq

namespace MemoryTarget

/-- A target with two blank canvases of the given size, of which there can be such (`new?`). -/
def new (width height : UInt32) : MemoryTarget :=
  { back := .blank width height, front := .blank width height }

/-- A target of the given size, if there can be canvases of it. -/
def new? (width height : UInt32) : Option MemoryTarget :=
  if Canvas.canExist width height then some (new width height) else none

/-- Opens a transaction. -/
def begin (t : MemoryTarget) : Outcome FrameError (UInt32 × UInt32) × MemoryTarget :=
  (.ok (t.back.width, t.back.height), { t with inTransaction := true })

/-- Draws on the back canvas, inside a transaction and from a 32-bit format only. -/
def draw (t : MemoryTarget) (image : Image) (src dst : Rect) :
    Outcome FrameError Unit × MemoryTarget :=
  if !t.inTransaction then (.error (.draw "draw outside transaction"), t)
  else if image.format.bytesPerPixel ≠ Canvas.bytesPerPixel then
    (.error (.draw ("unsupported source format " ++ image.format.label)), t)
  else if src.isEmpty || dst.isEmpty then (.ok (), t)
  else (.ok (), { t with back := t.back.overlay image src dst })

/-- Copies the back canvas to the front one and closes the transaction.  The copy writes into the
front canvas's bytes in place, so it needs as many of them as the back canvas has. -/
def commit (t : MemoryTarget) : Outcome FrameError Unit × MemoryTarget :=
  if !t.inTransaction then (.error (.draw "commit outside transaction"), t)
  else
    let back := { t.back with posted := t.back.posted + 1 }
    if t.front.pixels.size = back.pixels.size then
      (.ok (), { back, front := back, inTransaction := false })
    else
      (.panic, { back,
                 front := { t.front with width := back.width, height := back.height },
                 inTransaction := false })

instance : Drawable MemoryTarget := ⟨begin, draw, commit⟩

end MemoryTarget

end DeskView
