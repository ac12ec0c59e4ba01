import DeskView.Frame.Format

/-!
# Images

An image is a row-major run of pixels, the rows packed without padding.
-/

namespace DeskView

/-- A picture in memory. -/
structure Image where
  width : UInt32
  height : UInt32
  format : PixelFormat
  /-- The pixel bytes, row after row. -/
  pixels : Array UInt8
deriving Repr, DecidableEq

namespace Image

/-- The bytes from the start of one row to the start of the next. -/
def stride (image : Image) : Nat :=
  image.width.toNat * image.format.bytesPerPixel

/-- The bytes that a `width` by `height` picture takes in `format`. -/
def byteLength (width height : UInt32) (format : PixelFormat) : Nat :=
  width.toNat * height.toNat * format.bytesPerPixel

/-- A picture of `width` by `height` pixels, all bytes zero. -/
def blank (width height : UInt32) (format : PixelFormat) : Image :=
  ⟨width, height, format, Array.replicate (byteLength width height format) 0⟩

/-- An image whose pixel bytes fit its width, height and format. -/
def WellFormed (image : Image) : Prop :=
  image.pixels.size = byteLength image.width image.height image.format

theorem wellFormed_blank (width height : UInt32) (format : PixelFormat) :
    (blank width height format).WellFormed := by
  simp [WellFormed, blank]

end Image

end DeskView
