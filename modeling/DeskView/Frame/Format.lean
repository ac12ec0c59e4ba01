import DeskView.Document.Choice

/-!
# Pixel formats
-/

namespace DeskView

/-- The layout of one pixel. -/
inductive PixelFormat where
  /-- Red, green, blue and alpha, a byte each. -/
  | rgba8
  /-- Blue, green, red and alpha, a byte each. -/
  | bgra8
  /-- Five, six and five bits in two bytes. -/
  | rgb565
deriving Repr, DecidableEq

namespace PixelFormat

instance : Inhabited PixelFormat := ⟨.rgba8⟩

/-- The bytes that one pixel takes. -/
def bytesPerPixel : PixelFormat → Nat
  | .rgba8 => 4
  | .bgra8 => 4
  | .rgb565 => 2

/-- The format's name in a diagnostic. -/
def label : PixelFormat → String
  | .rgba8 => "Rgba8"
  | .bgra8 => "Bgra8"
  | .rgb565 => "Rgb565"

instance : Choice PixelFormat :=
  ⟨[("rgba8", .rgba8), ("bgra8", .bgra8), ("rgb565", .rgb565)]⟩

end PixelFormat

end DeskView
