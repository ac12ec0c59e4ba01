import DeskView.Frame.Error
import DeskView.Frame.Image

/-!
# Frames for a window that wants blue first

A window takes its pixels as blue, green, red and alpha.  `Image.bgra` gives them: an image in that
order is handed out as it is, one in the other 32-bit order is converted through a scratch buffer
that is kept from frame to frame and overwritten each time.
-/

namespace DeskView

/-- The place of a byte within its pixel once red and blue have changed places. -/
def swappedChannel (channel : Nat) : Nat :=
  if channel = 0 then 2 else if channel = 2 then 0 else channel

/-- Exchanges the first and the third byte of every whole pixel; a partial pixel at the end is left
out. -/
def swapRedBlue (pixels : Array UInt8) : Array UInt8 :=
  Array.ofFn fun i : Fin (pixels.size / 4 * 4) =>
    pixels.getD (i.val / 4 * 4 + swappedChannel (i.val % 4)) 0

/-- The bytes for the window, and the scratch buffer afterwards. -/
structure BgraResult where
  bytes : Except FrameError (Array UInt8)
  scratch : Array UInt8
deriving Repr

/-- The pixels of an image with blue first. -/
def Image.bgra (image : Image) (scratch : Array UInt8) : BgraResult :=
  match image.format with
  | .bgra8 => ⟨.ok image.pixels, scratch⟩
  | .rgba8 => ⟨.ok (swapRedBlue image.pixels), swapRedBlue image.pixels⟩
  | .rgb565 => ⟨.error (.draw "GDI target needs a 32-bit pixel format"), scratch⟩

end DeskView
