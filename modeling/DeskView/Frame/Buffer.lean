import DeskView.Engine.Call
import DeskView.Frame.Error
import DeskView.Frame.Image
import DeskView.Log
import DeskView.Memory

/-!
# The frame buffer

A `FrameBuffer` owns the bytes that the engine fetches into and the staged image made from them.
Three operations run for every frame:

* `fit` gives both the size of the frame that was reported, or refuses the frame and changes
  nothing; `makeRoom` is the same in words of the machine, for sizes that no engine can report too;
* `fill` lets the engine write into the bytes and notes whether it succeeded;
* `stage` copies the bytes into the staged image, and only after a successful fill.

The bytes are replaced exactly when their number changes (`generation` counts these
replacements), the staged image exactly when its width or height changes.
-/

namespace DeskView

/-- The buffer that frames are fetched into, and the image staged from it. -/
structure FrameBuffer where
  /-- The format of every frame. -/
  format : PixelFormat
  bytes : Array UInt8 := #[]
  width : UInt32 := 0
  height : UInt32 := 0
  /-- How often the bytes were replaced. -/
  generation : Nat := 0
  /-- Whether the last fill since the last replacement succeeded. -/
  filled : Bool := false
  staged : Option Image := none
deriving Repr, DecidableEq

/-- What `FrameBuffer.fit` had to replace. -/
structure Replaced where
  bytes : Bool
  image : Bool
deriving Repr, DecidableEq

namespace Replaced

/-- The log records of the replacements. -/
def log (r : Replaced) (g : Geometry) : List Log.Record :=
  let shape := toString g.width ++ "x" ++ toString g.height
  (if r.bytes then
    [Log.debug ("allocating frame buffer: " ++ toString g.size ++ " bytes, " ++ shape)]
  else []) ++
  (if r.image then [Log.debug ("creating staged image: " ++ shape)] else [])

end Replaced

namespace FrameBuffer

/-- The largest number of bytes that an error can name. -/
def maxCount : Nat := UInt64.size - 1

/-- The bytes that fit the reported number, zeroed and counted as a new generation if their number
changed. -/
def resize (b : FrameBuffer) (size : Nat) : FrameBuffer :=
  if b.bytes.size = size then b
  else { b with
    bytes := Array.replicate size 0
    generation := b.generation + 1
    filled := false }

/-- Whether the staged image has this width and height. -/
def isStagedAs (b : FrameBuffer) (width height : UInt32) : Bool :=
  match b.staged with
  | some image => image.width = width && image.height = height
  | none => false

/-- The width and height of the frame, with a blank staged image if there was none of that shape. -/
def reshape (b : FrameBuffer) (width height : UInt32) : FrameBuffer :=
  { b with
    width, height
    staged := if b.isStagedAs width height then b.staged
      else some (.blank width height b.format) }

/-- Makes room for a frame of geometry `g`, or refuses it: a frame must have at least the bytes
that its width and height need. -/
def fit (b : FrameBuffer) (g : Geometry) : Except FrameError (Replaced × FrameBuffer) :=
  let needed := Image.byteLength g.width g.height b.format
  if needed ≤ g.size then
    .ok (⟨b.bytes.size != g.size, !b.isStagedAs g.width g.height⟩,
      (b.resize g.size).reshape g.width g.height)
  else .error (.tooShort (min needed maxCount) g.size)

/-- The bytes that a frame of this width and height needs, unless a word cannot count them. -/
def needed? (b : FrameBuffer) (width height : UInt32) : Option UInt64 :=
  (Memory.product? width.toUInt64 height.toUInt64).bind fun pixels =>
    Memory.product? pixels (.ofNat b.format.bytesPerPixel)

/-- Makes room for a frame of any size that a word can name.  A frame that has too few bytes is
refused; to ask for a larger block of bytes than there can be is fatal.  Neither changes anything. -/
def makeRoom (b : FrameBuffer) (size : UInt64) (width height : UInt32) :
    Outcome FrameError Replaced × FrameBuffer :=
  match b.needed? width height with
  | none => (.error (.tooShort maxCount size.toNat), b)
  | some needed =>
    if size < needed then (.error (.tooShort needed.toNat size.toNat), b)
    else if b.bytes.size != size.toNat && !Memory.canHold size.toNat 1 then (.panic, b)
    else
      (.ok ⟨b.bytes.size != size.toNat, !b.isStagedAs width height⟩,
        (b.resize size.toNat).reshape width height)

/-- Lets the engine fetch into the bytes; the buffer counts as filled only if that succeeds. -/
def fill (b : FrameBuffer) (f : Engine.Fetch) : Outcome FrameError Unit × FrameBuffer :=
  let painted := { b with bytes := f.paint b.bytes, filled := false }
  match f.outcome with
  | .ok () => (.ok (), { painted with filled := true })
  | .error e => (.error (.ofFetch e), painted)
  | .panic => (.panic, painted)

/-- Copies the fetched bytes into the staged image and hands it out. -/
def stage (b : FrameBuffer) : Except FrameError (Image × FrameBuffer) :=
  if !b.filled then .error .notFetched
  else
    match b.staged with
    | none => .error .notFetched
    | some image =>
      let expected := image.pixels.size
      if b.bytes.size < expected then .error (.tooShort expected b.bytes.size)
      else
        let image := { image with pixels := b.bytes.extract 0 expected }
        .ok (image, { b with staged := some image })

end FrameBuffer

end DeskView
