import DeskView.Proofs.Frame.Bgra
import DeskView.Proofs.Surface.Memory
import DeskView.Proofs.Surface.Transactions

/-!
# The colours of a drawn image

A pixel of a 32-bit image is a `Colour`, whose four bytes stand in the order of the image's format.  Two
things take the bytes of an image apart, and only one of them looks at the format.

* `Image.bgra` does: images of the same colours give the same bytes (`Image.SameColours.bgra_eq`).
* An in-memory target does not.  It takes every format of four bytes a pixel and copies the bytes as
  they are (`MemoryTarget.pixel?_draw`), so that the pixel on the canvas has the image's order, and is
  the red, green, blue and alpha that a canvas is read as only for an image in that order, or for a
  colour with as much red as blue.
-/

namespace DeskView

/-- A colour of a 32-bit format. -/
structure Colour where
  red : UInt8
  green : UInt8
  blue : UInt8
  alpha : UInt8
deriving Repr, DecidableEq

namespace Colour

/-- The bytes of a colour, red first. -/
def rgba (c : Colour) : Array UInt8 := #[c.red, c.green, c.blue, c.alpha]

/-- The bytes of a colour, blue first. -/
def bgra (c : Colour) : Array UInt8 := #[c.blue, c.green, c.red, c.alpha]

/-- The bytes of a colour in the order of a 32-bit format. -/
def bytes (c : Colour) (format : PixelFormat) : Array UInt8 :=
  if format = .bgra8 then c.bgra else c.rgba

theorem bgra_eq_rgba_iff (c : Colour) : c.bgra = c.rgba ↔ c.red = c.blue := by
  simp only [bgra, rgba, Array.mk.injEq, List.cons.injEq, and_true, true_and]
  exact ⟨fun h => h.2, fun h => ⟨h.symm, h⟩⟩

/-- The order of the bytes can be told from a colour unless it has as much red as blue. -/
theorem bytes_eq_rgba_iff (c : Colour) (format : PixelFormat) :
    c.bytes format = c.rgba ↔ format ≠ .bgra8 ∨ c.red = c.blue := by
  unfold bytes
  split
  · rename_i hformat
    rw [bgra_eq_rgba_iff]
    simp [hformat]
  · rename_i hformat
    simp [hformat]

end Colour

namespace Image

/-- Byte `k` of pixel number `p` of an image in a 32-bit format. -/
def byte (image : Image) (p k : Nat) : UInt8 := image.pixels.getD (p * Canvas.bytesPerPixel + k) 0

/-- The colour of pixel number `p` of an image in a 32-bit format. -/
def colour (image : Image) (p : Nat) : Colour :=
  if image.format = .bgra8 then ⟨image.byte p 2, image.byte p 1, image.byte p 0, image.byte p 3⟩
  else ⟨image.byte p 0, image.byte p 1, image.byte p 2, image.byte p 3⟩

/-- Two images of one size whose pixels have the same colours. -/
structure SameColours (image image' : Image) : Prop where
  width : image.width = image'.width
  height : image.height = image'.height
  colour : ∀ p, p < image.width.toNat * image.height.toNat → image.colour p = image'.colour p

variable {image image' : Image}

theorem size_pixels (hformat : image.format.bytesPerPixel = Canvas.bytesPerPixel)
    (himage : image.WellFormed) :
    image.pixels.size = image.width.toNat * image.height.toNat * Canvas.bytesPerPixel :=
  himage.trans (by rw [byteLength, hformat])

/-- An image has all the bytes of its pixels. -/
theorem add_le_size_pixels (hformat : image.format.bytesPerPixel = Canvas.bytesPerPixel)
    (himage : image.WellFormed) {p : Nat} (hp : p < image.width.toNat * image.height.toNat) :
    p * Canvas.bytesPerPixel + Canvas.bytesPerPixel ≤ image.pixels.size := by
  rw [size_pixels hformat himage, ← Nat.succ_mul]
  exact Nat.mul_le_mul_right _ hp

/-- The bytes of a pixel are those of its colour, in the image's order. -/
theorem extract_eq_bytes (hformat : image.format.bytesPerPixel = Canvas.bytesPerPixel)
    (himage : image.WellFormed) {p : Nat} (hp : p < image.width.toNat * image.height.toNat) :
    image.pixels.extract (p * Canvas.bytesPerPixel) (p * Canvas.bytesPerPixel + Canvas.bytesPerPixel) =
      (image.colour p).bytes image.format := by
  change pixelBytes image.pixels p = _
  rw [pixelBytes_eq_getD (add_le_size_pixels hformat himage hp)]
  unfold Colour.bytes colour
  split <;> rfl

/-! ### The window's bytes -/

/-- The window is given the colours of a 32-bit image, blue first. -/
theorem exists_bgra (hformat : image.format.bytesPerPixel = Canvas.bytesPerPixel)
    (himage : image.WellFormed) (scratch : Array UInt8) :
    ∃ bytes, (image.bgra scratch).bytes = .ok bytes ∧
      bytes.size = image.width.toNat * image.height.toNat * Canvas.bytesPerPixel ∧
      ∀ p, p < image.width.toNat * image.height.toNat →
        bytes.extract (p * Canvas.bytesPerPixel) (p * Canvas.bytesPerPixel + Canvas.bytesPerPixel) =
          (image.colour p).bgra := by
  have hsize := size_pixels hformat himage
  cases hf : image.format with
  | rgb565 =>
    rw [hf] at hformat
    cases hformat
  | bgra8 =>
    refine ⟨image.pixels, by rw [bgra, hf], hsize, fun p hp => ?_⟩
    rw [extract_eq_bytes hformat himage hp, hf]
    rfl
  | rgba8 =>
    have hcount : image.pixels.size / 4 = image.width.toNat * image.height.toNat := by
      rw [hsize, Canvas.bytesPerPixel, Nat.mul_div_cancel _ (by decide)]
    refine ⟨swapRedBlue image.pixels, by rw [bgra, hf], by rw [size_swapRedBlue, hcount]; rfl,
      fun p hp => ?_⟩
    change pixelBytes (swapRedBlue image.pixels) p = _
    rw [pixelBytes_swapRedBlue (by rwa [hcount]),
      pixelBytes_eq_getD (add_le_size_pixels hformat himage hp), colour, if_neg (by simp [hf])]
    rfl

/-- **The window's bytes depend on the colours only**, not on the 32-bit format that they come in. -/
theorem SameColours.bgra_eq (h : image.SameColours image')
    (hformat : image.format.bytesPerPixel = Canvas.bytesPerPixel)
    (hformat' : image'.format.bytesPerPixel = Canvas.bytesPerPixel)
    (himage : image.WellFormed) (himage' : image'.WellFormed) (scratch scratch' : Array UInt8) :
    (image.bgra scratch).bytes = (image'.bgra scratch').bytes := by
  obtain ⟨bytes, hbytes, hsize, hcolour⟩ := exists_bgra hformat himage scratch
  obtain ⟨bytes', hbytes', hsize', hcolour'⟩ := exists_bgra hformat' himage' scratch'
  rw [← h.width, ← h.height] at hsize' hcolour'
  have heq : bytes = bytes' := eq_of_pixelBytes_eq hsize hsize' fun p hp =>
    calc pixelBytes bytes p = (image.colour p).bgra := hcolour p hp
      _ = (image'.colour p).bgra := by rw [h.colour p hp]
      _ = pixelBytes bytes' p := (hcolour' p hp).symm
  rw [hbytes, hbytes', heq]

end Image

/-! ### The canvas -/

namespace Canvas

/-- The number of the image's pixel that a draw puts at the pixel `(x, y)` of the canvas, if it puts one
there. -/
def source? (image : Image) (src dst : Rect) (x y : Nat) : Option Nat :=
  if src.isEmpty || dst.isEmpty then none
  else (sample image src dst x y).map (· / bytesPerPixel)

variable {image image' : Image} {src dst : Rect} {x y p : Nat}

/-- A draw takes whole pixels of a 32-bit image. -/
theorem sample_eq_of_source? (hformat : image.format.bytesPerPixel = bytesPerPixel)
    (himage : image.WellFormed) (h : source? image src dst x y = some p) :
    p < image.width.toNat * image.height.toNat ∧
      sample image src dst x y = some (p * bytesPerPixel) := by
  unfold source? at h
  split at h
  · cases h
  · obtain ⟨s, hs, rfl⟩ := Option.map_eq_some_iff.mp h
    have hle := sample_add_le hs
    rw [Image.size_pixels hformat himage] at hle
    have hdvd : bytesPerPixel ∣ s := by
      unfold sample at hs
      split at hs
      · dsimp only at hs
        split at hs
        · cases hs
          -- rows and columns start at multiples of a pixel's bytes
          rw [Image.stride, hformat]
          push_cast
          rw [← Int.mul_assoc, ← Int.add_mul]
          generalize (_ : Int) * _ + _ = place
          unfold bytesPerPixel
          omega
        · cases hs
      · cases hs
    obtain ⟨p, rfl⟩ := hdvd
    rw [Nat.mul_div_cancel_left p (by decide)]
    refine ⟨?_, by rw [Nat.mul_comm]; exact hs⟩
    unfold bytesPerPixel at hle
    omega

/-- Which pixel is taken depends on the size of the image only. -/
theorem source?_congr (hformat : image.format.bytesPerPixel = bytesPerPixel)
    (hformat' : image'.format.bytesPerPixel = bytesPerPixel) (himage : image.WellFormed)
    (himage' : image'.WellFormed) (hw : image.width = image'.width) (hh : image.height = image'.height) :
    source? image src dst x y = source? image' src dst x y := by
  have hstride : image.stride = image'.stride := by
    rw [Image.stride, Image.stride, hw, hformat, hformat']
  have hsize : image.pixels.size = image'.pixels.size := by
    rw [Image.size_pixels hformat himage, Image.size_pixels hformat' himage', hw, hh]
  unfold source? sample
  rw [hstride, hsize]

end Canvas

namespace MemoryTarget

variable {t : MemoryTarget} {image image' : Image} {src dst : Rect}

/-- A draw of a 32-bit image inside a transaction succeeds, and changes nothing but the bytes that are
drawn on. -/
theorem draw_of_inTransaction (ht : t.inTransaction = true)
    (hformat : image.format.bytesPerPixel = Canvas.bytesPerPixel) (src dst : Rect) :
    t.draw image src dst =
      (.ok (), { t with
        back := if src.isEmpty || dst.isEmpty then t.back else t.back.overlay image src dst }) := by
  unfold draw
  rw [if_neg (by simp [ht]), if_neg (by simp [hformat])]
  split <;> rfl

/-- **What a draw does to a pixel**: it becomes the bytes of its source, in the order of the image. -/
theorem pixel?_draw (ht : t.inTransaction = true) (hback : t.back.WellFormed)
    (hformat : image.format.bytesPerPixel = Canvas.bytesPerPixel) (himage : image.WellFormed)
    (src dst : Rect) {x y : UInt32} (hx : x < t.back.width) (hy : y < t.back.height) :
    (t.draw image src dst).2.back.pixel? x y =
      match Canvas.source? image src dst x.toNat y.toNat with
      | some p => some ((image.colour p).bytes image.format)
      | none => t.back.pixel? x y := by
  rw [draw_of_inTransaction ht hformat]
  by_cases hempty : (src.isEmpty || dst.isEmpty) = true
  · simp only [Canvas.source?, hempty, if_true]
  · cases hsource : Canvas.source? image src dst x.toNat y.toNat with
    | some p =>
      obtain ⟨hp, hsample⟩ := Canvas.sample_eq_of_source? hformat himage hsource
      dsimp only
      rw [if_neg hempty, Canvas.pixel?_overlay hback image src dst hx hy, hsample]
      exact congrArg some (Image.extract_eq_bytes hformat himage hp)
    | none =>
      rw [Canvas.source?, if_neg hempty, Option.map_eq_none_iff] at hsource
      dsimp only
      rw [if_neg hempty, Canvas.pixel?_overlay hback image src dst hx hy, hsource]

/-- No draw changes the size of the canvas that is drawn on, and it stays whole. -/
theorem back_draw (t : MemoryTarget) (image : Image) (src dst : Rect) :
    (t.draw image src dst).2.back.width = t.back.width ∧
      (t.draw image src dst).2.back.height = t.back.height ∧
      (t.back.WellFormed → (t.draw image src dst).2.back.WellFormed) := by
  rcases t.draw_cases image src dst with hkept | hdrawn
  · rw [hkept]
    exact ⟨rfl, rfl, id⟩
  · rw [hdrawn]
    exact ⟨rfl, rfl, fun hback => hback.overlay image src dst⟩

/-- A draw changes the bytes of the back canvas only. -/
theorem draw_eq (ht : t.inTransaction = true)
    (hformat : image.format.bytesPerPixel = Canvas.bytesPerPixel) (src dst : Rect) :
    t.draw image src dst = (.ok (), { t with
      back := { t.back with pixels := (t.draw image src dst).2.back.pixels } }) := by
  rw [draw_of_inTransaction ht hformat]
  dsimp only
  split <;> rfl

/-- Two images of the same colours leave the same canvas unless the order of their bytes shows. -/
theorem draw_eq_draw_iff (ht : t.inTransaction = true) (hback : t.back.WellFormed)
    (hformat : image.format = .rgba8) (hformat' : image'.format = .bgra8) (himage : image.WellFormed)
    (himage' : image'.WellFormed) (h : image.SameColours image') (src dst : Rect) :
    t.draw image src dst = t.draw image' src dst ↔
      ∀ x y p, x < t.back.width → y < t.back.height →
        Canvas.source? image src dst x.toNat y.toNat = some p →
        (image.colour p).red = (image.colour p).blue := by
  have hbpp : image.format.bytesPerPixel = Canvas.bytesPerPixel := by rw [hformat]; rfl
  have hbpp' : image'.format.bytesPerPixel = Canvas.bytesPerPixel := by rw [hformat']; rfl
  have hsource : ∀ x y, Canvas.source? image src dst x y = Canvas.source? image' src dst x y :=
    fun x y => Canvas.source?_congr hbpp hbpp' himage himage' h.width h.height
  -- one pixel of the two canvases
  have hpixel : ∀ x y, x < t.back.width → y < t.back.height →
      ((t.draw image src dst).2.back.pixel? x y = (t.draw image' src dst).2.back.pixel? x y ↔
        ∀ p, Canvas.source? image src dst x.toNat y.toNat = some p →
          (image.colour p).red = (image.colour p).blue) := by
    intro x y hx hy
    rw [pixel?_draw ht hback hbpp himage src dst hx hy,
      pixel?_draw ht hback hbpp' himage' src dst hx hy, ← hsource]
    cases hp : Canvas.source? image src dst x.toNat y.toNat with
    | none => simp
    | some p =>
      -- one colour, in either order
      have hcolour := h.colour p (Canvas.sample_eq_of_source? hbpp himage hp).1
      simp only [hformat, hformat', ← hcolour, Option.some.injEq, forall_eq']
      rw [eq_comm]
      exact Colour.bgra_eq_rgba_iff _
  have hpixels : t.draw image src dst = t.draw image' src dst ↔
      (t.draw image src dst).2.back.pixels = (t.draw image' src dst).2.back.pixels :=
    ⟨fun heq => by rw [heq], fun heq => by rw [draw_eq ht hbpp, draw_eq ht hbpp', heq]⟩
  obtain ⟨hw, hh, hwf⟩ := back_draw t image src dst
  obtain ⟨hw', hh', hwf'⟩ := back_draw t image' src dst
  rw [hpixels, Canvas.pixels_eq_iff (hwf hback) (hwf' hback) (hw.trans hw'.symm) (hh.trans hh'.symm),
    hw, hh]
  constructor
  · intro heq x y p hx hy
    exact (hpixel x y hx hy).mp (heq x y hx hy) p
  · intro hgrey x y hx hy
    exact (hpixel x y hx hy).mpr fun p => hgrey x y p hx hy

/-- Neither does any other call. -/
theorem back_call (t : MemoryTarget) (call : TargetCall) :
    (Drawable.call t call).2.back.width = t.back.width ∧
      (Drawable.call t call).2.back.height = t.back.height ∧
      (t.back.WellFormed → (Drawable.call t call).2.back.WellFormed) := by
  cases call with
  | begin => exact ⟨rfl, rfl, id⟩
  | draw image src dst => exact back_draw t image src dst
  | commit =>
    change (t.commit).2.back.width = _ ∧ (t.commit).2.back.height = _ ∧
      (_ → (t.commit).2.back.WellFormed)
    unfold commit
    split
    · exact ⟨rfl, rfl, id⟩
    · dsimp only
      split <;> exact ⟨rfl, rfl, id⟩

theorem back_after {t : MemoryTarget} (hback : t.back.WellFormed) (calls : List TargetCall) :
    (Drawable.after t calls).back.width = t.back.width ∧
      (Drawable.after t calls).back.height = t.back.height ∧
      (Drawable.after t calls).back.WellFormed := by
  induction calls generalizing t with
  | nil => exact ⟨rfl, rfl, hback⟩
  | cons call calls ih =>
    obtain ⟨hw, hh, hwf⟩ := back_call t call
    have hrest := ih (hwf hback)
    rwa [hw, hh] at hrest

/-- **A canvas takes the bytes of an image, not its colours.**  Inside a transaction, whatever was done
with the target since it was new, a 32-bit image is drawn; the pixels that have no source stay as they
were, and each other one takes the four bytes of its source in the order of the image.

So it holds the red, green, blue and alpha of its source exactly if that is the order of the image or
there is as much red as blue in the colour; and two images of the same colours, one in each order, for
which the window is given the same bytes, leave the same canvas exactly if there is as much red as blue
in all that is drawn of them. -/
theorem canvas_takes_bytes_of_image {width height : UInt32} {fresh : MemoryTarget}
    (hfresh : new? width height = some fresh) (calls : List TargetCall)
    (hopen : (Drawable.after fresh calls).inTransaction = true) {image : Image}
    (hformat : image.format.bytesPerPixel = Canvas.bytesPerPixel) (himage : image.WellFormed)
    (src dst : Rect) :
    let t := Drawable.after fresh calls
    let source x y := Canvas.source? image src dst (UInt32.toNat x) (UInt32.toNat y)
    (t.draw image src dst).1 = .ok () ∧
    (∀ x y, x < width → y < height →
      (source x y = none → (t.draw image src dst).2.back.pixel? x y = t.back.pixel? x y) ∧
      ∀ p, source x y = some p →
        p < image.width.toNat * image.height.toNat ∧
        (t.draw image src dst).2.back.pixel? x y = some ((image.colour p).bytes image.format) ∧
        ((t.draw image src dst).2.back.pixel? x y = some (image.colour p).rgba ↔
          image.format = .rgba8 ∨ (image.colour p).red = (image.colour p).blue)) ∧
    ∀ image', image.format = .rgba8 → image'.format = .bgra8 → image'.WellFormed →
      image.SameColours image' →
      (∀ scratch scratch', (image.bgra scratch).bytes = (image'.bgra scratch').bytes) ∧
      (t.draw image src dst = t.draw image' src dst ↔
        ∀ x y p, x < width → y < height → source x y = some p →
          (image.colour p).red = (image.colour p).blue) := by
  intro t source
  obtain ⟨-, rfl⟩ := new?_eq_some_iff.mp hfresh
  have hblank : (new width height).back.WellFormed := Canvas.wellFormed_blank width height
  obtain ⟨hw, hh, hback⟩ : t.back.width = width ∧ t.back.height = height ∧ t.back.WellFormed :=
    back_after hblank calls
  refine ⟨by rw [draw_eq hopen hformat], fun x y hx hy => ?_, ?_⟩
  · have hxt : x < t.back.width := by rwa [hw]
    have hyt : y < t.back.height := by rwa [hh]
    have hpixel : (t.draw image src dst).2.back.pixel? x y =
        match source x y with
        | some p => some ((image.colour p).bytes image.format)
        | none => t.back.pixel? x y :=
      pixel?_draw hopen hback hformat himage src dst hxt hyt
    constructor
    · intro hnone
      rw [hpixel, hnone]
    · intro p hp
      rw [hp] at hpixel
      refine ⟨(Canvas.sample_eq_of_source? hformat himage hp).1, hpixel, ?_⟩
      rw [hpixel, Option.some.injEq, Colour.bytes_eq_rgba_iff]
      cases hf : image.format with
      | rgba8 => simp
      | bgra8 => simp
      | rgb565 =>
        rw [hf] at hformat
        cases hformat
  · intro image' hrgba hbgra himage' hsame
    have hformat' : image'.format.bytesPerPixel = Canvas.bytesPerPixel := by rw [hbgra]; rfl
    refine ⟨fun scratch scratch' =>
      hsame.bgra_eq hformat hformat' himage himage' scratch scratch', ?_⟩
    have hiff := draw_eq_draw_iff hopen hback hrgba hbgra himage himage' hsame src dst
    rwa [hw, hh] at hiff

/-- A single pixel with more red than blue: its two images are the same to the window, and not on the
canvas. -/
theorem canvas_takes_bytes_of_image_one :
    let t := Drawable.after (new 1 1) [.begin]
    let image : Image := ⟨1, 1, .rgba8, #[3, 2, 1, 4]⟩
    let image' : Image := ⟨1, 1, .bgra8, #[1, 2, 3, 4]⟩
    new? 1 1 = some (new 1 1) ∧ t.inTransaction = true ∧
    (t.draw image (.sized 1 1) (.sized 1 1)).2.back.pixel? 0 0 = some #[3, 2, 1, 4] ∧
      (image.bgra #[]).bytes = (image'.bgra #[]).bytes ∧
      t.draw image (.sized 1 1) (.sized 1 1) ≠ t.draw image' (.sized 1 1) (.sized 1 1) := by
  intro t image image'
  have hfresh : new? 1 1 = some (new 1 1) := rfl
  obtain ⟨-, hpixel, htwin⟩ := canvas_takes_bytes_of_image hfresh [.begin] rfl
    (show image.format.bytesPerPixel = Canvas.bytesPerPixel from rfl) (show image.WellFormed from rfl)
    (.sized 1 1) (.sized 1 1)
  have hsource : Canvas.source? image (.sized 1 1) (.sized 1 1) 0 0 = some 0 := by decide
  have hsame : image.SameColours image' := ⟨rfl, rfl, by decide⟩
  obtain ⟨hbgra, hdraw⟩ := htwin image' rfl rfl rfl hsame
  refine ⟨hfresh, rfl, ((hpixel 0 0 (by decide) (by decide)).2 0 hsource).2.1, hbgra #[] #[],
    fun heq => ?_⟩
  exact absurd (hdraw.mp heq 0 0 0 (by decide) (by decide) hsource) (by decide)

/-- A drawn pixel need not hold the colour of its source, red first. -/
theorem not_canvas_keeps_colours :
    ¬ ∀ (width height : UInt32) (fresh : MemoryTarget) (calls : List TargetCall) (image : Image)
      (src dst : Rect) (x y : UInt32) (p : Nat),
      let t := Drawable.after fresh calls
      new? width height = some fresh → t.inTransaction = true →
      image.format.bytesPerPixel = Canvas.bytesPerPixel → image.WellFormed → x < width → y < height →
      Canvas.source? image src dst x.toNat y.toNat = some p →
      (t.draw image src dst).2.back.pixel? x y = some (image.colour p).rgba := by
  intro h
  have hpixel := h 1 1 (new 1 1) [.begin] ⟨1, 1, .bgra8, #[1, 2, 3, 4]⟩ (.sized 1 1) (.sized 1 1) 0 0 0
    rfl rfl rfl rfl (by decide) (by decide) (by decide)
  revert hpixel
  decide

end MemoryTarget

end DeskView
