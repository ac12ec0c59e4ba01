import DeskView.Frame.Bgra
import DeskView.Proofs.Frame.Pixels

/-!
# Frames with blue first

`swapRedBlue` gives all bytes at once, each by its place.  `refill` is the conversion as a frame goes
through it: the scratch buffer is emptied, and the whole pixels of the frame are appended to it one after
the other, the first byte of each exchanged with the third.  `Swapped` says of a buffer that it holds
what a number of pixels come to.  The emptied buffer does for none (`Swapped.nil`), one turn of the loop
adds one (`Swapped.append`), and there is only one such buffer for each number of pixels
(`Swapped.unique`), so that the loop comes to `swapRedBlue` whatever the scratch buffer held before
(`refill_eq_swapRedBlue`).

To convert twice gives the whole pixels back (`swapRedBlue_swapRedBlue`), and of the frames that went
through the scratch buffer before nothing shows in the bytes of a frame (`Image.bgraEach_eq_map`).
-/

namespace DeskView

/-- A pixel's bytes, the first one exchanged with the third. -/
def blueFirst (pixel : Array UInt8) : Array UInt8 :=
  #[pixel.getD 2 0, pixel.getD 1 0, pixel.getD 0 0, pixel.getD 3 0]

variable {pixels buffer buffer' : Array UInt8} {n p k : Nat}

/-! ### All bytes at once -/

@[simp]
theorem size_swapRedBlue (pixels : Array UInt8) : (swapRedBlue pixels).size = pixels.size / 4 * 4 := by
  rw [swapRedBlue, Array.size_ofFn]

theorem getD_swapRedBlue (hp : p < pixels.size / 4) (hk : k < 4) :
    (swapRedBlue pixels).getD (p * 4 + k) 0 = pixels.getD (p * 4 + swappedChannel k) 0 := by
  have hi : p * 4 + k < (swapRedBlue pixels).size := by
    rw [size_swapRedBlue]
    omega
  have hpixel : (p * 4 + k) / 4 = p := by omega
  have hbyte : (p * 4 + k) % 4 = k := by omega
  rw [← Array.getElem_eq_getD 0 (h := hi)]
  simp only [swapRedBlue, Array.getElem_ofFn, hpixel, hbyte]

/-- Each whole pixel is converted in its place. -/
theorem pixelBytes_swapRedBlue (hp : p < pixels.size / 4) :
    pixelBytes (swapRedBlue pixels) p = blueFirst (pixelBytes pixels p) := by
  rw [pixelBytes_eq_getD (by rw [size_swapRedBlue]; omega), getD_swapRedBlue hp (by decide : 0 < 4),
    getD_swapRedBlue hp (by decide : 1 < 4), getD_swapRedBlue hp (by decide : 2 < 4),
    getD_swapRedBlue hp (by decide : 3 < 4), @pixelBytes_eq_getD pixels p (by omega)]
  rfl

/-- **To exchange twice gives the whole pixels back.** -/
theorem swapRedBlue_swapRedBlue (pixels : Array UInt8) :
    swapRedBlue (swapRedBlue pixels) = pixels.extract 0 (pixels.size / 4 * 4) := by
  have hcount : (swapRedBlue pixels).size / 4 = pixels.size / 4 := by
    rw [size_swapRedBlue, Nat.mul_div_cancel _ (by decide)]
  refine eq_of_pixelBytes_eq (n := pixels.size / 4) ?_ ?_ fun p hp => ?_
  · rw [size_swapRedBlue, hcount]
  · rw [Array.size_extract]
    omega
  · obtain ⟨r, g, b, a, hpixel⟩ := exists_pixelBytes_eq hp
    rw [pixelBytes_swapRedBlue (by rwa [hcount]), pixelBytes_swapRedBlue hp, pixelBytes_extract hp,
      hpixel]
    rfl

/-! ### Pixel after pixel -/

/-- The scratch buffer emptied, and the whole pixels appended to it with blue first. -/
def refill (scratch pixels : Array UInt8) : Array UInt8 :=
  (wholePixels pixels).foldl (fun buffer pixel => buffer ++ blueFirst pixel) (scratch.extract 0 0)

/-- A buffer that holds what the first `n` pixels come to. -/
structure Swapped (pixels : Array UInt8) (n : Nat) (buffer : Array UInt8) : Prop where
  size : buffer.size = n * 4
  pixel : ∀ p, p < n → pixelBytes buffer p = blueFirst (pixelBytes pixels p)

/-- Nothing is left in the emptied buffer. -/
theorem Swapped.nil (pixels scratch : Array UInt8) : Swapped pixels 0 (scratch.extract 0 0) :=
  ⟨by rw [Array.size_extract]; omega, fun _ hp => absurd hp (Nat.not_lt_zero _)⟩

/-- One turn of the loop. -/
theorem Swapped.append (h : Swapped pixels n buffer) :
    Swapped pixels (n + 1) (buffer ++ blueFirst (pixelBytes pixels n)) := by
  constructor
  · rw [Array.size_append, h.size, Nat.succ_mul]
    rfl
  · intro p hp
    rcases Nat.lt_succ_iff_lt_or_eq.mp hp with hlt | rfl
    · -- what was appended before stays
      rw [pixelBytes_append_of_le (by rw [h.size]; omega), h.pixel p hlt]
    · exact pixelBytes_append_self h.size rfl

theorem Swapped.unique (h : Swapped pixels n buffer) (h' : Swapped pixels n buffer') :
    buffer = buffer' :=
  eq_of_pixelBytes_eq h.size h'.size fun p hp => (h.pixel p hp).trans (h'.pixel p hp).symm

/-- The whole loop. -/
theorem swapped_refill (scratch pixels : Array UInt8) :
    Swapped pixels (pixels.size / 4) (refill scratch pixels) := by
  unfold refill wholePixels
  induction pixels.size / 4 with
  | zero => exact Swapped.nil pixels scratch
  | succ n ih =>
    rw [List.range_succ, List.map_append, List.foldl_append]
    exact ih.append

/-- **The loop comes to the bytes all at once**, whatever was in the scratch buffer. -/
theorem refill_eq_swapRedBlue (scratch pixels : Array UInt8) :
    refill scratch pixels = swapRedBlue pixels :=
  (swapped_refill scratch pixels).unique
    ⟨size_swapRedBlue pixels, fun _ hp => pixelBytes_swapRedBlue hp⟩

/-! ### Frames one after the other -/

namespace Image

/-- The answers for some images that go through one scratch buffer one after the other. -/
def bgraEach (scratch : Array UInt8) : List Image → List (Except FrameError (Array UInt8))
  | [] => []
  | image :: rest => (image.bgra scratch).bytes :: bgraEach (image.bgra scratch).scratch rest

/-- The bytes of an image do not depend on the scratch buffer. -/
theorem bytes_bgra (image : Image) (scratch scratch' : Array UInt8) :
    (image.bgra scratch).bytes = (image.bgra scratch').bytes := by
  unfold bgra
  split <;> rfl

/-- Neither do those of images that go through it one after the other. -/
theorem bgraEach_eq_map (scratch : Array UInt8) (images : List Image) :
    bgraEach scratch images = images.map fun image => (image.bgra #[]).bytes := by
  induction images generalizing scratch with
  | nil => rfl
  | cons image rest ih => rw [bgraEach, ih, List.map_cons, bytes_bgra image scratch #[]]

/-- **A frame is converted faithfully, whatever was converted before.**

* Of a frame with red first, the whole pixels come out in their places with blue first, as the loop over
  them leaves them in the scratch buffer, and a partial pixel at the end does not; taken for a frame with
  red first, of any width and height, what came out is converted to the whole pixels again.
* A frame with blue first is handed out as it is, and one in the 16-bit format is refused; both leave the
  scratch buffer alone.

The answers for any frames that share a scratch buffer are those that they get from an empty one. -/
theorem bgra_is_faithful (image : Image) (scratch : Array UInt8) :
    (match image.format with
      | .rgba8 => ∃ bytes, image.bgra scratch = ⟨.ok bytes, bytes⟩ ∧
          bytes = refill scratch image.pixels ∧
          bytes.size = 4 * (image.pixels.size / 4) ∧
          (∀ p, p < image.pixels.size / 4 → ∃ r g b a,
            pixelBytes image.pixels p = #[r, g, b, a] ∧ pixelBytes bytes p = #[b, g, r, a]) ∧
          (∀ scratch', (image.bgra scratch').bytes = .ok bytes) ∧
          ∀ width height scratch', ((⟨width, height, .rgba8, bytes⟩ : Image).bgra scratch').bytes =
            .ok (image.pixels.extract 0 (4 * (image.pixels.size / 4)))
      | .bgra8 => image.bgra scratch = ⟨.ok image.pixels, scratch⟩
      | .rgb565 => image.bgra scratch =
          ⟨.error (.draw "GDI target needs a 32-bit pixel format"), scratch⟩) ∧
    ∀ images, bgraEach scratch images = images.map fun image => (image.bgra #[]).bytes := by
  refine ⟨?_, bgraEach_eq_map scratch⟩
  cases hformat : image.format with
  | bgra8 => rw [bgra, hformat]
  | rgb565 => rw [bgra, hformat]
  | rgba8 =>
    have hbgra : ∀ scratch', image.bgra scratch' =
        ⟨.ok (swapRedBlue image.pixels), swapRedBlue image.pixels⟩ := fun scratch' => by
      rw [bgra, hformat]
    refine ⟨swapRedBlue image.pixels, hbgra scratch, (refill_eq_swapRedBlue _ _).symm,
      by rw [size_swapRedBlue, Nat.mul_comm], fun p hp => ?_, fun scratch' => by rw [hbgra],
      fun width height scratch' => ?_⟩
    · obtain ⟨r, g, b, a, hpixel⟩ := exists_pixelBytes_eq hp
      exact ⟨r, g, b, a, hpixel, by rw [pixelBytes_swapRedBlue hp, hpixel]; rfl⟩
    · change Except.ok (swapRedBlue (swapRedBlue image.pixels)) = _
      rw [swapRedBlue_swapRedBlue, Nat.mul_comm]

/-- A small frame after a larger one, with a partial pixel. -/
example : bgraEach #[] [⟨2, 1, .rgba8, #[1, 2, 3, 4, 5, 6, 7, 8]⟩, ⟨1, 1, .rgba8, #[9, 10, 11, 12, 13]⟩] =
    [.ok #[3, 2, 1, 4, 7, 6, 5, 8], .ok #[11, 10, 9, 12]] :=
  rfl

end Image

end DeskView
