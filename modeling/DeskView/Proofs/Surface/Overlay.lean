import DeskView.Surface.Canvas
import DeskView.Proofs.Frame.Pixels

/-!
# The pixels of an overlay

`Canvas.pixel?_overlay` says what an overlay does to each pixel of a canvas: it takes four bytes of the
image where `Canvas.sample` finds a place for them, and is otherwise the pixel it was.

For an image that is drawn whole, `sample_whole` gives the place: the pixel of the image in the row and
column found by rounding down (`Canvas.nearest`), which always lies in the image, so that no pixel of
the destination is left out.
-/

namespace DeskView

theorem Rect.contains_iff {r : Rect} {x y : Int} :
    r.contains x y = true ↔
      (r.x.toInt ≤ x ∧ x < r.x.toInt + r.width.toNat) ∧
        (r.y.toInt ≤ y ∧ y < r.y.toInt + r.height.toNat) := by
  simp only [contains, Bool.and_eq_true, decide_eq_true_eq]

/-- A rectangle is not empty if it has a row and a column. -/
theorem Rect.isEmpty_eq_false_iff {r : Rect} :
    r.isEmpty = false ↔ 0 < r.width.toNat ∧ 0 < r.height.toNat := by
  rw [isEmpty, Bool.or_eq_false_iff, decide_eq_false_iff_not, decide_eq_false_iff_not,
    ← UInt32.toNat_inj, ← UInt32.toNat_inj, UInt32.toNat_zero, Nat.pos_iff_ne_zero,
    Nat.pos_iff_ne_zero]

/-- A canvas that has the bytes of all its pixels. -/
def Canvas.WellFormed (c : Canvas) : Prop :=
  c.pixels.size = c.width.toNat * c.height.toNat * Canvas.bytesPerPixel

theorem Canvas.wellFormed_blank (width height : UInt32) : (Canvas.blank width height).WellFormed := by
  simp [WellFormed, blank]

namespace Canvas

/-! ### Rows and columns -/

/-- A pixel inside a canvas has its four bytes there. -/
theorem offset_add_le {x y w h : Nat} (hx : x < w) (hy : y < h) :
    (y * w + x) * bytesPerPixel + bytesPerPixel ≤ w * h * bytesPerPixel := by
  have hrow : y * w + w ≤ w * h := by
    calc y * w + w = (y + 1) * w := by rw [Nat.add_mul, Nat.one_mul]
      _ ≤ h * w := Nat.mul_le_mul_right w hy
      _ = w * h := Nat.mul_comm h w
  unfold bytesPerPixel
  omega

/-- The bytes of a pixel that lies on the canvas. -/
theorem pixel?_eq_some {c : Canvas} (hc : c.WellFormed) {x y : UInt32} (hx : x < c.width)
    (hy : y < c.height) :
    c.pixel? x y = some (c.pixels.extract ((y.toNat * c.width.toNat + x.toNat) * bytesPerPixel)
      ((y.toNat * c.width.toNat + x.toNat) * bytesPerPixel + bytesPerPixel)) := by
  have hroom := offset_add_le (UInt32.lt_iff_toNat_lt.mp hx) (UInt32.lt_iff_toNat_lt.mp hy)
  have hinside : ¬ (c.width ≤ x ∨ c.height ≤ y) := by
    rw [UInt32.le_iff_toNat_le, UInt32.le_iff_toNat_le]
    rw [UInt32.lt_iff_toNat_lt] at hx hy
    omega
  unfold pixel?
  dsimp only
  rw [if_neg hinside, hc, if_pos hroom]

/-- Canvases of one size have the same bytes exactly if they have the same pixels. -/
theorem pixels_eq_iff {c c' : Canvas} (hc : c.WellFormed) (hc' : c'.WellFormed)
    (hw : c.width = c'.width) (hh : c.height = c'.height) :
    c.pixels = c'.pixels ↔
      ∀ x y, x < c.width → y < c.height → c.pixel? x y = c'.pixel? x y := by
  constructor
  · intro h x y _ _
    unfold pixel?
    rw [hw, hh, h]
  intro h
  refine eq_of_pixelBytes_eq hc (by rw [hw, hh]; exact hc') fun p hp => ?_
  -- pixel number `p` has its column and its row
  have hwidth : 0 < c.width.toNat := Nat.pos_of_mul_pos_right (Nat.zero_lt_of_lt hp)
  have hcolumn : p % c.width.toNat < c.width.toNat := Nat.mod_lt _ hwidth
  have hrow : p / c.width.toNat < c.height.toNat := Nat.div_lt_of_lt_mul hp
  have hx : (UInt32.ofNat (p % c.width.toNat)).toNat = p % c.width.toNat :=
    UInt32.toNat_ofNat_of_lt' (Nat.lt_trans hcolumn c.width.toNat_lt)
  have hy : (UInt32.ofNat (p / c.width.toNat)).toNat = p / c.width.toNat :=
    UInt32.toNat_ofNat_of_lt' (Nat.lt_trans hrow c.height.toNat_lt)
  have hxw : UInt32.ofNat (p % c.width.toNat) < c.width := by rwa [UInt32.lt_iff_toNat_lt, hx]
  have hyh : UInt32.ofNat (p / c.width.toNat) < c.height := by rwa [UInt32.lt_iff_toNat_lt, hy]
  have heq := h _ _ hxw hyh
  rw [pixel?_eq_some hc hxw hyh, pixel?_eq_some hc' (hw ▸ hxw) (hh ▸ hyh), ← hw, hx, hy,
    Nat.div_add_mod'] at heq
  exact Option.some.inj heq

/-! ### The overlay, pixel by pixel -/

theorem WellFormed.overlay {c : Canvas} (hc : c.WellFormed) (image : Image) (src dst : Rect) :
    (c.overlay image src dst).WellFormed := by
  simpa [WellFormed, Canvas.overlay] using hc

/-- Where a pixel is taken from, the image has all four of its bytes. -/
theorem sample_add_le {image : Image} {src dst : Rect} {x y s : Nat}
    (h : sample image src dst x y = some s) : s + bytesPerPixel ≤ image.pixels.size := by
  unfold sample at h
  split at h
  · dsimp only at h
    split at h
    · rename_i hroom
      cases h
      omega
    · cases h
  · cases h

/-- Byte `k` of the pixel in column `x` of row `y`, after an overlay. -/
theorem getElem_overlay {c : Canvas} {image : Image} {src dst : Rect} {x y k : Nat}
    (hx : x < c.width.toNat) (hk : k < bytesPerPixel)
    (h : (y * c.width.toNat + x) * bytesPerPixel + k < (c.overlay image src dst).pixels.size)
    (hold : (y * c.width.toNat + x) * bytesPerPixel + k < c.pixels.size) :
    (c.overlay image src dst).pixels[(y * c.width.toNat + x) * bytesPerPixel + k] =
      match sample image src dst x y with
      | some s => image.pixels.getD (s + k) c.pixels[(y * c.width.toNat + x) * bytesPerPixel + k]
      | none => c.pixels[(y * c.width.toNat + x) * bytesPerPixel + k] := by
  -- the place of a byte determines its pixel, and with it the column and the row
  have hpos : 0 < c.width.toNat := by omega
  have hpixel : ((y * c.width.toNat + x) * bytesPerPixel + k) / bytesPerPixel =
      y * c.width.toNat + x := by
    unfold bytesPerPixel at hk ⊢
    omega
  have hbyte : ((y * c.width.toNat + x) * bytesPerPixel + k) % bytesPerPixel = k := by
    unfold bytesPerPixel at hk ⊢
    omega
  have hcolumn : (y * c.width.toNat + x) % c.width.toNat = x := by
    rw [Nat.mul_comm, Nat.mul_add_mod, Nat.mod_eq_of_lt hx]
  have hrow : (y * c.width.toNat + x) / c.width.toNat = y := by
    rw [Nat.mul_comm, Nat.mul_add_div hpos, Nat.div_eq_of_lt hx, Nat.add_zero]
  cases hsample : sample image src dst x y <;>
    simp only [overlay, Array.getElem_mapIdx, hpixel, hbyte, hcolumn, hrow, hsample]

/-- **What an overlay does to a pixel**: it becomes the four bytes of the image that belong there, or
stays as it was. -/
theorem pixel?_overlay {c : Canvas} (hc : c.WellFormed) (image : Image) (src dst : Rect)
    {x y : UInt32} (hx : x < c.width) (hy : y < c.height) :
    (c.overlay image src dst).pixel? x y =
      match sample image src dst x.toNat y.toNat with
      | some s => some (image.pixels.extract s (s + bytesPerPixel))
      | none => c.pixel? x y := by
  have hroom := offset_add_le (UInt32.lt_iff_toNat_lt.mp hx) (UInt32.lt_iff_toNat_lt.mp hy)
  have hsize : (c.overlay image src dst).pixels.size = c.pixels.size := by simp [overlay]
  have hbyte : ∀ k, k < bytesPerPixel →
      (y.toNat * c.width.toNat + x.toNat) * bytesPerPixel + k < c.pixels.size := by
    intro k hk
    rw [hc]
    omega
  rw [pixel?_eq_some (hc.overlay image src dst) hx hy, pixel?_eq_some hc hx hy]
  cases hsample : sample image src dst x.toNat y.toNat with
  | none =>
    congr 1
    apply Array.ext
    · simp only [Array.size_extract, hsize]
      rfl
    · intro k hk hk'
      have hk4 : k < bytesPerPixel := by
        rw [Array.size_extract] at hk'
        omega
      rw [Array.getElem_extract, Array.getElem_extract]
      refine (getElem_overlay (UInt32.lt_iff_toNat_lt.mp hx) hk4 _ (hbyte k hk4)).trans ?_
      rw [hsample]
  | some s =>
    have hs := sample_add_le hsample
    congr 1
    apply Array.ext
    · simp only [Array.size_extract, hsize]
      rw [show (c.overlay image src dst).width = c.width from rfl, hc]
      omega
    · intro k hk hk'
      have hk4 : k < bytesPerPixel := by
        rw [Array.size_extract] at hk'
        omega
      rw [Array.getElem_extract, Array.getElem_extract]
      refine (getElem_overlay (UInt32.lt_iff_toNat_lt.mp hx) hk4 _ (hbyte k hk4)).trans ?_
      rw [hsample]
      exact (Array.getElem_eq_getD _).symm

/-! ### An image that is drawn whole -/

/-- The place of an image's pixel in its bytes that belongs at the pixel `(x, y)` inside `dst`, the
image being `w` pixels wide and `h` high: its row and column are found by rounding down. -/
def nearest (w h : Nat) (dst : Rect) (x y : Nat) : Nat :=
  ((((y : Int) - dst.y.toInt) * h / dst.height.toNat * w +
    ((x : Int) - dst.x.toInt) * w / dst.width.toNat) * bytesPerPixel).toNat

/-- Scaling down maps the places of an extent into the source. -/
theorem scaleDown_bounds {d source extent : Int} (hd : 0 ≤ d) (hdlt : d < extent)
    (hsource : 0 < source) :
    0 ≤ scaleDown d source extent ∧ scaleDown d source extent < source := by
  have hextent : 0 < extent := by omega
  unfold scaleDown
  constructor
  · exact Int.ediv_nonneg (Int.mul_nonneg hd (Int.le_of_lt hsource)) (Int.le_of_lt hextent)
  · rw [Int.ediv_lt_iff_lt_mul hextent, Int.mul_comm source extent]
    exact Int.mul_lt_mul_of_pos_right hdlt hsource

/-- Every pixel inside the destination has its row and its column in an image that is drawn whole. -/
theorem exists_nearest {w h : Nat} {dst : Rect} {x y : Nat} (hw : 0 < w) (hh : 0 < h)
    (hdst : dst.contains x y = true) :
    ∃ column row : Nat, scaleDown (x - dst.x.toInt) w dst.width.toNat = column ∧
      scaleDown (y - dst.y.toInt) h dst.height.toNat = row ∧ column < w ∧ row < h ∧
      nearest w h dst x y = (row * w + column) * bytesPerPixel := by
  obtain ⟨⟨hx, hx'⟩, hy, hy'⟩ := Rect.contains_iff.mp hdst
  obtain ⟨hc, hc'⟩ := @scaleDown_bounds (x - dst.x.toInt) w dst.width.toNat
    (by omega) (by omega) (by omega)
  obtain ⟨hr, hr'⟩ := @scaleDown_bounds (y - dst.y.toInt) h dst.height.toNat
    (by omega) (by omega) (by omega)
  -- row and column are not negative, so the place is one of natural numbers
  obtain ⟨column, hcolumn⟩ := Int.eq_ofNat_of_zero_le hc
  obtain ⟨row, hrow⟩ := Int.eq_ofNat_of_zero_le hr
  refine ⟨column, row, hcolumn, hrow, by omega, by omega, ?_⟩
  unfold scaleDown at hcolumn hrow
  unfold nearest
  rw [hcolumn, hrow]
  norm_cast

theorem nearest_add_le {w h : Nat} {dst : Rect} {x y : Nat} (hw : 0 < w) (hh : 0 < h)
    (hdst : dst.contains x y = true) :
    nearest w h dst x y + bytesPerPixel ≤ w * h * bytesPerPixel := by
  obtain ⟨column, row, -, -, hcolumn, hrow, hplace⟩ := exists_nearest hw hh hdst
  rw [hplace]
  exact offset_add_le hcolumn hrow

/-- **Where the pixels of a whole image come from.**  Inside the destination each pixel is taken from
the nearest one of the image, outside none is. -/
theorem sample_whole {image : Image} (hformat : image.format.bytesPerPixel = bytesPerPixel)
    (himage : image.WellFormed) (hw : 0 < image.width.toNat) (hh : 0 < image.height.toNat)
    (dst : Rect) (x y : Nat) :
    sample image (.sized image.width image.height) dst x y =
      if dst.contains x y then some (nearest image.width.toNat image.height.toNat dst x y)
      else none := by
  unfold sample Rect.sized
  split
  · rename_i hdst
    obtain ⟨column, row, hcolumn, hrow, -, -, hnearest⟩ := exists_nearest hw hh hdst
    have hplace : ((0 : Int32).toInt + row) * image.stride +
        ((0 : Int32).toInt + column) * bytesPerPixel =
          nearest image.width.toNat image.height.toNat dst x y := by
      have hzero : (0 : Int32).toInt = 0 := rfl
      rw [hnearest, Image.stride, hformat, hzero, Int.zero_add, Int.zero_add]
      push_cast
      rw [Int.add_mul, Int.mul_assoc]
    have hfits : nearest image.width.toNat image.height.toNat dst x y + bytesPerPixel ≤
        image.pixels.size := by
      rw [himage, Image.byteLength, hformat]
      exact nearest_add_le hw hh hdst
    dsimp only
    rw [hcolumn, hrow, hplace, if_pos (by omega), Int.toNat_natCast]
  · rfl

end Canvas

end DeskView
