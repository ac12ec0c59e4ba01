import DeskView.Proofs.Surface.Colour
import Mathlib.Algebra.Group.Int.Defs

/-!
# Scaling, pixel by pixel

`Canvas.overlay` looks up, for each pixel of the canvas, the place in the image where its four bytes
start.  `Canvas.offset` is that place as a formula over the integers, with one quotient for the row and
one for the column; rounded down, they stay inside the source (`sourcePlace_mem`).

A loop goes the other way: for each place of the destination, row after row, it works out where the
place falls on the canvas and where its bytes are in the image, and writes them there if both exist
(`Canvas.drawPlace`).  What one turn of that loop does is `painted_drawPlace`, and turns that follow one
another do not disturb what was drawn before (`Painted.append`), so that the loop comes to the overlay
(`foldl_drawPlace`).  `Canvas.paint` is the loop in words of 64 bits.  It comes to the same
(`paint_eq_overlay`) if no word wraps around, which is what `InWords` is about.
-/

namespace DeskView

/-- Whether a part of an image lies within its rows and columns. -/
structure Image.Covers (image : Image) (src : Rect) : Prop where
  x_nonneg : 0 ≤ src.x.toInt
  y_nonneg : 0 ≤ src.y.toInt
  right_le : src.x.toInt + src.width.toNat ≤ image.width.toNat
  bottom_le : src.y.toInt + src.height.toNat ≤ image.height.toNat

namespace Canvas

/-! ### Words of 64 bits -/

/-- A number that a signed word of 64 bits holds. -/
def IsWord (n : Int) : Prop := -2 ^ 63 ≤ n ∧ n < 2 ^ 63

theorem IsWord.bmod_eq {n : Int} (h : IsWord n) : n.bmod (2 ^ 64) = n := by
  obtain ⟨hmin, hmax⟩ := h
  exact Int.bmod_eq_of_le (by omega) (by omega)

theorem toInt_add {a b : Int64} (h : IsWord (a.toInt + b.toInt)) :
    (a + b).toInt = a.toInt + b.toInt := by
  rw [Int64.toInt_add, h.bmod_eq]

theorem toInt_mul {a b : Int64} (h : IsWord (a.toInt * b.toInt)) :
    (a * b).toInt = a.toInt * b.toInt := by
  rw [Int64.toInt_mul, h.bmod_eq]

/-- Words that are not negative are divided as numbers are. -/
theorem toInt_div {a b : Int64} (ha : 0 ≤ a.toInt) (hb : 0 < b.toInt) :
    (a / b).toInt = a.toInt / b.toInt := by
  have hne : b ≠ -1 := by
    rintro rfl
    exact absurd hb (by decide)
  rw [Int64.toInt_div_of_ne_right a b hne, Int.tdiv_eq_ediv_of_nonneg ha]

/-- A word that is not negative is the same number when it is read without a sign. -/
theorem toNat_toUInt64 {a : Int64} (h : 0 ≤ a.toInt) : (a.toUInt64.toNat : Int) = a.toInt := by
  rw [Int64.toNat_toUInt64_of_le (Int64.le_iff_toInt_le.mpr h),
    Int64.toInt_eq_toNatClampNeg (Int64.le_iff_toInt_le.mpr h)]

/-- A word of 32 bits as a signed one of 64. -/
def widen (n : UInt32) : Int64 := n.toUInt64.toInt64

theorem toInt_widen (n : UInt32) : (widen n).toInt = n.toNat := by
  have hlt : 2 * n.toUInt64.toNat < 2 ^ 64 := by
    rw [UInt32.toNat_toUInt64]
    have hn := n.toNat_lt
    omega
  calc (widen n).toInt = n.toUInt64.toNat := BitVec.toInt_eq_toNat_of_lt hlt
    _ = n.toNat := by rw [UInt32.toNat_toUInt64]

variable {image : Image} {src dst : Rect}

/-! ### Where a pixel comes from -/

/-- The row of the source that belongs to row `p` of the canvas, the source having `source` rows from
`start` on and the destination `extent` rows from `start'` on; or likewise with columns. -/
def sourcePlace (start start' : Int32) (source extent : UInt32) (p : Int) : Int :=
  start.toInt + (p - start'.toInt) * source.toNat / extent.toNat

/-- Where in an image the pixel for the place `(x, y)` of the canvas would start. -/
def offset (image : Image) (src dst : Rect) (x y : Int) : Int :=
  sourcePlace src.y dst.y src.height dst.height y * image.stride +
    sourcePlace src.x dst.x src.width dst.width x * bytesPerPixel

/-- Scaling down stays within the source, also if that is empty. -/
theorem scaleDown_mem {d extent : Int} (hd : 0 ≤ d) (hdlt : d < extent) (source : Nat) :
    0 ≤ scaleDown d source extent ∧ scaleDown d source extent ≤ source := by
  rcases Nat.eq_zero_or_pos source with rfl | hpos
  · simp [scaleDown]
  · obtain ⟨hmin, hmax⟩ := scaleDown_bounds hd hdlt (Int.natCast_pos.mpr hpos)
    exact ⟨hmin, Int.le_of_lt hmax⟩

theorem sourcePlace_nonneg {start start' : Int32} (hstart : 0 ≤ start.toInt) {source extent : UInt32}
    {p : Int} (hp : start'.toInt ≤ p) (hplt : p < start'.toInt + extent.toNat) :
    0 ≤ sourcePlace start start' source extent p := by
  have hscaled := (@scaleDown_mem (p - start'.toInt) extent.toNat (by omega) (by omega) source.toNat).1
  unfold scaleDown at hscaled
  unfold sourcePlace
  omega

/-- Rounding down stays among the rows or columns of the source, as long as there are any. -/
theorem sourcePlace_mem (start : Int32) {start' : Int32} {source extent : UInt32}
    (hsource : 0 < source.toNat) {p : Int} (hp : start'.toInt ≤ p)
    (hplt : p < start'.toInt + extent.toNat) :
    start.toInt ≤ sourcePlace start start' source extent p ∧
      sourcePlace start start' source extent p < start.toInt + source.toNat := by
  have hscaled := @scaleDown_bounds (p - start'.toInt) source.toNat extent.toNat
    (by omega) (by omega) (by omega)
  unfold scaleDown at hscaled
  unfold sourcePlace
  omega

theorem sample_eq (image : Image) (src dst : Rect) (x y : Nat) :
    sample image src dst x y =
      if dst.contains x y ∧ 0 ≤ offset image src dst x y ∧
          offset image src dst x y + bytesPerPixel ≤ image.pixels.size then
        some (offset image src dst x y).toNat
      else none := by
  rw [ite_and]
  rfl

theorem offset_nonneg (image : Image) (hx : 0 ≤ src.x.toInt) (hy : 0 ≤ src.y.toInt) {x y : Int}
    (h : dst.contains x y = true) : 0 ≤ offset image src dst x y := by
  obtain ⟨⟨hmin, hmax⟩, hmin', hmax'⟩ := Rect.contains_iff.mp h
  exact Int.add_nonneg
    (Int.mul_nonneg (sourcePlace_nonneg hy hmin' hmax') (Int.natCast_nonneg _))
    (Int.mul_nonneg (sourcePlace_nonneg hx hmin hmax) (Int.natCast_nonneg _))

/-- What an overlay does to a pixel, by its offset in the image. -/
theorem pixel?_overlay_of_offset {c : Canvas} (hc : c.WellFormed) (image : Image)
    (hsx : 0 ≤ src.x.toInt) (hsy : 0 ≤ src.y.toInt) (dst : Rect) {x y : UInt32}
    (hx : x < c.width) (hy : y < c.height) :
    (c.overlay image src dst).pixel? x y =
      let s := offset image src dst x.toNat y.toNat
      if dst.contains x.toNat y.toNat = true ∧ s + bytesPerPixel ≤ image.pixels.size then
        some (image.pixels.extract s.toNat (s.toNat + bytesPerPixel))
      else c.pixel? x y := by
  have hiff : dst.contains x.toNat y.toNat = true ∧ 0 ≤ offset image src dst x.toNat y.toNat ∧
        offset image src dst x.toNat y.toNat + bytesPerPixel ≤ image.pixels.size ↔
      dst.contains x.toNat y.toNat = true ∧
        offset image src dst x.toNat y.toNat + bytesPerPixel ≤ image.pixels.size :=
    and_congr_right fun hinside => and_iff_right (offset_nonneg image hsx hsy hinside)
  rw [pixel?_overlay hc image src dst hx hy, sample_eq]
  by_cases hdrawn : dst.contains x.toNat y.toNat = true ∧
      offset image src dst x.toNat y.toNat + bytesPerPixel ≤ image.pixels.size
  · rw [if_pos hdrawn, if_pos (hiff.mpr hdrawn)]
  · rw [if_neg hdrawn, if_neg (mt hiff.mp hdrawn)]

/-! ### The loop over the destination -/

/-- The row or column of the source for place `d` of the destination, in words. -/
def sourceWord (start : Int32) (source extent : UInt32) (d : Int64) : Int64 :=
  start.toInt64 + d * widen source / widen extent

/-- The product does not wrap around for a source of less than half of all words. -/
theorem toInt_sourceWord (start : Int32) {start' : Int32} {source extent : UInt32} {d : Nat} {p : Int}
    (hsource : source.toNat ≤ 2 ^ 31 - 1) (hd : d < extent.toNat) (hp : start'.toInt + d = p) :
    (sourceWord start source extent (Int64.ofNat d)).toInt =
      sourcePlace start start' source extent p := by
  have hextent : extent.toNat < 2 ^ 32 := extent.toNat_lt
  have hplace : (Int64.ofNat d).toInt = d := Int64.toInt_ofNat_of_lt (by omega)
  have hproduct : d * source.toNat ≤ (2 ^ 32 - 1) * (2 ^ 31 - 1) :=
    Nat.mul_le_mul (by omega) hsource
  have hmul : (Int64.ofNat d * widen source).toInt = (d * source.toNat : Nat) := by
    rw [toInt_mul, hplace, toInt_widen, Int.natCast_mul]
    rw [hplace, toInt_widen, ← Int.natCast_mul]
    constructor <;> omega
  have hdiv : (Int64.ofNat d * widen source / widen extent).toInt =
      scaleDown d source.toNat extent.toNat := by
    rw [toInt_div (by omega) (by rw [toInt_widen]; omega), hmul, toInt_widen, scaleDown,
      Int.natCast_mul]
  -- the quotient is no larger than the source, and the corner is a word of 32 bits
  have hquotient := @scaleDown_mem d extent.toNat (by omega) (by omega) source.toNat
  have hstart := start.toInt_lt
  have hstart' := start.le_toInt
  rw [sourceWord, toInt_add, hdiv, Int32.toInt_toInt64, sourcePlace, ← hp, Int.add_comm start'.toInt,
    Int.add_sub_cancel, scaleDown]
  rw [hdiv, Int32.toInt_toInt64]
  constructor <;> omega

/-- Some bytes with others written over them, from the place `start` on. -/
def writeAt (bytes : Array UInt8) (start : Nat) (new : Array UInt8) : Array UInt8 :=
  bytes.mapIdx fun i old => if start ≤ i then new.getD (i - start) old else old

@[simp]
theorem size_writeAt (bytes : Array UInt8) (start : Nat) (new : Array UInt8) :
    (writeAt bytes start new).size = bytes.size := by
  simp [writeAt]

theorem extract_writeAt_self {bytes new : Array UInt8} {start : Nat}
    (h : start + new.size ≤ bytes.size) :
    (writeAt bytes start new).extract start (start + new.size) = new := by
  apply Array.ext
  · rw [Array.size_extract, size_writeAt]
    omega
  · intro k hk hk'
    simp [writeAt, hk']

theorem extract_writeAt_of_disjoint {bytes new : Array UInt8} {start first last : Nat}
    (h : last ≤ start ∨ start + new.size ≤ first) :
    (writeAt bytes start new).extract first last = bytes.extract first last := by
  apply Array.ext
  · rw [Array.size_extract, Array.size_extract, size_writeAt]
  · intro k hk hk'
    rw [Array.size_extract] at hk'
    simp only [Array.getElem_extract, writeAt, Array.getElem_mapIdx]
    split
    · -- behind what is written
      have hbehind : new.size ≤ first + k - start := by omega
      simp [Array.getD, Nat.not_lt.mpr hbehind]
    · rfl

/-- A canvas with other bytes for the pixel `(x, y)`. -/
def put (c : Canvas) (x y : Nat) (new : Array UInt8) : Canvas :=
  { c with pixels := writeAt c.pixels ((y * c.width.toNat + x) * bytesPerPixel) new }

/-- A place of the destination is drawn: its pixel on the canvas, if there is one, takes the four bytes
that the image has for it, if it has them. -/
def drawPlace (image : Image) (src dst : Rect) (c : Canvas) (place : Nat × Nat) : Canvas :=
  let x := dst.x.toInt + place.1
  let y := dst.y.toInt + place.2
  if y < 0 ∨ c.height.toNat ≤ y ∨ x < 0 ∨ c.width.toNat ≤ x then c
  else
    match sample image src dst x.toNat y.toNat with
    | some s => c.put x.toNat y.toNat (image.pixels.extract s (s + bytesPerPixel))
    | none => c

/-- A place of the destination is drawn, and where it falls and comes from is worked out in words. -/
def copyPixel (image : Image) (src dst : Rect) (c : Canvas) (place : Nat × Nat) : Canvas :=
  let dx := Int64.ofNat place.1
  let dy := Int64.ofNat place.2
  let cx := dst.x.toInt64 + dx
  let cy := dst.y.toInt64 + dy
  if cy < 0 ∨ widen c.height ≤ cy ∨ cx < 0 ∨ widen c.width ≤ cx then c
  else
    let sx := sourceWord src.x src.width dst.width dx
    let sy := sourceWord src.y src.height dst.height dy
    let s := sy.toUInt64 * UInt64.ofNat image.stride + sx.toUInt64 * UInt64.ofNat bytesPerPixel
    let d := (cy.toUInt64 * (widen c.width).toUInt64 + cx.toUInt64) * UInt64.ofNat bytesPerPixel
    if s.toNat + bytesPerPixel ≤ image.pixels.size then
      { c with pixels :=
          writeAt c.pixels d.toNat (image.pixels.extract s.toNat (s.toNat + bytesPerPixel)) }
    else c

/-- The places of a destination, row after row. -/
def places (dst : Rect) : List (Nat × Nat) :=
  (List.range dst.height.toNat).flatMap fun dy => (List.range dst.width.toNat).map fun dx => (dx, dy)

/-- The canvas with the places of the destination drawn one after the other, in words. -/
def paint (c : Canvas) (image : Image) (src dst : Rect) : Canvas :=
  (places dst).foldl (copyPixel image src dst) c

theorem mem_places {place : Nat × Nat} :
    place ∈ places dst ↔ place.1 < dst.width.toNat ∧ place.2 < dst.height.toNat := by
  obtain ⟨dx, dy⟩ := place
  simp only [places, List.mem_flatMap, List.mem_map, List.mem_range, Prod.mk.injEq]
  constructor
  · rintro ⟨dy, hdy, dx, hdx, rfl, rfl⟩
    exact ⟨hdx, hdy⟩
  · rintro ⟨hdx, hdy⟩
    exact ⟨dy, hdy, dx, hdx, rfl, rfl⟩

/-- Row and column of the canvas that a place falls on; they may lie outside of it. -/
theorem toInt_corner_add (corner : Int32) {d : Nat} (hd : d < 2 ^ 32) :
    (corner.toInt64 + Int64.ofNat d).toInt = corner.toInt + d := by
  have hofNat : (Int64.ofNat d).toInt = d := Int64.toInt_ofNat_of_lt (by omega)
  have hcorner := corner.toInt_lt
  have hcorner' := corner.le_toInt
  rw [toInt_add (by rw [hofNat, Int32.toInt_toInt64]; constructor <;> omega), hofNat,
    Int32.toInt_toInt64]

/-- The sizes with which no word of the loop wraps around, on a canvas that fits into memory. -/
structure InWords (width height : UInt32) (image : Image) (src dst : Rect) : Prop where
  canExist : Canvas.canExist width height = true
  x_nonneg : 0 ≤ src.x.toInt
  y_nonneg : 0 ≤ src.y.toInt
  width_le : src.width.toNat ≤ 2 ^ 31 - 1
  height_le : src.height.toNat ≤ 2 ^ 31 - 1
  offset_lt : ∀ x y : Nat, x < width.toNat → y < height.toNat → dst.contains x y = true →
    offset image src dst x y < 2 ^ 64

/-- The image's bytes are counted in words: wherever a place of the destination falls on the canvas, its
offset in the image is the one over the integers. -/
theorem toNat_offsetWord {width height : UInt32} (h : InWords width height image src dst)
    {x y dx dy : Nat} (hx : x < width.toNat) (hy : y < height.toNat) (hdx : dx < dst.width.toNat)
    (hdy : dy < dst.height.toNat) (hcolumn : dst.x.toInt + dx = x) (hrow : dst.y.toInt + dy = y) :
    ((sourceWord src.y src.height dst.height (Int64.ofNat dy)).toUInt64 * UInt64.ofNat image.stride +
      (sourceWord src.x src.width dst.width (Int64.ofNat dx)).toUInt64 *
        UInt64.ofNat bytesPerPixel).toNat = (offset image src dst x y).toNat := by
  have hinside : dst.contains x y = true := Rect.contains_iff.mpr (by omega)
  have hcolumnWord := toInt_sourceWord src.x h.width_le hdx hcolumn
  have hrowWord := toInt_sourceWord src.y h.height_le hdy hrow
  have hcolumnNat := toNat_toUInt64 (hcolumnWord ▸ sourcePlace_nonneg h.x_nonneg (by omega) (by omega))
  have hrowNat := toNat_toUInt64 (hrowWord ▸ sourcePlace_nonneg h.y_nonneg (by omega) (by omega))
  rw [hcolumnWord] at hcolumnNat
  rw [hrowWord] at hrowNat
  -- neither row nor column is negative, so the offset is a sum of products of natural numbers
  have hlt := h.offset_lt x y hx hy hinside
  unfold offset at hlt ⊢
  rw [← hcolumnNat, ← hrowNat] at hlt ⊢
  generalize (sourceWord src.y src.height dst.height (Int64.ofNat dy)).toUInt64 = row at hlt ⊢
  generalize (sourceWord src.x src.width dst.width (Int64.ofNat dx)).toUInt64 = column at hlt ⊢
  have hsum : (row.toNat * image.stride + column.toNat * bytesPerPixel : Int) =
      (row.toNat * image.stride + column.toNat * bytesPerPixel : Nat) := by
    push_cast
    rfl
  rw [hsum] at hlt ⊢
  rw [Int.toNat_natCast, UInt64.toNat_add, UInt64.toNat_mul, UInt64.toNat_mul, UInt64.toNat_ofNat',
    UInt64.toNat_ofNat', Nat.mul_mod_mod, Nat.mul_mod_mod, ← Nat.add_mod,
    Nat.mod_eq_of_lt (Int.ofNat_lt.mp hlt)]

/-- The canvas's bytes are counted in words, too. -/
theorem toNat_canvasWord (width : UInt32) {cx cy : Int64} {x y : Nat} (hcx : cx.toInt = x)
    (hcy : cy.toInt = y) (hlt : (y * width.toNat + x) * bytesPerPixel < 2 ^ 64) :
    ((cy.toUInt64 * (widen width).toUInt64 + cx.toUInt64) * UInt64.ofNat bytesPerPixel).toNat =
      (y * width.toNat + x) * bytesPerPixel := by
  have hcxNat : cx.toUInt64.toNat = x := by
    have hread := @toNat_toUInt64 cx (by omega)
    omega
  have hcyNat : cy.toUInt64.toNat = y := by
    have hread := @toNat_toUInt64 cy (by omega)
    omega
  have hwidth : (widen width).toUInt64.toNat = width.toNat := by
    have hw := toInt_widen width
    have hread := @toNat_toUInt64 (widen width) (by omega)
    omega
  rw [UInt64.toNat_mul, UInt64.toNat_add, UInt64.toNat_mul, UInt64.toNat_ofNat', hcxNat, hcyNat, hwidth,
    Nat.mod_add_mod, Nat.mod_mul_mod, Nat.mul_mod_mod, Nat.mod_eq_of_lt hlt]

/-- A turn in words does what the same turn does over the integers. -/
theorem copyPixel_eq_drawPlace {c : Canvas} (h : InWords c.width c.height image src dst)
    {place : Nat × Nat} (hplace : place ∈ places dst) :
    copyPixel image src dst c place = drawPlace image src dst c place := by
  obtain ⟨hdx, hdy⟩ := mem_places.mp hplace
  have hcx := toInt_corner_add dst.x (Nat.lt_trans hdx dst.width.toNat_lt)
  have hcy := toInt_corner_add dst.y (Nat.lt_trans hdy dst.height.toNat_lt)
  have hbeside : (dst.y.toInt64 + Int64.ofNat place.2 < 0 ∨
      widen c.height ≤ dst.y.toInt64 + Int64.ofNat place.2 ∨
      dst.x.toInt64 + Int64.ofNat place.1 < 0 ∨
      widen c.width ≤ dst.x.toInt64 + Int64.ofNat place.1) ↔
      (dst.y.toInt + place.2 < 0 ∨ c.height.toNat ≤ dst.y.toInt + place.2 ∨
        dst.x.toInt + place.1 < 0 ∨ c.width.toNat ≤ dst.x.toInt + place.1) := by
    simp only [Int64.lt_iff_toInt_lt, Int64.le_iff_toInt_le, hcx, hcy, toInt_widen, Int64.toInt_zero]
  unfold copyPixel drawPlace
  dsimp only
  by_cases hoff : dst.y.toInt + place.2 < 0 ∨ c.height.toNat ≤ dst.y.toInt + place.2 ∨
      dst.x.toInt + place.1 < 0 ∨ c.width.toNat ≤ dst.x.toInt + place.1
  · rw [if_pos (hbeside.mpr hoff), if_pos hoff]
  · rw [if_neg (hbeside.not.mpr hoff), if_neg hoff]
    obtain ⟨x, hcolumn⟩ := Int.eq_ofNat_of_zero_le (show 0 ≤ dst.x.toInt + place.1 by omega)
    obtain ⟨y, hrow⟩ := Int.eq_ofNat_of_zero_le (show 0 ≤ dst.y.toInt + place.2 by omega)
    have hx : x < c.width.toNat := by omega
    have hy : y < c.height.toNat := by omega
    rw [hcolumn] at hcx ⊢
    rw [hrow] at hcy ⊢
    have hroom := offset_add_le hx hy
    have hmemory : c.width.toNat * c.height.toNat * bytesPerPixel ≤ 2 ^ 63 - 1 :=
      of_decide_eq_true h.canExist
    have hinside : dst.contains x y = true := Rect.contains_iff.mpr (by omega)
    rw [toNat_offsetWord h hx hy hdx hdy hcolumn hrow, toNat_canvasWord c.width hcx hcy (by omega),
      Int.toNat_natCast, Int.toNat_natCast, sample_eq]
    have hnonneg := offset_nonneg image h.x_nonneg h.y_nonneg hinside
    by_cases hfits : (offset image src dst x y).toNat + bytesPerPixel ≤ image.pixels.size
    · rw [if_pos hfits, if_pos ⟨hinside, hnonneg, by omega⟩]
      rfl
    · rw [if_neg hfits, if_neg (fun hroom => by omega)]

/-- A place that falls on the canvas is drawn there as the overlay draws the pixel that it falls on. -/
theorem drawPlace_of_inside {c : Canvas} {place : Nat × Nat} {x y : Nat} (hx : x < c.width.toNat)
    (hy : y < c.height.toNat) (hcolumn : dst.x.toInt + place.1 = x) (hrow : dst.y.toInt + place.2 = y) :
    drawPlace image src dst c place =
      match sample image src dst x y with
      | some s => c.put x y (image.pixels.extract s (s + bytesPerPixel))
      | none => c := by
  unfold drawPlace
  dsimp only
  rw [if_neg (by omega), hcolumn, hrow]
  rfl

/-- A place that falls beside the canvas is left out. -/
theorem drawPlace_of_outside {c : Canvas} {place : Nat × Nat}
    (h : ∀ x y : Nat, x < c.width.toNat → y < c.height.toNat →
      ¬ (dst.x.toInt + place.1 = x ∧ dst.y.toInt + place.2 = y)) :
    drawPlace image src dst c place = c := by
  unfold drawPlace
  refine if_pos ?_
  by_contra hon
  have hnone := h (dst.x.toInt + place.1).toNat (dst.y.toInt + place.2).toNat (by omega) (by omega)
  omega

theorem WellFormed.put {c : Canvas} (hc : c.WellFormed) (x y : Nat) (new : Array UInt8) :
    (c.put x y new).WellFormed := by
  rw [WellFormed, Canvas.put, size_writeAt]
  exact hc

/-- The number of a pixel determines its column and its row. -/
theorem number_inj {w x y x' y' : Nat} (hx : x < w) (hx' : x' < w) (h : y * w + x = y' * w + x') :
    x = x' ∧ y = y' := by
  have hcolumn : (y * w + x) % w = (y' * w + x') % w := congrArg (· % w) h
  rw [Nat.mul_comm y, Nat.mul_comm y', Nat.mul_add_mod, Nat.mul_add_mod, Nat.mod_eq_of_lt hx,
    Nat.mod_eq_of_lt hx'] at hcolumn
  subst hcolumn
  exact ⟨rfl, Nat.eq_of_mul_eq_mul_right (Nat.zero_lt_of_lt hx) (Nat.add_right_cancel h)⟩

/-- To put a pixel changes that pixel and no other one. -/
theorem pixel?_put {c : Canvas} (hc : c.WellFormed) {x₀ y₀ : Nat} (hx₀ : x₀ < c.width.toNat)
    (hy₀ : y₀ < c.height.toNat) {new : Array UInt8} (hnew : new.size = bytesPerPixel) {x y : UInt32}
    (hx : x < c.width) (hy : y < c.height) :
    (c.put x₀ y₀ new).pixel? x y = if x₀ = x.toNat ∧ y₀ = y.toNat then some new else c.pixel? x y := by
  rw [pixel?_eq_some (hc.put x₀ y₀ new) hx hy, pixel?_eq_some hc hx hy]
  change some ((writeAt c.pixels ((y₀ * c.width.toNat + x₀) * bytesPerPixel) new).extract
    ((y.toNat * c.width.toNat + x.toNat) * bytesPerPixel)
    ((y.toNat * c.width.toNat + x.toNat) * bytesPerPixel + bytesPerPixel)) = _
  by_cases hsame : x₀ = x.toNat ∧ y₀ = y.toNat
  · obtain ⟨rfl, rfl⟩ := hsame
    have hroom := offset_add_le hx₀ hy₀
    rw [if_pos ⟨rfl, rfl⟩, ← hnew, extract_writeAt_self (by rw [hnew, hc]; exact hroom)]
  · rw [if_neg hsame, extract_writeAt_of_disjoint]
    -- two pixels have no bytes in common
    have hne : y₀ * c.width.toNat + x₀ ≠ y.toNat * c.width.toNat + x.toNat :=
      fun h => hsame (number_inj hx₀ (UInt32.lt_iff_toNat_lt.mp hx) h)
    rw [hnew]
    unfold bytesPerPixel
    omega

/-- Whether a place of the destination falls on the pixel `(x, y)`. -/
def fallsOn (dst : Rect) (place : Nat × Nat) (x y : Nat) : Prop :=
  dst.x.toInt + place.1 = x ∧ dst.y.toInt + place.2 = y

instance (dst : Rect) (place : Nat × Nat) (x y : Nat) : Decidable (fallsOn dst place x y) :=
  inferInstanceAs (Decidable (_ ∧ _))

/-- What a canvas `c` has become when some places, and no others, were drawn on it. -/
structure Painted (image : Image) (src dst : Rect) (done : List (Nat × Nat)) (c c' : Canvas) :
    Prop where
  wellFormed : c'.WellFormed
  width : c'.width = c.width
  height : c'.height = c.height
  posted : c'.posted = c.posted
  /-- A pixel is overlaid once one of the places has fallen on it, and until then it is as it was. -/
  pixel : ∀ x y : UInt32, x < c.width → y < c.height →
    c'.pixel? x y =
      if ∃ place ∈ done, fallsOn dst place x.toNat y.toNat then (c.overlay image src dst).pixel? x y
      else c.pixel? x y

theorem Painted.nil {c : Canvas} (hc : c.WellFormed) : Painted image src dst [] c c :=
  ⟨hc, rfl, rfl, rfl, fun x y _ _ => by simp⟩

/-- **One turn of the loop** draws its place. -/
theorem painted_drawPlace (image : Image) (src dst : Rect) {c : Canvas} (hc : c.WellFormed)
    (place : Nat × Nat) : Painted image src dst [place] c (drawPlace image src dst c place) := by
  by_cases hon : ∃ x y : Nat, x < c.width.toNat ∧ y < c.height.toNat ∧ fallsOn dst place x y
  · obtain ⟨x₀, y₀, hx₀, hy₀, hfalls⟩ := hon
    have hsame : ∀ x y : Nat, fallsOn dst place x y ↔ x₀ = x ∧ y₀ = y := by
      obtain ⟨hcolumn, hrow⟩ := hfalls
      intro x y
      unfold fallsOn
      omega
    rw [drawPlace_of_inside hx₀ hy₀ hfalls.1 hfalls.2]
    cases hsample : sample image src dst x₀ y₀ with
    | none =>
      -- the image has no bytes for the pixel, and the overlay leaves it, too
      refine ⟨hc, rfl, rfl, rfl, fun x y hx hy => ?_⟩
      simp only [List.mem_singleton, exists_eq_left, hsame]
      split
      · rename_i hhit
        obtain ⟨rfl, rfl⟩ := hhit
        rw [pixel?_overlay hc image src dst hx hy, hsample]
      · rfl
    | some s =>
      have hnew : (image.pixels.extract s (s + bytesPerPixel)).size = bytesPerPixel := by
        have hroom := sample_add_le hsample
        rw [Array.size_extract]
        omega
      refine ⟨hc.put _ _ _, rfl, rfl, rfl, fun x y hx hy => ?_⟩
      simp only [List.mem_singleton, exists_eq_left, hsame]
      rw [pixel?_put hc hx₀ hy₀ hnew hx hy]
      split
      · rename_i hhit
        obtain ⟨rfl, rfl⟩ := hhit
        rw [pixel?_overlay hc image src dst hx hy, hsample]
      · rfl
  · rw [drawPlace_of_outside fun x y hx hy hfalls => hon ⟨x, y, hx, hy, hfalls⟩]
    refine ⟨hc, rfl, rfl, rfl, fun x y hx hy => ?_⟩
    rw [UInt32.lt_iff_toNat_lt] at hx hy
    have hmissed : ¬ ∃ p ∈ [place], fallsOn dst p x.toNat y.toNat := by
      simp only [List.mem_singleton, exists_eq_left]
      exact fun hfalls => hon ⟨_, _, hx, hy, hfalls⟩
    rw [if_neg hmissed]

/-- Places that are drawn later do not disturb what was drawn before: a pixel takes the same bytes from
whatever canvas it is on. -/
theorem Painted.append {c c' c'' : Canvas} (hc : c.WellFormed) {done more : List (Nat × Nat)}
    (h : Painted image src dst done c c') (h' : Painted image src dst more c' c'') :
    Painted image src dst (done ++ more) c c'' := by
  refine ⟨h'.wellFormed, h'.width.trans h.width, h'.height.trans h.height, h'.posted.trans h.posted,
    fun x y hx hy => ?_⟩
  have hx' : x < c'.width := h.width ▸ hx
  have hy' : y < c'.height := h.height ▸ hy
  have hor : (∃ place ∈ done ++ more, fallsOn dst place x.toNat y.toNat) ↔
      (∃ place ∈ done, fallsOn dst place x.toNat y.toNat) ∨
        ∃ place ∈ more, fallsOn dst place x.toNat y.toNat := by
    simp only [List.mem_append, or_and_right, exists_or]
  rw [h'.pixel x y hx' hy', pixel?_overlay h.wellFormed image src dst hx' hy', h.pixel x y hx hy,
    pixel?_overlay hc image src dst hx hy]
  simp only [hor]
  cases sample image src dst x.toNat y.toNat with
  | none => simp
  | some s =>
    by_cases hmore : ∃ place ∈ more, fallsOn dst place x.toNat y.toNat
    · rw [if_pos hmore, if_pos (Or.inr hmore)]
    · rw [if_neg hmore]
      simp only [hmore, or_false]

/-- The loop over some places draws them. -/
theorem painted_foldl (image : Image) (src dst : Rect) (places : List (Nat × Nat)) {c : Canvas}
    (hc : c.WellFormed) :
    Painted image src dst places c (places.foldl (drawPlace image src dst) c) := by
  induction places generalizing c with
  | nil => exact .nil hc
  | cons place rest ih =>
    have hfirst := painted_drawPlace image src dst hc place
    exact hfirst.append hc (ih hfirst.wellFormed)

/-- The places of a destination fall on the pixels inside of it. -/
theorem exists_fallsOn_iff {x y : Nat} :
    (∃ place ∈ places dst, fallsOn dst place x y) ↔ dst.contains x y = true := by
  rw [Rect.contains_iff]
  constructor
  · rintro ⟨place, hplace, hcolumn, hrow⟩
    obtain ⟨hdx, hdy⟩ := mem_places.mp hplace
    omega
  · rintro ⟨⟨hx, hx'⟩, hy, hy'⟩
    refine ⟨((x - dst.x.toInt).toNat, (y - dst.y.toInt).toNat), mem_places.mpr ?_, ?_⟩
    · dsimp only
      omega
    · unfold fallsOn
      dsimp only
      omega

/-- **The loop is the overlay.**  Drawing the places of a destination one after the other comes to the same
canvas as looking up the source of each pixel. -/
theorem foldl_drawPlace (image : Image) (src dst : Rect) {c : Canvas} (hc : c.WellFormed) :
    (places dst).foldl (drawPlace image src dst) c = c.overlay image src dst := by
  obtain ⟨hwell, hwidth, hheight, hposted, hpixel⟩ := painted_foldl image src dst (places dst) hc
  generalize (places dst).foldl (drawPlace image src dst) c = drawn at hwell hwidth hheight hposted hpixel
  have hpixels : drawn.pixels = (c.overlay image src dst).pixels := by
    rw [pixels_eq_iff hwell (hc.overlay image src dst) hwidth hheight, hwidth, hheight]
    intro x y hx hy
    rw [hpixel x y hx hy]
    split
    · rfl
    · rename_i hmissed
      rw [exists_fallsOn_iff] at hmissed
      rw [pixel?_overlay hc image src dst hx hy, sample_eq, if_neg (fun hboth => hmissed hboth.1)]
  calc drawn = ⟨drawn.width, drawn.height, drawn.pixels, drawn.posted⟩ := rfl
    _ = c.overlay image src dst := by
      rw [hwidth, hheight, hpixels, hposted]
      rfl

/-- A loop whose turns do what those of another one do, as long as something holds that they keep, comes
to what the other one comes to. -/
theorem foldlM_eq_pure_foldl {m : Type → Type} [Monad m] [LawfulMonad m]
    {turn : Canvas → Nat × Nat → m Canvas} {turn' : Canvas → Nat × Nat → Canvas} {P : Canvas → Prop}
    {places : List (Nat × Nat)}
    (hturn : ∀ c, P c → ∀ place ∈ places, turn c place = pure (turn' c place) ∧ P (turn' c place))
    {c : Canvas} (hc : P c) : places.foldlM turn c = pure (places.foldl turn' c) := by
  induction places generalizing c with
  | nil => rfl
  | cons place rest ih =>
    obtain ⟨hfirst, hkept⟩ := hturn c hc place List.mem_cons_self
    rw [List.foldlM_cons, hfirst, pure_bind, List.foldl_cons]
    exact ih (fun c hc p hp => hturn c hc p (List.mem_cons_of_mem _ hp)) hkept

/-- In words the loop comes to the overlay, too. -/
theorem paint_eq_overlay {c : Canvas} (hc : c.WellFormed)
    (h : InWords c.width c.height image src dst) : c.paint image src dst = c.overlay image src dst := by
  have hloop : (places dst).foldlM (m := Id) (fun c place => pure (copyPixel image src dst c place)) c =
      pure ((places dst).foldl (drawPlace image src dst) c) := by
    refine foldlM_eq_pure_foldl (P := fun c => c.WellFormed ∧ InWords c.width c.height image src dst) ?_
      ⟨hc, h⟩
    rintro c ⟨hc, h⟩ place hplace
    have hdrawn := painted_drawPlace image src dst hc place
    exact ⟨congrArg pure (copyPixel_eq_drawPlace h hplace), hdrawn.wellFormed,
      by rwa [hdrawn.width, hdrawn.height]⟩
  rw [← foldl_drawPlace image src dst hc, paint, List.foldl_eq_foldlM, hloop]
  rfl

/-! ### A source within its image -/

/-- A pixel of a source within its image is a pixel of the image, whose bytes are all there. -/
theorem exists_source (hsrc : src.isEmpty = false) (hcovers : image.Covers src)
    (hformat : image.format.bytesPerPixel = bytesPerPixel) (himage : image.WellFormed) {x y : Int}
    (h : dst.contains x y = true) :
    ∃ column row : Nat, src.contains column row = true ∧ column < image.width.toNat ∧
      row < image.height.toNat ∧
      offset image src dst x y = ((row * image.width.toNat + column) * bytesPerPixel : Nat) ∧
      (row * image.width.toNat + column) * bytesPerPixel + bytesPerPixel ≤ image.pixels.size := by
  obtain ⟨⟨hx, hx'⟩, hy, hy'⟩ := Rect.contains_iff.mp h
  obtain ⟨hleft, htop, hright, hbottom⟩ := hcovers
  obtain ⟨hw, hh⟩ := Rect.isEmpty_eq_false_iff.mp hsrc
  obtain ⟨hcolumn, hcolumn'⟩ := sourcePlace_mem src.x hw hx hx'
  obtain ⟨hrow, hrow'⟩ := sourcePlace_mem src.y hh hy hy'
  -- neither column nor row is negative
  obtain ⟨column, hcolumnEq⟩ := Int.eq_ofNat_of_zero_le (Int.le_trans hleft hcolumn)
  obtain ⟨row, hrowEq⟩ := Int.eq_ofNat_of_zero_le (Int.le_trans htop hrow)
  rw [hcolumnEq] at hcolumn hcolumn'
  rw [hrowEq] at hrow hrow'
  have hcontains : src.contains column row = true :=
    Rect.contains_iff.mpr ⟨⟨hcolumn, hcolumn'⟩, hrow, hrow'⟩
  have hcolumnLt : column < image.width.toNat := by omega
  have hrowLt : row < image.height.toNat := by omega
  refine ⟨column, row, hcontains, hcolumnLt, hrowLt, ?_, ?_⟩
  · rw [offset, hcolumnEq, hrowEq, Image.stride, hformat]
    push_cast
    rw [Int.add_mul, Int.mul_assoc]
  · rw [Image.size_pixels hformat himage]
    exact offset_add_le hcolumnLt hrowLt

end Canvas

namespace MemoryTarget

/-- **Drawing is scaling, clipped to the canvas.**  Inside a transaction, an image in a 32-bit format is
drawn whatever its bytes, its source and its destination are, provided that the source does not begin
before the image, and that no word wraps around in finding it.

* Nothing is drawn from or to an empty rectangle.
* Else each pixel of the canvas inside the destination takes the four bytes from its offset on, if the
  image has them, and every other pixel stays as it was.
* If the source lies within an image that has all of its bytes, then no pixel inside the destination is
  left out, and each is the image's pixel in a row and a column of the source.
* The loop over the rows and columns of the destination, in words of 64 bits, comes to the same, on every
  canvas that fits into memory. -/
theorem draw_scales_to_nearest {t : MemoryTarget} (hopen : t.inTransaction = true)
    (hback : t.back.WellFormed) {image : Image}
    (hformat : image.format.bytesPerPixel = Canvas.bytesPerPixel) {src : Rect} (dst : Rect)
    (hsx : 0 ≤ src.x.toInt) (hsy : 0 ≤ src.y.toInt) (hwidth : src.width.toNat ≤ 2 ^ 31 - 1)
    (hheight : src.height.toNat ≤ 2 ^ 31 - 1)
    (hoffset : ∀ x y : Nat, x < t.back.width.toNat → y < t.back.height.toNat →
      dst.contains x y = true → Canvas.offset image src dst x y < 2 ^ 64) :
    ∃ back : Canvas, t.draw image src dst = (.ok (), { t with back }) ∧
      (back.width = t.back.width ∧ back.height = t.back.height ∧ back.posted = t.back.posted) ∧
      ((src.isEmpty || dst.isEmpty) = true → back = t.back) ∧
      ((src.isEmpty || dst.isEmpty) = false →
        (∀ x y : UInt32, x < t.back.width → y < t.back.height →
          let s := Canvas.offset image src dst x.toNat y.toNat
          (dst.contains x.toNat y.toNat = true → s + 4 ≤ image.pixels.size →
            back.pixel? x y = some (image.pixels.extract s.toNat (s.toNat + 4))) ∧
          (¬ (dst.contains x.toNat y.toNat = true ∧ s + 4 ≤ image.pixels.size) →
            back.pixel? x y = t.back.pixel? x y)) ∧
        (image.Covers src → image.WellFormed →
          ∀ x y : UInt32, x < t.back.width → y < t.back.height →
            dst.contains x.toNat y.toNat = true →
            ∃ column row : Nat, src.contains column row = true ∧
              column < image.width.toNat ∧ row < image.height.toNat ∧
              back.pixel? x y = some (image.pixels.extract ((row * image.width.toNat + column) * 4)
                ((row * image.width.toNat + column) * 4 + 4))) ∧
        (Canvas.canExist t.back.width t.back.height = true →
          back = t.back.paint image src dst)) := by
  refine ⟨_, draw_of_inTransaction hopen hformat src dst, ?_⟩
  cases hempty : src.isEmpty || dst.isEmpty with
  | true => simp
  | false =>
    have hpixel {x y : UInt32} (hx : x < t.back.width) (hy : y < t.back.height) :=
      Canvas.pixel?_overlay_of_offset hback image hsx hsy dst hx hy
    refine ⟨⟨rfl, rfl, rfl⟩, by simp, fun _ =>
      ⟨fun x y hx hy => ⟨fun hinside hroom => ?_, fun hnone => ?_⟩,
        fun hcovers himage x y hx hy hinside => ?_, fun hexists => ?_⟩⟩
    · exact (hpixel hx hy).trans (if_pos ⟨hinside, hroom⟩)
    · exact (hpixel hx hy).trans (if_neg hnone)
    · obtain ⟨column, row, hcontains, hcolumn, hrow, hplace, hroom⟩ :=
        Canvas.exists_source (Bool.or_eq_false_iff.mp hempty).1 hcovers hformat himage hinside
      refine ⟨column, row, hcontains, hcolumn, hrow, ?_⟩
      have hfits : Canvas.offset image src dst x.toNat y.toNat + Canvas.bytesPerPixel ≤
          image.pixels.size := by
        omega
      refine (hpixel hx hy).trans ((if_pos ⟨hinside, hfits⟩).trans ?_)
      rw [hplace]
      rfl
    · exact (Canvas.paint_eq_overlay hback ⟨hexists, hsx, hsy, hwidth, hheight, hoffset⟩).symm

/-- A part of an image on a destination that begins beside the canvas: its two rows of two pixels, of
which each is made two columns wide. -/
theorem draw_scales_to_nearest_clipped :
    let t := Drawable.after (new 2 2) [.begin]
    let image : Image := ⟨3, 2, .rgba8,
      #[0, 1, 2, 3, 4, 5, 6, 7, 8, 9, 10, 11, 12, 13, 14, 15, 16, 17, 18, 19, 20, 21, 22, 23]⟩
    let src : Rect := ⟨1, 0, 2, 2⟩
    let dst : Rect := ⟨-1, 0, 4, 2⟩
    ∃ back : Canvas, t.draw image src dst = (.ok (), { t with back }) ∧
      back.pixel? 0 0 = some #[4, 5, 6, 7] ∧ back.pixel? 1 1 = some #[20, 21, 22, 23] ∧
      back = t.back.paint image src dst := by
  intro t image src dst
  have hcovers : image.Covers src := ⟨by decide, by decide, by decide, by decide⟩
  have himage : image.WellFormed := rfl
  have hoffset : ∀ x y : Nat, x < t.back.width.toNat → y < t.back.height.toNat →
      dst.contains x y = true → Canvas.offset image src dst x y < 2 ^ 64 := by
    intro x y _ _ hinside
    obtain ⟨column, row, -, -, -, hplace, hroom⟩ :=
      Canvas.exists_source (by decide) hcovers rfl himage hinside
    have hsize : image.pixels.size = 24 := rfl
    omega
  obtain ⟨back, hdraw, -, -, hdrawn⟩ := draw_scales_to_nearest (t := t) rfl
    (Canvas.wellFormed_blank 2 2) (show image.format.bytesPerPixel = Canvas.bytesPerPixel from rfl) dst
    (show 0 ≤ src.x.toInt by decide) (by decide) (by decide) (by decide) hoffset
  obtain ⟨hpixel, -, hpaint⟩ := hdrawn (by decide)
  refine ⟨back, hdraw, ?_, ?_, hpaint (by decide)⟩
  · exact ((hpixel 0 0 (by decide) (by decide)).1 (by decide) (by decide)).trans (by decide)
  · exact ((hpixel 1 1 (by decide) (by decide)).1 (by decide) (by decide)).trans (by decide)

end MemoryTarget

end DeskView
