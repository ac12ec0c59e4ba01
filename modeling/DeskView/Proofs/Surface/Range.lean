import DeskView.Proofs.Pump.Freshness
import DeskView.Proofs.Surface.Scaling

/-!
# Drawing stays in range

`MemoryTarget.draw?` is drawing as a loop over the places of the destination in which every operation is
checked: a sum, product or quotient that no word of 64 bits holds, a negative number that is to be read
without a sign, and bytes beyond the end of the canvas each bring it down.

`Canvas.TurnInRange` says of one turn that its words and its bytes are in range.  It holds of every turn
that draws a whole image whose sides are below half of all words of 32 bits (`turnInRange_of_mem_places`).
A turn in range does what it does in numbers that need no check (`copyPixel?_eq_some`), so that no check
fails and the loop comes to the overlay (`MemoryTarget.draw_stays_in_range`).  The frames of a pump are
such images, since their sides were reported as signed words (`Playback.exists_isFrame_of_draw`).
-/

namespace DeskView

namespace Canvas

/-! ### Numbers that are checked -/

instance (n : Int) : Decidable (IsWord n) := inferInstanceAs (Decidable (_ ∧ _))

/-- A number as a signed word of 64 bits, if it is one. -/
def signed? (n : Int) : Option Int := if IsWord n then some n else none

/-- A number as an unsigned word of 64 bits, if it is one. -/
def unsigned? (n : Int) : Option Nat := if 0 ≤ n ∧ n < 2 ^ 64 then some n.toNat else none

theorem signed?_of_isWord {n : Int} (h : IsWord n) : signed? n = some n := if_pos h

theorem unsigned?_of_lt {n : Int} {m : Nat} (h : n = m) (hlt : m < 2 ^ 64) : unsigned? n = some m := by
  subst h
  exact if_pos ⟨Int.natCast_nonneg m, by exact_mod_cast hlt⟩

/-- The row or column of the source for place `d` of the destination.  There is no quotient by zero. -/
def sourcePlace? (start : Int32) (source extent : UInt32) (d : Nat) : Option Int := do
  let product ← signed? (d * source.toNat)
  let quotient ← if extent = 0 then none else signed? (product.tdiv extent.toNat)
  signed? (start.toInt + quotient)

/-- Where the image has the pixel in a column of a row. -/
def sourceStart? (image : Image) (column row : Int) : Option Nat := do
  let before ← unsigned? ((← unsigned? row) * image.stride)
  let within ← unsigned? ((← unsigned? column) * bytesPerPixel)
  unsigned? (before + within)

/-- Where the canvas has the pixel in a column of a row. -/
def canvasStart? (width : UInt32) (column row : Int) : Option Nat := do
  let before ← unsigned? ((← unsigned? row) * width.toNat)
  let number ← unsigned? (before + (← unsigned? column))
  unsigned? (number * bytesPerPixel)

/-- A place of the destination is drawn, and every number and every access is checked. -/
def copyPixel? (image : Image) (src dst : Rect) (c : Canvas) (place : Nat × Nat) : Option Canvas := do
  let cy ← signed? (dst.y.toInt + place.2)
  if cy < 0 ∨ c.height.toNat ≤ cy then return c
  let sy ← sourcePlace? src.y src.height dst.height place.2
  let cx ← signed? (dst.x.toInt + place.1)
  if cx < 0 ∨ c.width.toNat ≤ cx then return c
  let sx ← sourcePlace? src.x src.width dst.width place.1
  let s ← sourceStart? image sx sy
  let d ← canvasStart? c.width cx cy
  let sourceEnd ← unsigned? (s + bytesPerPixel)
  if image.pixels.size < sourceEnd then return c
  let canvasEnd ← unsigned? (d + bytesPerPixel)
  if c.pixels.size < canvasEnd then none
  else return { c with pixels := writeAt c.pixels d (image.pixels.extract s sourceEnd) }

end Canvas

/-- Drawing as a loop in which everything is checked; there is no answer where a check fails. -/
def MemoryTarget.draw? (t : MemoryTarget) (image : Image) (src dst : Rect) :
    Option (Outcome FrameError Unit × MemoryTarget) :=
  if !t.inTransaction then some (.error (.draw "draw outside transaction"), t)
  else if image.format.bytesPerPixel ≠ Canvas.bytesPerPixel then
    some (.error (.draw ("unsupported source format " ++ image.format.label)), t)
  else if src.isEmpty || dst.isEmpty then some (.ok (), t)
  else do
    let back ← (Canvas.places dst).foldlM (Canvas.copyPixel? image src dst) t.back
    return (.ok (), { t with back })

namespace Canvas

/-! ### One turn -/

/-- What the drawing of a place works out is in range: the words of 64 bits for where the place falls on the
canvas and for the two products, the bytes of the image, and those of the canvas if the place falls
on it. -/
structure TurnInRange (c : Canvas) (image : Image) (src dst : Rect) (place : Nat × Nat) : Prop where
  row : IsWord (dst.y.toInt + place.2)
  column : IsWord (dst.x.toInt + place.1)
  rowProduct : IsWord (place.2 * src.height.toNat)
  columnProduct : IsWord (place.1 * src.width.toNat)
  source :
    let sy := src.y.toInt + scaleDown place.2 src.height.toNat dst.height.toNat
    let sx := src.x.toInt + scaleDown place.1 src.width.toNat dst.width.toNat
    0 ≤ sy ∧ 0 ≤ sx ∧ sy * image.stride + sx * bytesPerPixel + bytesPerPixel ≤ image.pixels.size
  canvas : ∀ x y : Nat, x < c.width.toNat → y < c.height.toNat → fallsOn dst place x y →
    (y * c.width.toNat + x) * bytesPerPixel + bytesPerPixel ≤ c.pixels.size

variable {image : Image} {src dst : Rect} {place : Nat × Nat}

theorem sourcePlace_corner_add (start start' : Int32) (source extent : UInt32) (d : Nat) :
    sourcePlace start start' source extent (start'.toInt + d) =
      start.toInt + scaleDown d source.toNat extent.toNat := by
  unfold sourcePlace scaleDown
  rw [Int.add_comm start'.toInt, Int.add_sub_cancel]

/-- **Every turn is in range** that draws a whole image on a canvas, both of which have all their bytes: the
products stay below half of all words because the sides of the image stay below half of all words of 32
bits. -/
theorem turnInRange_of_mem_places {c : Canvas} (hc : c.WellFormed)
    (hformat : image.format.bytesPerPixel = bytesPerPixel) (himage : image.WellFormed)
    (hwidth : image.width.toNat ≤ 2 ^ 31 - 1) (hheight : image.height.toNat ≤ 2 ^ 31 - 1)
    (hsrc : (Rect.sized image.width image.height).isEmpty = false) (hplace : place ∈ places dst) :
    TurnInRange c image (.sized image.width image.height) dst place := by
  obtain ⟨hdx, hdy⟩ := mem_places.mp hplace
  have hcolumn : place.1 < 2 ^ 32 := Nat.lt_trans hdx dst.width.toNat_lt
  have hrow : place.2 < 2 ^ 32 := Nat.lt_trans hdy dst.height.toNat_lt
  have hcorner {start : Int32} {d : Nat} (hd : d < 2 ^ 32) : IsWord (start.toInt + d) := by
    have hmin := start.le_toInt
    have hmax := start.toInt_lt
    constructor <;> omega
  have hproduct {d n : Nat} (hd : d < 2 ^ 32) (hn : n ≤ 2 ^ 31 - 1) : IsWord (d * n) := by
    have hle : d * n ≤ (2 ^ 32 - 1) * (2 ^ 31 - 1) := Nat.mul_le_mul (by omega) hn
    rw [← Int.natCast_mul]
    constructor <;> omega
  have hcovers : image.Covers (.sized image.width image.height) := by
    constructor <;> simp [Rect.sized]
  have hinside : dst.contains (dst.x.toInt + place.1) (dst.y.toInt + place.2) = true :=
    Rect.contains_iff.mpr (by omega)
  -- the image has a pixel for every place, also for one that falls beside the canvas
  obtain ⟨column, row, -, -, -, hoffset, hroom⟩ := exists_source hsrc hcovers hformat himage hinside
  refine ⟨hcorner hrow, hcorner hcolumn, hproduct hrow hheight, hproduct hcolumn hwidth, ⟨?_, ?_, ?_⟩,
    fun x y hx hy _ => ?_⟩
  · rw [← sourcePlace_corner_add _ dst.y]
    exact sourcePlace_nonneg hcovers.y_nonneg (by omega) (by omega)
  · rw [← sourcePlace_corner_add _ dst.x]
    exact sourcePlace_nonneg hcovers.x_nonneg (by omega) (by omega)
  · rw [← sourcePlace_corner_add _ dst.y, ← sourcePlace_corner_add _ dst.x]
    unfold offset at hoffset
    omega
  · rw [hc]
    exact offset_add_le hx hy

/-- A quotient is a word, and with the corner added it is one, too. -/
theorem isWord_scaleDown (start : Int32) (source : UInt32) {d extent : Nat} (hd : d < extent) :
    IsWord (scaleDown d source.toNat extent) ∧
      IsWord (start.toInt + scaleDown d source.toNat extent) := by
  obtain ⟨hmin, hmax⟩ := scaleDown_mem (Int.natCast_nonneg d) (Int.ofNat_lt.mpr hd) source.toNat
  have hsource := source.toNat_lt
  have hstart := start.toInt_lt
  have hstart' := start.le_toInt
  constructor <;> constructor <;> omega

theorem sourcePlace?_eq_some (start : Int32) {source extent : UInt32} {d : Nat} (hd : d < extent.toNat)
    (hproduct : IsWord (d * source.toNat)) :
    sourcePlace? start source extent d =
      some (start.toInt + scaleDown d source.toNat extent.toNat) := by
  have hextent : extent ≠ 0 := by
    rintro rfl
    exact Nat.not_lt_zero d hd
  obtain ⟨hquotient, hplace⟩ := isWord_scaleDown start source hd
  have hdiv : ((d : Int) * source.toNat).tdiv extent.toNat = scaleDown d source.toNat extent.toNat :=
    Int.tdiv_eq_ediv_of_nonneg (Int.mul_nonneg (Int.natCast_nonneg _) (Int.natCast_nonneg _))
  unfold sourcePlace?
  refine Option.bind_eq_some_iff.mpr ⟨_, signed?_of_isWord hproduct, ?_⟩
  rw [if_neg hextent, hdiv]
  exact Option.bind_eq_some_iff.mpr ⟨_, signed?_of_isWord hquotient, signed?_of_isWord hplace⟩

theorem sourceStart?_eq_some {column row : Nat} (hcolumn : column < 2 ^ 64) (hrow : row < 2 ^ 64)
    (hlt : row * image.stride + column * bytesPerPixel < 2 ^ 64) :
    sourceStart? image column row = some (row * image.stride + column * bytesPerPixel) := by
  have hbefore : unsigned? ((row : Int) * image.stride) = some (row * image.stride) :=
    unsigned?_of_lt (Int.natCast_mul _ _).symm (by omega)
  have hwithin : unsigned? ((column : Int) * bytesPerPixel) = some (column * bytesPerPixel) :=
    unsigned?_of_lt (Int.natCast_mul _ _).symm (by omega)
  unfold sourceStart?
  refine Option.bind_eq_some_iff.mpr ⟨row, unsigned?_of_lt rfl hrow, ?_⟩
  refine Option.bind_eq_some_iff.mpr ⟨_, hbefore, ?_⟩
  refine Option.bind_eq_some_iff.mpr ⟨column, unsigned?_of_lt rfl hcolumn, ?_⟩
  exact Option.bind_eq_some_iff.mpr ⟨_, hwithin, unsigned?_of_lt (Int.natCast_add _ _).symm hlt⟩

theorem canvasStart?_eq_some {width : UInt32} {column row : Nat} (hrow : row < 2 ^ 64)
    (hlt : (row * width.toNat + column) * bytesPerPixel < 2 ^ 64) :
    canvasStart? width column row = some ((row * width.toNat + column) * bytesPerPixel) := by
  have hnumber : row * width.toNat + column < 2 ^ 64 := by
    unfold bytesPerPixel at hlt
    omega
  have hbefore : unsigned? ((row : Int) * width.toNat) = some (row * width.toNat) :=
    unsigned?_of_lt (Int.natCast_mul _ _).symm (by omega)
  unfold canvasStart?
  refine Option.bind_eq_some_iff.mpr ⟨row, unsigned?_of_lt rfl hrow, ?_⟩
  refine Option.bind_eq_some_iff.mpr ⟨_, hbefore, ?_⟩
  refine Option.bind_eq_some_iff.mpr ⟨column, unsigned?_of_lt rfl (by omega), ?_⟩
  exact Option.bind_eq_some_iff.mpr ⟨_, unsigned?_of_lt (Int.natCast_add _ _).symm hnumber,
    unsigned?_of_lt (Int.natCast_mul _ _).symm hlt⟩

/-- A turn in range finds a pixel of the image, in a row and a column that are not negative. -/
theorem TurnInRange.exists_pixel {c : Canvas} (h : TurnInRange c image src dst place) :
    ∃ column row : Nat,
      src.x.toInt + scaleDown place.1 src.width.toNat dst.width.toNat = column ∧
      src.y.toInt + scaleDown place.2 src.height.toNat dst.height.toNat = row ∧
      row * image.stride + column * bytesPerPixel + bytesPerPixel ≤ image.pixels.size := by
  obtain ⟨hrowNonneg, hcolumnNonneg, hroom⟩ := h.source
  obtain ⟨row, hrow⟩ := Int.eq_ofNat_of_zero_le hrowNonneg
  obtain ⟨column, hcolumn⟩ := Int.eq_ofNat_of_zero_le hcolumnNonneg
  rw [hrow, hcolumn] at hroom
  exact ⟨column, row, hcolumn, hrow, by exact_mod_cast hroom⟩

/-- That pixel is the one which belongs where the place falls. -/
theorem sample_eq_some {x y column row : Nat} (hplace : place ∈ places dst)
    (hfalls : fallsOn dst place x y)
    (hcolumn : src.x.toInt + scaleDown place.1 src.width.toNat dst.width.toNat = column)
    (hrow : src.y.toInt + scaleDown place.2 src.height.toNat dst.height.toNat = row)
    (hroom : row * image.stride + column * bytesPerPixel + bytesPerPixel ≤ image.pixels.size) :
    sample image src dst x y = some (row * image.stride + column * bytesPerPixel) := by
  have hinside : dst.contains x y = true := exists_fallsOn_iff.mp ⟨place, hplace, hfalls⟩
  obtain ⟨hx, hy⟩ := hfalls
  have hoffset : offset image src dst x y = (row * image.stride + column * bytesPerPixel : Nat) := by
    rw [offset, ← hx, ← hy, sourcePlace_corner_add, sourcePlace_corner_add, hrow, hcolumn]
    push_cast
    rfl
  rw [sample_eq, hoffset, Int.toNat_natCast, if_pos ⟨hinside, by omega⟩]

/-- A turn in range passes all checks, and draws its place. -/
theorem copyPixel?_eq_some {c : Canvas} (hc : c.pixels.size < 2 ^ 64) (himage : image.pixels.size < 2 ^ 64)
    (h : TurnInRange c image src dst place) (hplace : place ∈ places dst) :
    copyPixel? image src dst c place = some (drawPlace image src dst c place) := by
  obtain ⟨hdx, hdy⟩ := mem_places.mp hplace
  have hrowLt := (isWord_scaleDown src.y src.height hdy).2.2
  have hcolumnLt := (isWord_scaleDown src.x src.width hdx).2.2
  have hsy := sourcePlace?_eq_some src.y hdy h.rowProduct
  have hsx := sourcePlace?_eq_some src.x hdx h.columnProduct
  obtain ⟨column, row, hcolumn, hrow, hroom⟩ := h.exists_pixel
  rw [hrow] at hrowLt hsy
  rw [hcolumn] at hcolumnLt hsx
  unfold copyPixel?
  refine Option.bind_eq_some_iff.mpr ⟨_, signed?_of_isWord h.row, ?_⟩
  by_cases hcy : dst.y.toInt + place.2 < 0 ∨ c.height.toNat ≤ dst.y.toInt + place.2
  · rw [if_pos hcy, drawPlace_of_outside (by omega)]
    rfl
  rw [if_neg hcy]
  refine Option.bind_eq_some_iff.mpr ⟨row, hsy, ?_⟩
  refine Option.bind_eq_some_iff.mpr ⟨_, signed?_of_isWord h.column, ?_⟩
  by_cases hcx : dst.x.toInt + place.1 < 0 ∨ c.width.toNat ≤ dst.x.toInt + place.1
  · rw [if_pos hcx, drawPlace_of_outside (by omega)]
    rfl
  rw [if_neg hcx]
  -- the place falls on a pixel of the canvas, which has its bytes there
  obtain ⟨x, hx⟩ := Int.eq_ofNat_of_zero_le (show 0 ≤ dst.x.toInt + place.1 by omega)
  obtain ⟨y, hy⟩ := Int.eq_ofNat_of_zero_le (show 0 ≤ dst.y.toInt + place.2 by omega)
  have hxLt : x < c.width.toNat := by omega
  have hyLt : y < c.height.toNat := by omega
  have hyWord : y < 2 ^ 64 := by
    have hheight := c.height.toNat_lt
    omega
  have hcanvas := h.canvas x y hxLt hyLt ⟨hx, hy⟩
  rw [drawPlace_of_inside hxLt hyLt hx hy, sample_eq_some hplace ⟨hx, hy⟩ hcolumn hrow hroom, hx, hy]
  refine Option.bind_eq_some_iff.mpr ⟨column, hsx, ?_⟩
  refine Option.bind_eq_some_iff.mpr ⟨_, sourceStart?_eq_some (by omega) (by omega) (by omega), ?_⟩
  refine Option.bind_eq_some_iff.mpr ⟨_, canvasStart?_eq_some hyWord (by omega), ?_⟩
  refine Option.bind_eq_some_iff.mpr ⟨_, unsigned?_of_lt (Int.natCast_add _ _).symm (by omega), ?_⟩
  rw [if_neg (by omega)]
  refine Option.bind_eq_some_iff.mpr ⟨_, unsigned?_of_lt (Int.natCast_add _ _).symm (by omega), ?_⟩
  rw [if_neg (by omega)]
  rfl

end Canvas

/-! ### The frames of a pump -/

/-- The sides of a reported frame were signed words. -/
theorem Image.IsFrame.sides_le {image : Image} {r : Reported} {format : PixelFormat} {bytes : Array UInt8}
    (h : image.IsFrame r format bytes) :
    image.width.toNat ≤ 2 ^ 31 - 1 ∧ image.height.toNat ≤ 2 ^ 31 - 1 := by
  have hwidth := r.width.toInt_lt
  have hheight := r.height.toInt_lt
  rw [← h.width_eq] at hwidth
  rw [← h.height_eq] at hheight
  omega

/-- What a tick draws is the whole of a frame that was reported. -/
theorem Playback.exists_isFrame_of_draw {T : Type} [Drawable T] {p : Playback T}
    (hb : p.pump.frames.Sound) {a : Engine.Answers} {id : Nat} {image : Image} {src dst : Rect}
    (h : (id, .draw image src dst) ∈ Effect.targetCalls (p.tick a).effects) :
    src = .sized image.width image.height ∧
      ∃ r, image.IsFrame r p.pump.frames.format (p.tick a).pump.frames.bytes := by
  by_cases hfetched : (p.pump.prepare a).verdict = .ok .ready ∧ a.fetch.outcome = .ok ()
  · obtain ⟨r, -, frame, -, hframe, -, hcalls, -, -⟩ := exists_fetched hb hfetched.1 hfetched.2
    rw [hcalls] at h
    obtain ⟨rfl, hsrc⟩ := (Surface.mem_calls_present h).2 image src dst rfl
    exact ⟨hsrc, r, hframe⟩
  · have hsilent := (Pump.tick_of_not_fetched p.surface (Classical.not_and_iff_not_or_not.mp hfetched)).2.1
    unfold tick at h
    rw [hsilent] at h
    cases h

namespace MemoryTarget

/-- Where every turn is in range no check fails, and the checked loop comes to what drawing comes to. -/
theorem draw?_eq_some {t : MemoryTarget} (hback : t.back.WellFormed)
    (hbytes : t.back.pixels.size < 2 ^ 64) {image : Image} (himage : image.pixels.size < 2 ^ 64)
    {src dst : Rect}
    (hturns : image.format.bytesPerPixel = Canvas.bytesPerPixel → src.isEmpty = false →
      ∀ c : Canvas, c.WellFormed → ∀ place ∈ Canvas.places dst, c.TurnInRange image src dst place) :
    t.draw? image src dst = some (t.draw image src dst) := by
  unfold draw? draw
  by_cases hopen : (!t.inTransaction) = true
  · rw [if_pos hopen, if_pos hopen]
  by_cases hformat : image.format.bytesPerPixel ≠ Canvas.bytesPerPixel
  · rw [if_neg hopen, if_pos hformat, if_neg hopen, if_pos hformat]
  cases hempty : src.isEmpty || dst.isEmpty with
  | true => simp [hopen, hformat]
  | false =>
    have hloop : (Canvas.places dst).foldlM (Canvas.copyPixel? image src dst) t.back =
        some (t.back.overlay image src dst) := by
      rw [← Canvas.foldl_drawPlace image src dst hback]
      -- a turn changes neither the size of the canvas nor that it has all its bytes
      refine Canvas.foldlM_eq_pure_foldl
        (P := fun c => c.WellFormed ∧ c.pixels.size < 2 ^ 64) ?_ ⟨hback, hbytes⟩
      rintro c ⟨hc, hsize⟩ place hplace
      have hturn := hturns (not_ne_iff.mp hformat) (Bool.or_eq_false_iff.mp hempty).1 c hc place hplace
      have hdrawn := Canvas.painted_drawPlace image src dst hc place
      refine ⟨Canvas.copyPixel?_eq_some hsize himage hturn hplace, hdrawn.wellFormed, ?_⟩
      rw [hdrawn.wellFormed, hdrawn.width, hdrawn.height, ← hc]
      exact hsize
    rw [if_neg hopen, if_neg hformat, if_neg (by simp), if_neg hopen, if_neg hformat, if_neg (by simp)]
    exact Option.bind_eq_some_iff.mpr ⟨_, hloop, rfl⟩

/-- The checked loop draws every image whole that has no more bytes than four for each of its pixels, and all
its bytes if four is what a pixel takes. -/
theorem draw?_whole_eq_some {t : MemoryTarget} (hback : t.back.WellFormed)
    (hbytes : t.back.pixels.size < 2 ^ 64) {image : Image} (hwidth : image.width.toNat ≤ 2 ^ 31 - 1)
    (hheight : image.height.toNat ≤ 2 ^ 31 - 1)
    (hsize : image.pixels.size ≤ image.width.toNat * image.height.toNat * 4)
    (himage : image.format.bytesPerPixel = Canvas.bytesPerPixel → image.WellFormed) (dst : Rect) :
    t.draw? image (.sized image.width image.height) dst =
      some (t.draw image (.sized image.width image.height) dst) := by
  have harea : image.width.toNat * image.height.toNat ≤ (2 ^ 31 - 1) * (2 ^ 31 - 1) :=
    Nat.mul_le_mul hwidth hheight
  exact draw?_eq_some hback hbytes (by omega) fun hformat hsrc c hc place hplace =>
    Canvas.turnInRange_of_mem_places hc hformat (himage hformat) hwidth hheight hsrc hplace

/-- **Drawing stays in range.**  On a canvas that has all its bytes, fewer than `2 ^ 64` of them, every image
is drawn in range that is drawn whole, has all its bytes, and has sides of at most `2 ^ 31 - 1`; its
destination may be any rectangle at all.

* Each turn of the loop works out numbers that its words hold, finds four bytes in the image, and writes
  four bytes of the canvas or none.
* So the loop in which all of this is checked always comes to an answer, and it is the one of drawing.

Whatever a pump draws, after any history and on any target, is the whole of an image with such sides and with
all its bytes, and no check fails when it is drawn, whatever its format. -/
theorem draw_stays_in_range {t : MemoryTarget} (hback : t.back.WellFormed)
    (hbytes : t.back.width.toNat * t.back.height.toNat * 4 < 2 ^ 64) :
    (∀ (image : Image) (dst : Rect), image.width.toNat ≤ 2 ^ 31 - 1 →
      image.height.toNat ≤ 2 ^ 31 - 1 →
      image.pixels.size = image.width.toNat * image.height.toNat * 4 →
      let src := Rect.sized image.width image.height
      (image.format.bytesPerPixel = 4 → src.isEmpty = false → ∀ place ∈ Canvas.places dst,
        t.back.TurnInRange image src dst place) ∧
      t.draw? image src dst = some (t.draw image src dst)) ∧
    ∀ {T : Type} [Drawable T] (session : String) (config : PumpSettings) (surface : Surface T)
      (history : List (Moment T)) (a : Engine.Answers) (id : Nat) (image : Image) (src dst : Rect),
      (id, .draw image src dst) ∈ Effect.targetCalls
        ((Playback.run ⟨.new session config, surface⟩ history).tick a).effects →
      src = .sized image.width image.height ∧ image.width.toNat ≤ 2 ^ 31 - 1 ∧
        image.height.toNat ≤ 2 ^ 31 - 1 ∧ image.WellFormed ∧
        t.draw? image src dst = some (t.draw image src dst) := by
  have hsize : t.back.pixels.size < 2 ^ 64 := hback ▸ hbytes
  refine ⟨fun image dst hwidth hheight hpixels => ?_, ?_⟩
  · have himage (hformat : image.format.bytesPerPixel = Canvas.bytesPerPixel) : image.WellFormed := by
      rw [Image.WellFormed, Image.byteLength, hformat]
      exact hpixels
    refine ⟨fun hformat hsrc place hplace => ?_,
      draw?_whole_eq_some hback hsize hwidth hheight (Nat.le_of_eq hpixels) himage dst⟩
    exact Canvas.turnInRange_of_mem_places hback hformat (himage hformat) hwidth hheight hsrc hplace
  · intro T _ session config surface history a id image src dst hdraw
    have hsound := (Playback.sound_frames_run (p := ⟨.new session config, surface⟩)
      (FrameBuffer.sound_new config.format) history).1
    obtain ⟨rfl, r, hframe⟩ := Playback.exists_isFrame_of_draw hsound hdraw
    have himage := hframe.wellFormed
    -- a pixel takes four bytes at most
    have hpixel : image.format.bytesPerPixel ≤ 4 := by cases image.format <;> decide
    have hpixels : image.pixels.size ≤ image.width.toNat * image.height.toNat * 4 := by
      rw [himage]
      exact Nat.mul_le_mul_left _ hpixel
    exact ⟨rfl, hframe.sides_le.1, hframe.sides_le.2, himage,
      draw?_whole_eq_some hback hsize hframe.sides_le.1 hframe.sides_le.2 hpixels (fun _ => himage) dst⟩

/-- An image with the longest sides on a destination with the longest sides, and the last of its turns. -/
theorem draw_stays_in_range_largest :
    let t := Drawable.after (new 2 2) [.begin]
    let image := Image.blank 2147483647 2147483647 .rgba8
    let src := Rect.sized 2147483647 2147483647
    let dst : Rect := ⟨-2147483648, -2147483648, 4294967295, 4294967295⟩
    t.back.WellFormed ∧ t.back.width.toNat * t.back.height.toNat * 4 < 2 ^ 64 ∧
      (4294967294, 4294967294) ∈ Canvas.places dst ∧
      t.back.TurnInRange image src dst (4294967294, 4294967294) ∧
      t.draw? image src dst = some (t.draw image src dst) := by
  intro t image src dst
  have hback : t.back.WellFormed := Canvas.wellFormed_blank 2 2
  have hbytes : t.back.width.toNat * t.back.height.toNat * 4 < 2 ^ 64 := by decide
  have hplace : (4294967294, 4294967294) ∈ Canvas.places dst := Canvas.mem_places.mpr (by decide)
  obtain ⟨hturns, hdraw⟩ := (draw_stays_in_range hback hbytes).1 image dst (by decide) (by decide)
    (Image.wellFormed_blank 2147483647 2147483647 .rgba8)
  exact ⟨hback, hbytes, hplace, hturns rfl rfl _ hplace, hdraw⟩

end MemoryTarget

end DeskView
