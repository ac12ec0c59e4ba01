import DeskView.Frame.Buffer

/-!
# The frame buffer between its operations

`FrameBuffer.Sound` is what every sequence of `fit`, `fill` and `stage` keeps: a staged image has the
buffer's own format, width and height, exactly the bytes that these need, and never more of them than
the buffer holds.

The main statement, `stage_fill_of_fit`, follows a frame through the three operations: once a geometry
is accepted and the fetch succeeds, the frame is staged for certain, in the shape of that geometry,
and its pixels are the first bytes that this fetch left.  What was staged before leaves no trace.
-/

namespace DeskView

/-- The picture of a frame: its shape, and as many of the bytes that were fetched as the shape
needs. -/
def Image.ofFrame (width height : UInt32) (format : PixelFormat) (bytes : Array UInt8) : Image :=
  ⟨width, height, format, bytes.extract 0 (byteLength width height format)⟩

namespace FrameBuffer

variable {b b' : FrameBuffer}

/-- What holds of a frame buffer between any two of its operations. -/
structure Sound (b : FrameBuffer) : Prop where
  format : ∀ image ∈ b.staged, image.format = b.format
  width : ∀ image ∈ b.staged, image.width = b.width
  height : ∀ image ∈ b.staged, image.height = b.height
  wellFormed : ∀ image ∈ b.staged, image.WellFormed
  fits : ∀ image ∈ b.staged, image.pixels.size ≤ b.bytes.size

theorem sound_new (format : PixelFormat) : Sound { format } := by
  constructor <;> intro image h <;> cases h

/-! ### The parts of a fit -/

@[simp]
theorem size_bytes_resize (b : FrameBuffer) (size : Nat) : (b.resize size).bytes.size = size := by
  unfold resize
  split
  · assumption
  · simp

@[simp]
theorem format_resize (b : FrameBuffer) (size : Nat) : (b.resize size).format = b.format := by
  unfold resize
  split <;> rfl

@[simp]
theorem staged_resize (b : FrameBuffer) (size : Nat) : (b.resize size).staged = b.staged := by
  unfold resize
  split <;> rfl

/-- After `reshape` there is a staged image, either the one there was, of just that shape, or a blank
one. -/
theorem staged_reshape (b : FrameBuffer) (width height : UInt32) :
    ∃ image, (b.reshape width height).staged = some image ∧
      image.width = width ∧ image.height = height ∧
      (b.staged = some image ∨ image = .blank width height b.format) := by
  unfold reshape isStagedAs
  cases hs : b.staged with
  | none => exact ⟨_, rfl, rfl, rfl, .inr rfl⟩
  | some image =>
    by_cases hshape : image.width = width ∧ image.height = height
    · exact ⟨image, by simp [hshape], hshape.1, hshape.2, .inl rfl⟩
    · refine ⟨.blank width height b.format, ?_, rfl, rfl, .inr rfl⟩
      simp only [Bool.and_eq_true, decide_eq_true_eq, if_neg hshape]

/-- A geometry is accepted exactly when its width and height need no more bytes than it has. -/
theorem fit_eq_ok_iff {g : Geometry} {r : Replaced} :
    b.fit g = .ok (r, b') ↔
      Image.byteLength g.width g.height b.format ≤ g.size ∧
      r = ⟨b.bytes.size != g.size, !b.isStagedAs g.width g.height⟩ ∧
      b' = (b.resize g.size).reshape g.width g.height := by
  unfold fit
  dsimp only
  by_cases h : Image.byteLength g.width g.height b.format ≤ g.size
  · rw [if_pos h]
    constructor
    · intro heq
      cases heq
      exact ⟨h, rfl, rfl⟩
    · rintro ⟨-, rfl, rfl⟩
      rfl
  · rw [if_neg h]
    constructor
    · intro heq
      cases heq
    · rintro ⟨hroom, -, -⟩
      exact absurd hroom h

theorem fit_of_lt {g : Geometry} (h : g.size < Image.byteLength g.width g.height b.format) :
    b.fit g = .error (.tooShort (min (Image.byteLength g.width g.height b.format) maxCount) g.size) := by
  unfold fit
  exact if_neg (Nat.not_le.mpr h)

theorem fit_of_le {g : Geometry} (h : Image.byteLength g.width g.height b.format ≤ g.size) :
    b.fit g = .ok (⟨b.bytes.size != g.size, !b.isStagedAs g.width g.height⟩,
      (b.resize g.size).reshape g.width g.height) := by
  unfold fit
  exact if_pos h

/-- What an accepted geometry leaves: its own shape, as many bytes as it has, and a staged image of
that shape which has only the bytes that the shape needs. -/
theorem fit_spec (hb : b.Sound) {g : Geometry} {r : Replaced} (h : b.fit g = .ok (r, b')) :
    b'.format = b.format ∧ b'.width = g.width ∧ b'.height = g.height ∧ b'.bytes.size = g.size ∧
      ∃ image, b'.staged = some image ∧ image.width = g.width ∧ image.height = g.height ∧
        image.format = b.format ∧ image.WellFormed ∧ image.pixels.size ≤ g.size := by
  obtain ⟨hroom, -, rfl⟩ := fit_eq_ok_iff.mp h
  refine ⟨format_resize b g.size, rfl, rfl, size_bytes_resize b g.size, ?_⟩
  -- an image that is kept was sound before; a new one is blank
  obtain ⟨image, hstaged, hwidth, hheight, hold⟩ := staged_reshape (b.resize g.size) g.width g.height
  rw [staged_resize, format_resize] at hold
  have hformat : image.format = b.format := by
    rcases hold with hold | rfl
    · exact hb.format image hold
    · rfl
  have hwf : image.WellFormed := by
    rcases hold with hold | rfl
    · exact hb.wellFormed image hold
    · exact Image.wellFormed_blank _ _ _
  refine ⟨image, hstaged, hwidth, hheight, hformat, hwf, ?_⟩
  rw [hwf, hwidth, hheight, hformat]
  exact hroom

/-! ### The invariant -/

theorem Sound.fit (hb : b.Sound) {g : Geometry} {r : Replaced} (h : b.fit g = .ok (r, b')) :
    b'.Sound := by
  obtain ⟨hformat, hwidth, hheight, hsize, image, hstaged, hw, hh, hf, hwf, hle⟩ := fit_spec hb h
  constructor <;> intro image' himage' <;> rw [hstaged] at himage' <;> cases himage'
  · rw [hf, hformat]
  · rw [hw, hwidth]
  · rw [hh, hheight]
  · exact hwf
  · rwa [hsize]

@[simp]
theorem format_fill (b : FrameBuffer) (f : Engine.Fetch) : (b.fill f).2.format = b.format := by
  unfold fill
  split <;> rfl

@[simp]
theorem bytes_fill (b : FrameBuffer) (f : Engine.Fetch) : (b.fill f).2.bytes = f.paint b.bytes := by
  unfold fill
  split <;> rfl

@[simp]
theorem staged_fill (b : FrameBuffer) (f : Engine.Fetch) : (b.fill f).2.staged = b.staged := by
  unfold fill
  split <;> rfl

@[simp]
theorem width_fill (b : FrameBuffer) (f : Engine.Fetch) : (b.fill f).2.width = b.width := by
  unfold fill
  split <;> rfl

@[simp]
theorem height_fill (b : FrameBuffer) (f : Engine.Fetch) : (b.fill f).2.height = b.height := by
  unfold fill
  split <;> rfl

@[simp]
theorem generation_fill (b : FrameBuffer) (f : Engine.Fetch) :
    (b.fill f).2.generation = b.generation := by
  unfold fill
  split <;> rfl

/-- Only a fetch that succeeds fills the buffer. -/
theorem filled_fill (b : FrameBuffer) (f : Engine.Fetch) :
    (b.fill f).2.filled = (b.fill f).1.isOk := by
  unfold fill
  split <;> rfl

theorem Sound.fill (hb : b.Sound) (f : Engine.Fetch) : (b.fill f).2.Sound := by
  constructor <;> intro image h <;> rw [staged_fill] at h
  · rw [format_fill]; exact hb.format image h
  · rw [width_fill]; exact hb.width image h
  · rw [height_fill]; exact hb.height image h
  · exact hb.wellFormed image h
  · rw [bytes_fill, Engine.Fetch.size_paint]; exact hb.fits image h

/-- Of a sound buffer that is filled, what was staged is staged again, with the buffer's first bytes
for pixels. -/
theorem stage_eq_ok (hb : b.Sound) (hfilled : b.filled = true) {image : Image}
    (hstaged : b.staged = some image) :
    b.stage = .ok ({ image with pixels := b.bytes.extract 0 image.pixels.size },
      { b with staged := some { image with pixels := b.bytes.extract 0 image.pixels.size } }) := by
  have hfits : ¬ b.bytes.size < image.pixels.size := Nat.not_lt.mpr (hb.fits image hstaged)
  unfold stage
  simp only [hfilled, Bool.not_true, Bool.false_eq_true, if_false, hstaged, hfits]

/-- Of a sound buffer that is filled and has a staged image, the frame is staged: the picture of its
shape that its first bytes make. -/
theorem stage_of_filled (hb : b.Sound) (hfilled : b.filled = true) (hstaged : b.staged.isSome) :
    b.stage = .ok (.ofFrame b.width b.height b.format b.bytes,
      { b with staged := some (.ofFrame b.width b.height b.format b.bytes) }) := by
  obtain ⟨image, himage⟩ := Option.isSome_iff_exists.mp hstaged
  have hframe : { image with pixels := b.bytes.extract 0 image.pixels.size } =
      Image.ofFrame b.width b.height b.format b.bytes := by
    rw [hb.wellFormed image himage, ← hb.width image himage, ← hb.height image himage,
      ← hb.format image himage]
    rfl
  rw [stage_eq_ok hb hfilled himage, hframe]

/-- A buffer that is not filled, or has nothing staged, has no frame to stage. -/
theorem stage_of_not_filled (h : ¬ (b.filled = true ∧ b.staged.isSome)) :
    b.stage = .error .notFetched := by
  unfold stage
  cases hfilled : b.filled with
  | false => rfl
  | true =>
    cases hstaged : b.staged with
    | none => rfl
    | some image => exact absurd ⟨hfilled, by rw [hstaged]; rfl⟩ h

theorem exists_staged_of_stage {image : Image} (h : b.stage = .ok (image, b')) :
    ∃ old, b.staged = some old := by
  cases hstaged : b.staged with
  | some old => exact ⟨old, rfl⟩
  | none =>
    rw [stage_of_not_filled (by simp [hstaged])] at h
    cases h

/-- All that staging changes is the staged image. -/
theorem eq_of_stage {image : Image} (h : b.stage = .ok (image, b')) :
    b' = { b with staged := some image } := by
  unfold stage at h
  split at h
  · cases h
  split at h
  · cases h
  dsimp only at h
  split at h
  · cases h
  · cases h
    rfl

theorem format_stage {image : Image} (h : b.stage = .ok (image, b')) : b'.format = b.format := by
  rw [eq_of_stage h]

theorem Sound.stage (hb : b.Sound) {image : Image} (h : b.stage = .ok (image, b')) : b'.Sound := by
  cases hfilled : b.filled with
  | false => simp [FrameBuffer.stage, hfilled] at h
  | true =>
    cases hstaged : b.staged with
    | none => simp [FrameBuffer.stage, hfilled, hstaged] at h
    | some old =>
      rw [stage_eq_ok hb hfilled hstaged] at h
      cases h
      have hfits := hb.fits old hstaged
      have hsize : (b.bytes.extract 0 old.pixels.size).size = old.pixels.size := by
        rw [Array.size_extract]
        omega
      constructor <;> intro image' himage' <;> cases himage'
      · exact hb.format old hstaged
      · exact hb.width old hstaged
      · exact hb.height old hstaged
      · exact hsize.trans (hb.wellFormed old hstaged)
      · exact Nat.le_trans (Nat.le_of_eq hsize) hfits

/-! ### One frame from its geometry to its image -/

/-- **A fetched frame is staged.**  After an accepted geometry and a fetch that succeeds, staging
succeeds as well; the image has the geometry's width and height and the buffer's format, and its
pixels are the first bytes that the fetch left in a buffer of the geometry's size. -/
theorem stage_fill_of_fit (hb : b.Sound) {g : Geometry} {r : Replaced} (h : b.fit g = .ok (r, b'))
    {f : Engine.Fetch} (hf : f.outcome = .ok ()) :
    (b'.fill f).2.stage =
      .ok (.ofFrame g.width g.height b.format (f.paint b'.bytes),
        { (b'.fill f).2 with
          staged := some (.ofFrame g.width g.height b.format (f.paint b'.bytes)) }) := by
  obtain ⟨hformat, hwidth, hheight, -, old, hstaged, -⟩ := fit_spec hb h
  have hfilled : (b'.fill f).2.filled = true := by
    unfold fill
    rw [hf]
  -- a fill leaves the image of before staged; its shape is the geometry's already, its pixels are not
  have hready : (b'.fill f).2.staged.isSome := by
    rw [staged_fill, hstaged]
    rfl
  have hframe : Image.ofFrame (b'.fill f).2.width (b'.fill f).2.height (b'.fill f).2.format
      (b'.fill f).2.bytes = .ofFrame g.width g.height b.format (f.paint b'.bytes) := by
    rw [width_fill, height_fill, format_fill, bytes_fill, hwidth, hheight, hformat]
  rw [stage_of_filled ((hb.fit h).fill f) hfilled hready, hframe]

end FrameBuffer

end DeskView
