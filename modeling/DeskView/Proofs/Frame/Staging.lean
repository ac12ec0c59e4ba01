import DeskView.Proofs.Frame.Room

/-!
# When a frame is staged

What a frame buffer was used for tells whether it holds a frame that was fetched.  `FrameBuffer.trace`
lists the uses with their replies; of these, `accepted?` picks those in which room was made, and
`fetched?` those that decide about the bytes: a fill does, and so does making room if it replaces them.

`FrameBuffer.Follows` ties the buffer to its trace, one use at a time.  From it and from soundness comes
the main statement: staging succeeds exactly if room was made at some time and the last that was decided
about the bytes is that they were fetched (`staged_exactly_if_fetched`).
-/

namespace DeskView.FrameBuffer

variable {b b' : FrameBuffer}

/-- The uses of a buffer with their replies. -/
def trace (b : FrameBuffer) : List Use → List (Use × Reply)
  | [] => []
  | u :: rest => (u, (b.step u).1) :: (b.step u).2.trace rest

theorem trace_concat (b : FrameBuffer) (uses : List Use) (u : Use) :
    b.trace (uses ++ [u]) = b.trace uses ++ [(u, ((b.run uses).step u).1)] := by
  induction uses generalizing b with
  | nil => rfl
  | cons first rest ih => exact congrArg ((first, (b.step first).1) :: ·) (ih _)

/-- The frame that room was made for, if it was. -/
def accepted? : Use × Reply → Option Geometry
  | (.room size width height, .room (.ok _)) => some ⟨size.toNat, width, height⟩
  | _ => none

/-- Whether the bytes are a fetched frame after a use that decides about it. -/
def fetched? : Use × Reply → Option Bool
  | (_, .fill outcome) => some outcome.isOk
  | (_, .room (.ok replaced)) => if replaced.bytes then some false else none
  | _ => none

/-! ### The buffer and its trace -/

/-- A buffer is what its trace says: its shape is that of the last frame that room was made for, and it
counts as filled if the last decision about its bytes was that they are a fetched frame. -/
structure Follows (b : FrameBuffer) (trace : List (Use × Reply)) : Prop where
  shape : (trace.filterMap accepted?).getLast? =
    b.staged.map fun _ => ⟨b.bytes.size, b.width, b.height⟩
  filled : (trace.filterMap fetched?).getLast? = some true ↔ b.filled = true

/-- A use that makes no room and decides nothing leaves the trace's word about a buffer as it was. -/
theorem Follows.concat_of_none {trace : List (Use × Reply)} (h : b.Follows trace) {x : Use × Reply}
    (haccepted : accepted? x = none) (hfetched : fetched? x = none) : b.Follows (trace ++ [x]) := by
  constructor
  · rw [List.filterMap_append, List.filterMap_cons_none haccepted, List.filterMap_nil,
      List.append_nil]
    exact h.shape
  · rw [List.filterMap_append, List.filterMap_cons_none hfetched, List.filterMap_nil,
      List.append_nil]
    exact h.filled

theorem Follows.room {trace : List (Use × Reply)} (h : b.Follows trace) (hb : b.Sound)
    (size : UInt64) (width height : UInt32) :
    (b.makeRoom size width height).2.Follows
      (trace ++ [(.room size width height, .room (b.makeRoom size width height).1)]) := by
  rcases makeRoom_cases b size width height with ⟨e, -, hmade⟩ |
    ⟨r, b', hfit, ⟨-, -, hmade⟩ | ⟨-, hmade⟩⟩ <;> rw [hmade]
  · exact h.concat_of_none rfl rfl
  · exact h.concat_of_none rfl rfl
  · obtain ⟨-, hwidth, hheight, hsize, image, hstaged, -⟩ := fit_spec hb hfit
    have hrefitted := refitted_of_fit hfit
    constructor
    · rw [List.filterMap_append, List.getLast?_append]
      dsimp only at hwidth hheight hsize
      simp [accepted?, hstaged, hwidth, hheight, hsize]
    · rw [List.filterMap_append]
      cases hr : r.bytes with
      | true => simp [fetched?, hr, (hrefitted.bytes_new hr).2.1]
      | false => simpa [fetched?, hr, (hrefitted.bytes_kept hr).2.1] using h.filled

theorem Follows.fill {trace : List (Use × Reply)} (h : b.Follows trace) (f : Engine.Fetch) :
    (b.fill f).2.Follows (trace ++ [(.fill f, .fill (b.fill f).1)]) := by
  constructor
  · rw [staged_fill, bytes_fill, Engine.Fetch.size_paint, width_fill, height_fill, ← h.shape]
    simp [accepted?]
  · rw [filled_fill]
    simp [fetched?]

theorem Follows.stage {trace : List (Use × Reply)} (h : b.Follows trace) :
    (b.step .stage).2.Follows (trace ++ [(.stage, (b.step .stage).1)]) := by
  unfold step
  dsimp only
  cases hstage : b.stage with
  | error e => exact h.concat_of_none rfl rfl
  | ok done =>
    obtain ⟨image, b'⟩ := done
    obtain ⟨old, hold⟩ := exists_staged_of_stage hstage
    have hkept := h.concat_of_none (x := (.stage, .stage (.ok image))) rfl rfl
    dsimp only
    rw [eq_of_stage hstage]
    exact ⟨hkept.shape.trans (by rw [hold]; rfl), hkept.filled⟩

/-- A buffer follows its trace. -/
theorem follows_run (format : PixelFormat) (uses : List Use) :
    (run { format } uses).Follows (trace { format } uses) := by
  induction uses using List.reverseRecOn with
  | nil => exact ⟨rfl, by simp [trace, run]⟩
  | append_singleton uses u ih =>
    have hsound := (inMemory_run format uses).sound
    rw [run_concat, trace_concat]
    cases u with
    | room size width height => exact ih.room hsound size width height
    | fill f => exact ih.fill f
    | stage => exact ih.stage

/-! ### Staging -/

/-- **A frame is staged exactly if one was fetched.**  Let a frame buffer be used in any way.

* A staged image has the format of the buffer, its width and height, which are those of the last frame
  that room was made for, and just the bytes that they need; the buffer has at least as many.
* Staging succeeds exactly if room was made at some time and, of all the fills and all the times when
  making room replaced the bytes, the last is a fill that succeeded.  The image has the first bytes of
  the buffer then.
* Otherwise there is one answer, that nothing was fetched, and nothing changes.
* Whatever is staged is replaced by as many bytes. -/
theorem staged_exactly_if_fetched (format : PixelFormat) (uses : List Use) :
    let b := run { format } uses
    let accepted := (trace { format } uses).filterMap accepted?
    let fetched := (trace { format } uses).filterMap fetched?
    let frame := Image.ofFrame b.width b.height format b.bytes
    (∀ image, b.staged = some image →
      image.format = format ∧ image.width = b.width ∧ image.height = b.height ∧
      (∃ g, accepted.getLast? = some g ∧ image.width = g.width ∧ image.height = g.height) ∧
      image.pixels.size = image.width.toNat * image.height.toNat * format.bytesPerPixel ∧
      image.pixels.size ≤ b.bytes.size ∧
      (b.bytes.extract 0 image.pixels.size).size = image.pixels.size) ∧
    (accepted ≠ [] ∧ fetched.getLast? = some true →
      b.step .stage = (.stage (.ok frame), { b with staged := some frame })) ∧
    (¬ (accepted ≠ [] ∧ fetched.getLast? = some true) →
      b.step .stage = (.stage (.error .notFetched), b)) := by
  intro b accepted fetched frame
  have hb : b.InMemory format := inMemory_run format uses
  have hfollows : b.Follows (trace { format } uses) := follows_run format uses
  have haccepted : accepted ≠ [] ↔ b.staged.isSome := by
    rw [← List.getLast?_isSome, hfollows.shape, Option.isSome_map]
  refine ⟨?_, ?_, ?_⟩
  · intro image himage
    have hwidth := hb.sound.width image himage
    have hheight := hb.sound.height image himage
    have hformat := (hb.sound.format image himage).trans hb.format
    have hsize := hb.sound.wellFormed image himage
    have hfits := hb.sound.fits image himage
    have hlast : accepted.getLast? = some ⟨b.bytes.size, b.width, b.height⟩ := by
      rw [hfollows.shape, himage]
      rfl
    refine ⟨hformat, hwidth, hheight, ⟨_, hlast, hwidth, hheight⟩, ?_, hfits, ?_⟩
    · rw [hsize, Image.byteLength, hformat]
    · rw [Array.size_extract]
      omega
  · rintro ⟨hroom, hfetched⟩
    have hframe : Image.ofFrame b.width b.height b.format b.bytes = frame := by rw [hb.format]
    have hstage := stage_of_filled hb.sound (hfollows.filled.mp hfetched) (haccepted.mp hroom)
    rw [hframe] at hstage
    unfold step
    dsimp only
    rw [hstage]
  · intro hnot
    have hstage : b.stage = .error .notFetched := by
      apply stage_of_not_filled
      rintro ⟨hfilled, hstaged⟩
      exact hnot ⟨haccepted.mpr hstaged, hfollows.filled.mpr hfilled⟩
    unfold step
    dsimp only
    rw [hstage]

/-- Nines are fetched before there is room, and for two by two pixels; then the frame is four by one, and
a frame that has too few bytes is refused. -/
def reshaped : List Use :=
  [.fill nines, .room 16 2 2, .fill nines, .room 16 4 1, .room 3 9 9]

/-- The nines are staged as four by one pixels; but those that were fetched before there was room are not,
since nothing was. -/
theorem staged_exactly_if_fetched_reshaped :
    let b := run { format := .rgba8 } reshaped
    let frame : Image := ⟨4, 1, .rgba8, Array.replicate 16 9⟩
    b.staged = some (.blank 4 1 .rgba8) ∧ (Image.blank 4 1 .rgba8).width = b.width ∧
    b.step .stage = (.stage (.ok frame), { b with staged := some frame }) ∧
    (run { format := .rgba8 } [.fill nines]).step .stage =
      (.stage (.error .notFetched), run { format := .rgba8 } [.fill nines]) := by
  obtain ⟨hstaged, hfetched, -⟩ := staged_exactly_if_fetched .rgba8 reshaped
  obtain ⟨-, -, hnot⟩ := staged_exactly_if_fetched .rgba8 [.fill nines]
  have hblank : (run { format := .rgba8 } reshaped).staged = some (.blank 4 1 .rgba8) := by decide
  have hframe : Image.ofFrame (run { format := .rgba8 } reshaped).width
      (run { format := .rgba8 } reshaped).height .rgba8 (run { format := .rgba8 } reshaped).bytes =
      ⟨4, 1, .rgba8, Array.replicate 16 9⟩ := by decide
  refine ⟨hblank, (hstaged _ hblank).2.1, ?_, hnot (by decide)⟩
  rw [← hframe]
  exact hfetched (by decide)

end DeskView.FrameBuffer
