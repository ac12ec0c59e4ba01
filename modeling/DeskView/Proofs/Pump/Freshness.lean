import DeskView.Proofs.Pump.Playback
import DeskView.Proofs.Surface.Present
import DeskView.Surface.Canvas

/-!
# Only the frame of the moment is drawn

Whatever a pump went through before, a draw shows the frame that was reported and fetched in that same
tick, whole and in the reported shape (`drawn_frame_is_fresh`): never bytes of an earlier frame, of a
fetch that failed, or of a buffer of another size.  A tick that fetches nothing touches no target.

`Playback.Fetched` says what a tick asked of the engine and was answered, `Image.IsFrame` that an
image is a reported frame made of given bytes.
-/

namespace DeskView

/-- Whether a call fetches a frame. -/
def Engine.Call.isFetch : Engine.Call → Bool
  | .fetch .. => true
  | _ => false

/-- The answers of an engine whose frame is one pixel of four equal bytes. -/
def Engine.Answers.onePixel (byte : UInt8) (outcome : Outcome EngineError Unit) : Engine.Answers :=
  ⟨.ok 4, .ok 1, .ok 1, { byte := fun _ _ => byte, outcome }⟩

/-- An image of the reported width and height, in a format, whose pixels are the first of some bytes,
as many as its shape needs, all of which are there. -/
structure Image.IsFrame (image : Image) (r : Reported) (format : PixelFormat) (bytes : Array UInt8) :
    Prop where
  width_eq : (image.width.toNat : Int) = r.width.toInt
  height_eq : (image.height.toNat : Int) = r.height.toInt
  format_eq : image.format = format
  pixels_eq : image.pixels =
    bytes.extract 0 (image.width.toNat * image.height.toNat * format.bytesPerPixel)
  complete : image.width.toNat * image.height.toNat * format.bytesPerPixel ≤ bytes.size

/-- A reported frame has all its bytes. -/
theorem Image.IsFrame.wellFormed {image : Image} {r : Reported} {format : PixelFormat}
    {bytes : Array UInt8} (h : image.IsFrame r format bytes) : image.WellFormed := by
  unfold Image.WellFormed Image.byteLength
  rw [h.format_eq, h.pixels_eq, Array.size_extract, Nat.min_eq_left h.complete, Nat.sub_zero]

theorem Image.IsFrame.positive {image : Image} {r : Reported} {format : PixelFormat}
    {bytes : Array UInt8} (h : image.IsFrame r format bytes)
    (hr : 0 < r.size ∧ 0 < r.width ∧ 0 < r.height) :
    0 < image.width.toNat ∧ 0 < image.height.toNat := by
  obtain ⟨-, hwidth, hheight⟩ := hr
  rw [Int32.lt_iff_toInt_lt, ← h.width_eq] at hwidth
  rw [Int32.lt_iff_toInt_lt, ← h.height_eq] at hheight
  have hzero : (0 : Int32).toInt = 0 := rfl
  omega

namespace Playback

variable {T : Type} [Drawable T]

/-- The tick was answered that there is a frame, and fetched it with success into `buffer`, which had
just the reported size. -/
structure Fetched (p : Playback T) (a : Engine.Answers) (r : Reported) (buffer : Array UInt8) :
    Prop where
  size : a.size = .ok r.size
  width : a.width = .ok r.width
  height : a.height = .ok r.height
  positive : 0 < r.size ∧ 0 < r.width ∧ 0 < r.height
  /-- The buffer that the fetch is handed, and its length. -/
  calls : Effect.engineCalls (p.tick a).effects =
    [.size p.pump.session, .width p.pump.session, .height p.pump.session,
      .fetch p.pump.session p.pump.display buffer.size]
  handed : (p.pump.prepare a).pump.frames.bytes = buffer
  length : (buffer.size : Int) = r.size.toInt
  outcome : a.fetch.outcome = .ok ()
  /-- What the fetch left stands in the pump's buffer. -/
  left : (p.tick a).pump.frames.bytes = a.fetch.paint buffer

/-- If a tick fetches a frame with success, then its target calls are those of one image, the frame
that was fetched, being presented. -/
theorem exists_fetched {p : Playback T} (hb : p.pump.frames.Sound) {a : Engine.Answers}
    (hv : (p.pump.prepare a).verdict = .ok .ready) (hf : a.fetch.outcome = .ok ()) :
    ∃ r buffer image, p.Fetched a r buffer ∧
      image.IsFrame r p.pump.frames.format (p.tick a).pump.frames.bytes ∧
      (p.tick a).surface = (p.surface.present image).surface ∧
      Effect.targetCalls (p.tick a).effects = (p.surface.present image).calls ∧
      ((p.tick a).outcome = .ok .presented ↔ (p.surface.present image).outcome = .ok .drawn) ∧
      (p.tick a).pump.frameCount =
        p.pump.frameCount + if (p.tick a).outcome = .ok .presented then 1 else 0 := by
  obtain ⟨r, g, buffer, frames, hquery, hgeometry, hsize, hroom, hhanded, hbytes, hformat, htick⟩ :=
    Pump.tick_of_fetched p.surface hb hv hf
  obtain ⟨hpositive, hgsize, hgwidth, hgheight⟩ := Reported.geometry?_eq_some_iff.mp hgeometry
  obtain ⟨hasize, hawidth, haheight⟩ := Engine.Answers.query_eq_ok_iff.mp hquery
  have hleft : (p.tick a).pump.frames.bytes = a.fetch.paint buffer := by
    unfold tick
    rw [htick]
    exact (congrArg FrameBuffer.bytes (Pump.frames_conclude _ _)).trans hbytes
  have hcalls : Effect.engineCalls (p.tick a).effects =
      [.size p.pump.session, .width p.pump.session, .height p.pump.session,
        .fetch p.pump.session p.pump.display buffer.size] := by
    obtain ⟨-, -, -, ready, -, -, -, hready, hcalls⟩ := Pump.prepare_of_ready hv
    unfold tick
    rw [Pump.engineCalls_tick, hcalls, ← hhanded, hready]
  refine ⟨r, buffer, .ofFrame g.width g.height p.pump.frames.format (a.fetch.paint buffer),
    ⟨hasize, hawidth, haheight, hpositive, hcalls, hhanded, by rw [hsize, hgsize], hf, hleft⟩,
    ⟨hgwidth, hgheight, rfl, by rw [hleft]; rfl, ?_⟩, ?_, ?_, ?_, ?_⟩
  · rw [hleft, Engine.Fetch.size_paint, hsize]
    exact hroom
  · unfold tick
    rw [htick]
    exact Pump.surface_conclude _ _
  · unfold tick
    rw [htick]
    simp [Pump.targetCalls_prepare]
  · unfold tick
    rw [htick]
    exact Pump.outcome_conclude_eq_presented_iff _ _
  · unfold tick
    rw [htick]
    exact Pump.frameCount_conclude _ _

/-- A tick that fetches a frame makes a call for it. -/
theorem exists_isFetch_of_ready {p : Playback T} {a : Engine.Answers}
    (hv : (p.pump.prepare a).verdict = .ok .ready) :
    ∃ call ∈ Effect.engineCalls (p.tick a).effects, call.isFetch = true := by
  obtain ⟨-, -, -, frames, -, -, -, -, hcalls⟩ := Pump.prepare_of_ready hv
  refine ⟨.fetch p.pump.session p.pump.display frames.bytes.size, ?_, rfl⟩
  unfold tick
  rw [Pump.engineCalls_tick, hcalls]
  simp

/-- **Only the frame of the moment is drawn.**  After every history of a pump, on every surface and
for all answers of the engine: each draw of a tick is of the frame that was reported and fetched in
that tick; and a tick that makes no fetch, or whose fetch does not succeed, calls no target. -/
theorem drawn_frame_is_fresh (session : String) (config : PumpSettings) (surface : Surface T)
    (history : List (Moment T)) (a : Engine.Answers) :
    let before : Playback T := run ⟨.new session config, surface⟩ history
    (∀ id image src dst, (id, .draw image src dst) ∈ Effect.targetCalls (before.tick a).effects →
      ∃ r buffer, before.Fetched a r buffer ∧
        image.IsFrame r config.format (before.tick a).pump.frames.bytes) ∧
    ((∀ call ∈ Effect.engineCalls (before.tick a).effects, call.isFetch = false) ∨
        a.fetch.outcome ≠ .ok () →
      Effect.targetCalls (before.tick a).effects = []) := by
  intro before
  obtain ⟨hsound, hformat⟩ : before.pump.frames.Sound ∧ before.pump.frames.format = config.format :=
    sound_frames_run (FrameBuffer.sound_new config.format) history
  constructor
  · intro id image src dst hmem
    by_cases hfetch : (before.pump.prepare a).verdict = .ok .ready ∧ a.fetch.outcome = .ok ()
    · obtain ⟨r, buffer, frame, hfetched, hframe, -, hcalls, -, -⟩ :=
        exists_fetched hsound hfetch.1 hfetch.2
      rw [hcalls] at hmem
      obtain ⟨rfl, -⟩ := (Surface.mem_calls_present hmem).2 image src dst rfl
      exact ⟨r, buffer, hfetched, hformat ▸ hframe⟩
    · -- without a fetched frame there is no call at all, hence no draw
      have hsilent := Pump.tick_of_not_fetched before.surface (Classical.not_and_iff_not_or_not.mp hfetch)
      unfold tick at hmem
      rw [hsilent.2.1] at hmem
      simp at hmem
  · rintro (hnone | hfailed)
    · have hv : (before.pump.prepare a).verdict ≠ .ok .ready := by
        intro hv
        obtain ⟨call, hmem, hcall⟩ := exists_isFetch_of_ready (p := before) hv
        rw [hnone call hmem] at hcall
        cases hcall
      exact (Pump.tick_of_not_fetched before.surface (.inl hv)).2.1
    · exact (Pump.tick_of_not_fetched before.surface (.inr hfailed)).2.1

/-- A pump whose last fetch failed when it had painted a pixel of nines, and the surface it has. -/
def spoilt : Playback MemoryTarget :=
  run ⟨.new "7" {}, { scale := .stretch }⟩
    [.surface (.created (.new 1 1)), .tick (.onePixel 9 (.error (.failed "busy")))]

/-- The nines stand in the buffer when the next tick fetches a pixel of sevens: the sevens are
drawn. -/
theorem drawn_frame_is_fresh_after_failure :
    spoilt.pump.frames.bytes = #[9, 9, 9, 9] ∧
    (0, .draw ⟨1, 1, .rgba8, #[7, 7, 7, 7]⟩ (.sized 1 1) (.sized 1 1)) ∈
      Effect.targetCalls (spoilt.tick (.onePixel 7 (.ok ()))).effects ∧
    ∃ r buffer, spoilt.Fetched (.onePixel 7 (.ok ())) r buffer ∧
      Image.IsFrame ⟨1, 1, .rgba8, #[7, 7, 7, 7]⟩ r .rgba8
        (spoilt.tick (.onePixel 7 (.ok ()))).pump.frames.bytes := by
  have hdrawn : (0, .draw ⟨1, 1, .rgba8, #[7, 7, 7, 7]⟩ (.sized 1 1) (.sized 1 1)) ∈
      Effect.targetCalls (spoilt.tick (.onePixel 7 (.ok ()))).effects := by decide
  have hfresh := drawn_frame_is_fresh (T := MemoryTarget) "7" {} { scale := .stretch }
    [.surface (.created (.new 1 1)), .tick (.onePixel 9 (.error (.failed "busy")))]
    (.onePixel 7 (.ok ()))
  exact ⟨by decide, hdrawn,
    hfresh.1 0 ⟨1, 1, .rgba8, #[7, 7, 7, 7]⟩ (.sized 1 1) (.sized 1 1) hdrawn⟩

end Playback

end DeskView
