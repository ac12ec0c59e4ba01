import DeskView.Proofs.Pump.Freshness
import DeskView.Proofs.Surface.Memory

/-!
# From the engine to the screen

What in-memory targets show after every history of a pump: a canvas changes only in a tick whose frame
is presented, only if its target is the bound one, and then it shows the fetched frame over what it
showed before, pixel by pixel (`fetched_frame_is_shown`).

The history is kept track of by `Playback.OnScreen`: the targets are at rest, the surface follows the
events of the window system, and every committed transaction was counted once.  `tick_onScreen` says
what a single tick does in such a state.
-/

namespace DeskView

namespace Canvas

/-- The canvas `new` shows `w` by `h` pixels of a frame on the part `dst` of what `old` showed. -/
structure ShowsOver (new old : Canvas) (bytes : Array UInt8) (w h : Nat) (dst : Rect) : Prop where
  width : new.width = old.width
  height : new.height = old.height
  posted : new.posted = old.posted + 1
  /-- Every pixel of the destination has the four bytes of its nearest pixel in the frame. -/
  inside : ∀ x y, x < old.width → y < old.height → dst.contains x.toNat y.toNat = true →
    nearest w h dst x.toNat y.toNat + bytesPerPixel ≤ bytes.size ∧
    new.pixel? x y = some (bytes.extract (nearest w h dst x.toNat y.toNat)
      (nearest w h dst x.toNat y.toNat + bytesPerPixel))
  /-- Every other pixel is as it was. -/
  outside : ∀ x y, x < old.width → y < old.height → dst.contains x.toNat y.toNat = false →
    new.pixel? x y = old.pixel? x y

/-- Posting a frame shows it over the old canvas. -/
theorem showsOver_posting {old : Canvas} (hold : old.WellFormed) {image : Image} {r : Reported}
    {format : PixelFormat} {bytes : Array UInt8} (himage : image.IsFrame r format bytes)
    (hformat : format.bytesPerPixel = bytesPerPixel) (hw : 0 < image.width.toNat)
    (hh : 0 < image.height.toNat) (dst : Rect) :
    (old.posting image dst).ShowsOver old bytes image.width.toNat image.height.toNat dst := by
  have hwf := himage.wellFormed
  obtain ⟨-, -, himageFormat, hpixels, hcomplete⟩ := himage
  rw [hformat] at hpixels hcomplete
  have himagebpp : image.format.bytesPerPixel = bytesPerPixel := by rw [himageFormat, hformat]
  have hpixel : ∀ x y, x < old.width → y < old.height → (old.posting image dst).pixel? x y =
      if dst.contains x.toNat y.toNat then
        some (image.pixels.extract (nearest image.width.toNat image.height.toNat dst x.toNat y.toNat)
          (nearest image.width.toNat image.height.toNat dst x.toNat y.toNat + bytesPerPixel))
      else old.pixel? x y := by
    intro x y hx hy
    have hoverlay := pixel?_overlay hold image (.sized image.width image.height) dst hx hy
    rw [sample_whole himagebpp hwf hw hh] at hoverlay
    refine Eq.trans hoverlay ?_
    cases dst.contains x.toNat y.toNat <;> rfl
  refine ⟨rfl, rfl, rfl, ?_, ?_⟩
  · intro x y hx hy hdst
    have hle := nearest_add_le hw hh hdst
    refine ⟨Nat.le_trans hle hcomplete, ?_⟩
    rw [hpixel x y hx hy, if_pos hdst, hpixels, Array.extract_extract]
    simp only [Nat.zero_add, Nat.min_eq_left hle]
  · intro x y hx hy hdst
    rw [hpixel x y hx hy, if_neg (by simp [hdst])]

end Canvas

namespace Playback

/-- Where a new pump and a new surface are after a history of in-memory targets. -/
structure OnScreen (session : String) (config : PumpSettings) (mode : ScaleMode)
    (history : List (Moment MemoryTarget)) (p : Playback MemoryTarget) : Prop where
  frames : p.pump.frames.Sound
  format : p.pump.frames.format = config.format
  rest : p.surface.AtRest
  follows : p.surface.Follows (Moment.events history)
  scale : p.surface.scale = mode
  /-- Every transaction that was committed was counted by the pump. -/
  posted : p.surface.posted = p.pump.frameCount
  /-- The pump counts the ticks whose frames were presented. -/
  counted : p.pump.frameCount =
    (ticks ⟨.new session config, { scale := mode }⟩ history).countP (·.outcome = .ok .presented)

/-- Being at rest between two frames, the canvases of a tick: either the tick presents nothing and
leaves the surface alone, or the frame it fetched is shown on the bound target. -/
theorem tick_cases {p : Playback MemoryTarget} {events : List (SurfaceEvent MemoryTarget)}
    (hframes : p.pump.frames.Sound) (hformat : p.pump.frames.format.bytesPerPixel = 4)
    (hrest : p.surface.AtRest) (hfollows : p.surface.Follows events) (a : Engine.Answers) :
    ((p.tick a).outcome ≠ .ok .presented ∧ (p.tick a).surface = p.surface ∧
      (p.tick a).pump.frameCount = p.pump.frameCount) ∨
    ((p.tick a).outcome = .ok .presented ∧
      (p.tick a).pump.frameCount = p.pump.frameCount + 1 ∧
      ∃ id r buffer image old, SurfaceEvent.bound? events = some id ∧
        p.surface.canvas? id = some old ∧ old.WellFormed ∧ p.Fetched a r buffer ∧
        image.IsFrame r p.pump.frames.format (p.tick a).pump.frames.bytes ∧
        (p.tick a).surface = p.surface.showing id
          (old.posting image (p.surface.place image (old.width, old.height)))) := by
  -- nothing reaches the surface but a fetched frame, and nothing is shown but on a bound target
  by_cases hfetch : (p.pump.prepare a).verdict = .ok .ready ∧ a.fetch.outcome = .ok ()
  · obtain ⟨r, buffer, image, hfetched, hframe, hsurface, -, houtcome, hcount⟩ :=
      exists_fetched hframes hfetch.1 hfetch.2
    have hbpp : image.format.bytesPerPixel = Canvas.bytesPerPixel := by
      rw [hframe.format_eq, hformat]
      rfl
    rcases Surface.present_of_atRest hrest hfollows hbpp hframe.wellFormed with ⟨-, hp⟩ |
      ⟨id, old, hbound, hold, hwf, hdrawn, hshown⟩
    · have hnot : (p.tick a).outcome ≠ .ok .presented := by
        rw [Ne, houtcome, hp]
        simp
      refine .inl ⟨hnot, by rw [hsurface, hp], ?_⟩
      rw [hcount, if_neg hnot, Nat.add_zero]
    · have hpresented := houtcome.mpr hdrawn
      refine .inr ⟨hpresented, by rw [hcount, if_pos hpresented], id, r, buffer, image, old,
        hbound, hold, hwf, hfetched, hframe, by rw [hsurface, hshown]⟩
  · obtain ⟨hsurface, -, houtcome, hcount⟩ :=
      Pump.tick_of_not_fetched p.surface (Classical.not_and_iff_not_or_not.mp hfetch)
    exact .inl ⟨houtcome, hsurface, hcount⟩

theorem onScreen_new (session : String) (config : PumpSettings) (mode : ScaleMode) :
    OnScreen session config mode [] ⟨.new session config, { scale := mode }⟩ :=
  ⟨FrameBuffer.sound_new config.format, rfl, fun _ _ h => by simp at h, Surface.follows_nil mode,
    rfl, rfl, rfl⟩

section

variable {session : String} {config : PumpSettings} {mode : ScaleMode}
  {history : List (Moment MemoryTarget)}

/-- An event of the window system that brings no used target commits nothing. -/
theorem OnScreen.surface {p : Playback MemoryTarget} (h : OnScreen session config mode history p)
    (hrun : p = run ⟨.new session config, { scale := mode }⟩ history)
    {event : SurfaceEvent MemoryTarget}
    (hnew : ∀ target, event = .created target → target.IsNew) :
    OnScreen session config mode (history ++ [.surface event]) (p.step (.surface event)) := by
  obtain ⟨hrest, hposted⟩ := h.rest.apply hnew
  refine ⟨h.frames, h.format, hrest, ?_, ?_, hposted.trans h.posted, ?_⟩
  · rw [Moment.events_append]
    exact h.follows.apply event
  · rw [← h.scale]
    cases event <;> rfl
  · rw [ticks_concat, ← hrun, List.countP_append]
    exact h.counted

/-- A tick commits one transaction and counts it, or neither. -/
theorem OnScreen.tick {p : Playback MemoryTarget} (h : OnScreen session config mode history p)
    (hrun : p = run ⟨.new session config, { scale := mode }⟩ history)
    (hformat : config.format.bytesPerPixel = 4) (a : Engine.Answers) :
    OnScreen session config mode (history ++ [.tick a]) (p.step (.tick a)) := by
  obtain ⟨hframes, hkept⟩ := Pump.sound_frames_tick p.surface a h.frames
  have hevents : Moment.events (history ++ [.tick a]) = Moment.events history := by
    rw [Moment.events_append]
    exact List.append_nil _
  have hticks : (ticks ⟨.new session config, { scale := mode }⟩ (history ++ [.tick a])).countP
      (·.outcome = .ok .presented) =
      p.pump.frameCount + if (p.tick a).outcome = .ok .presented then 1 else 0 := by
    rw [ticks_concat, ← hrun, List.countP_append, ← h.counted]
    simp [ticks, List.countP_cons]
  rcases tick_cases h.frames (by rw [h.format, hformat]) h.rest h.follows a with
    ⟨hnot, hsurface, hcount⟩ | ⟨hpresented, hcount, id, r, buffer, image, old, hbound, hold, hwf,
      hfetched, hframe, hsurface⟩
  · rw [if_neg hnot, Nat.add_zero, ← hcount] at hticks
    refine ⟨hframes, hkept.trans h.format, ?_, ?_, ?_, ?_, hticks.symm⟩ <;>
      simp only [step, hsurface]
    · exact h.rest
    · rw [hevents]
      exact h.follows
    · exact h.scale
    · rw [hcount, h.posted]
  · rw [if_pos hpresented, ← hcount] at hticks
    refine ⟨hframes, hkept.trans h.format, ?_, ?_, ?_, ?_, hticks.symm⟩ <;>
      simp only [step, hsurface]
    · exact h.rest.showing hold (hwf.overlay image _ _) rfl rfl
    · rw [hevents]
      exact h.follows.showing id _
    · exact h.scale
    · rw [hcount, Surface.posted_showing hold rfl, h.posted]

/-- What is on the screen after a history that only ever created blank targets. -/
theorem onScreen_run (session : String) (config : PumpSettings) (mode : ScaleMode)
    (hformat : config.format.bytesPerPixel = 4) (history : List (Moment MemoryTarget))
    (hnew : ∀ target, .created target ∈ Moment.events history → target.IsNew) :
    OnScreen session config mode history
      (run ⟨.new session config, { scale := mode }⟩ history) := by
  revert hnew
  refine run_induction (P := fun history p =>
    (∀ target, .created target ∈ Moment.events history → target.IsNew) →
      OnScreen session config mode history p) (fun _ => onScreen_new session config mode) ?_ history
  intro earlier moment ih hnew
  have h := ih fun target hmem => hnew target (by
    rw [Moment.events_append]
    exact List.mem_append_left _ hmem)
  cases moment with
  | tick a => exact h.tick rfl hformat a
  | surface event =>
    refine h.surface rfl ?_
    rintro target rfl
    refine hnew target ?_
    rw [Moment.events_append]
    exact List.mem_append_right _ (List.mem_singleton_self _)

end

/-- **From the engine to the screen.**  Let a pump with a 32-bit format have drawn on blank in-memory
targets for any history.  Then a tick changes a canvas only if it presents its frame, and only that of
the bound target; the canvas then shows the frame that was fetched in this tick over what it showed
before.  So far there were as many transactions, on all targets together, as frames counted and as
ticks whose frames were presented. -/
theorem fetched_frame_is_shown (session : String) (config : PumpSettings) (mode : ScaleMode)
    (hformat : config.format.bytesPerPixel = Canvas.bytesPerPixel)
    (history : List (Moment MemoryTarget))
    (hnew : ∀ target, .created target ∈ Moment.events history → target.IsNew)
    (a : Engine.Answers) :
    let start : Playback MemoryTarget := ⟨.new session config, { scale := mode }⟩
    let before := start.run history
    let after := before.tick a
    let bound := SurfaceEvent.bound? (Moment.events history)
    let extent := SurfaceEvent.extent (Moment.events history)
    (∀ id, after.surface.canvas? id ≠ before.surface.canvas? id →
      after.outcome = .ok .presented ∧ bound = some id) ∧
    (after.outcome = .ok .presented →
      ∃ id r buffer old new, ∃ w h : UInt32, bound = some id ∧ before.Fetched a r buffer ∧
        (w.toNat : Int) = r.width.toInt ∧ (h.toNat : Int) = r.height.toInt ∧
        before.surface.canvas? id = some old ∧ after.surface.canvas? id = some new ∧
        new.ShowsOver old after.pump.frames.bytes w.toNat h.toNat
          (mode.destination w h (extent (old.width, old.height)).1
            (extent (old.width, old.height)).2)) ∧
    before.surface.posted = before.pump.frameCount ∧
    before.pump.frameCount = (start.ticks history).countP (·.outcome = .ok .presented) := by
  intro start before after bound extent
  have h : OnScreen session config mode history before :=
    onScreen_run session config mode hformat history hnew
  have hbpp : before.pump.frames.format.bytesPerPixel = 4 := by
    rw [h.format]
    exact hformat
  refine ⟨?_, ?_, h.posted, h.counted⟩
  · intro id hchanged
    rcases tick_cases h.frames hbpp h.rest h.follows a with ⟨-, hsurface, -⟩ |
      ⟨hpresented, -, bound, r, buffer, image, old, hbound, -, -, -, -, hsurface⟩
    · exact absurd (congrArg (Surface.canvas? · id) hsurface) hchanged
    · -- the canvas that changed is the one that was drawn on
      refine ⟨hpresented, ?_⟩
      by_cases hid : id = bound
      · rw [hid]
        exact hbound
      · refine absurd ?_ hchanged
        rw [show after.surface = _ from hsurface]
        exact Surface.canvas?_showing_of_ne _ hid
  · intro hpresented
    rcases tick_cases h.frames hbpp h.rest h.follows a with ⟨hnot, -, -⟩ |
      ⟨-, -, id, r, buffer, image, old, hbound, hold, hwf, hfetched, hframe, hsurface⟩
    · exact absurd hpresented hnot
    · have hplace := h.follows.place image (old.width, old.height)
      rw [h.scale] at hplace
      rw [hplace] at hsurface
      obtain ⟨hw, hh⟩ := hframe.positive hfetched.positive
      let dst := mode.destination image.width image.height (extent (old.width, old.height)).1
        (extent (old.width, old.height)).2
      have hnew : after.surface.canvas? id = some (old.posting image dst) := by
        rw [show after.surface = before.surface.showing id (old.posting image dst) from hsurface]
        exact Surface.canvas?_showing_self _ hold
      exact ⟨id, r, buffer, old, old.posting image dst, image.width, image.height, hbound, hfetched,
        hframe.width_eq, hframe.height_eq, hold, hnew,
        Canvas.showsOver_posting hwf hframe hbpp hw hh dst⟩

/-- A pump that has a blank canvas of three pixels in a row, before its first tick. -/
def waiting : Playback MemoryTarget :=
  run ⟨.new "7" {}, { scale := .letterbox }⟩ [.surface (.created (.new 3 1))]

/-- One pixel of sevens, letterboxed, is shown in the middle. -/
theorem fetched_frame_is_shown_centred :
    PixelFormat.rgba8.bytesPerPixel = 4 ∧
    (waiting.tick (.onePixel 7 (.ok ()))).surface.canvas? 0 =
      some ⟨3, 1, #[0, 0, 0, 0, 7, 7, 7, 7, 0, 0, 0, 0], 1⟩ ∧
    ∃ old new, ∃ w h : UInt32, waiting.surface.canvas? 0 = some old ∧
      (waiting.tick (.onePixel 7 (.ok ()))).surface.canvas? 0 = some new ∧
      new.ShowsOver old (waiting.tick (.onePixel 7 (.ok ()))).pump.frames.bytes w.toNat h.toNat
        (ScaleMode.letterbox.destination w h old.width old.height) := by
  have hcreated : ∀ target, .created target ∈ Moment.events [.surface (.created (.new 3 1))] →
      MemoryTarget.IsNew target := by
    intro target hmem
    rw [Moment.mem_events, List.mem_singleton] at hmem
    cases hmem
    exact ⟨3, 1, rfl⟩
  have hshown := fetched_frame_is_shown "7" {} .letterbox rfl
    [.surface (.created (.new 3 1))] hcreated (.onePixel 7 (.ok ()))
  obtain ⟨id, r, buffer, old, new, w, h, hbound, -, -, -, hold, hnew, hover⟩ :=
    hshown.2.1 (by decide)
  cases hbound
  exact ⟨rfl, by decide, old, new, w, h, hold, hnew, hover⟩

end Playback

end DeskView
