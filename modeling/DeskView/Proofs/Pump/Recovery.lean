import DeskView.Proofs.Pump.Stages

/-!
# Failed ticks leave no residue

A pump that went through errors, refused frames, half-painted buffers and panics is compared with one that
was just built.  As soon as both are offered a frame of the same shape, and a fetch that leaves the whole
buffer overwritten, there is no telling them apart: they ask the same, draw the same, come to the same, and
are left with the same frame buffer, except for the number of its generation
(`failed_ticks_leave_no_residue`).

The reason is that such a tick determines the buffer field by field (`Pump.frames_tick_of_offers`), so that
whatever was in it before has no part in the result.  The surfaces of the two pumps are two as well, and
need only answer alike (`Surface.AnswersAlike`).
-/

namespace DeskView

/-- Of given bytes there is only one image with the reported shape. -/
theorem Image.IsFrame.unique {image image' : Image} {r : Reported} {format : PixelFormat}
    {bytes : Array UInt8} (h : image.IsFrame r format bytes) (h' : image'.IsFrame r format bytes) :
    image = image' := by
  have hwidth : image.width = image'.width :=
    UInt32.toNat_inj.mp (Int.ofNat.inj (h.width_eq.trans h'.width_eq.symm))
  have hheight : image.height = image'.height :=
    UInt32.toNat_inj.mp (Int.ofNat.inj (h.height_eq.trans h'.height_eq.symm))
  have hformat : image.format = image'.format := h.format_eq.trans h'.format_eq.symm
  have hpixels : image.pixels = image'.pixels := by
    rw [h.pixels_eq, h'.pixels_eq, hwidth, hheight]
  cases image
  cases image'
  cases hwidth
  cases hheight
  cases hformat
  cases hpixels
  rfl

/-! ### Surfaces that answer alike -/

namespace Drawable

variable {T T' : Type} [Drawable T] [Drawable T']

/-- Two targets that answer a transaction of one image alike: `begin` with the same canvas, and each of the
other two calls with the same, if it is made. -/
structure AnswersAlike (target : T) (target' : T') (image : Image) : Prop where
  canvas : (begin target).1 = (begin target').1
  drawn : ∀ canvas src dst, (begin target).1 = .ok canvas →
    (draw (begin target).2 image src dst).1 = (draw (begin target').2 image src dst).1
  committed : ∀ canvas src dst, (begin target).1 = .ok canvas →
    (draw (begin target).2 image src dst).1 = .ok () →
    (commit (draw (begin target).2 image src dst).2).1 =
      (commit (draw (begin target').2 image src dst).2).1

/-- Targets that answer alike are called alike. -/
theorem AnswersAlike.transact {target : T} {target' : T'} {image : Image}
    (h : AnswersAlike target target' image) (place : UInt32 × UInt32 → Rect) :
    (transact target image place).outcome = (transact target' image place).outcome ∧
      (transact target image place).calls = (transact target' image place).calls := by
  obtain ⟨hcanvas, hdrawn, hcommitted⟩ := h
  unfold Drawable.transact
  rcases hb : begin target with ⟨canvas | e | _, begun⟩ <;>
    rcases hb' : begin target' with ⟨canvas' | e' | _, begun'⟩ <;> rw [hb, hb'] at hcanvas <;>
    cases hcanvas
  · -- the transaction goes on to the draw, on the same part of the same canvas
    have hdraw := hdrawn canvas (.sized image.width image.height) (place canvas) (by rw [hb])
    have hcommit := hcommitted canvas (.sized image.width image.height) (place canvas) (by rw [hb])
    rw [hb, hb'] at hdraw hcommit
    dsimp only at hdraw hcommit ⊢
    rcases hd : draw begun image (.sized image.width image.height) (place canvas) with
      ⟨u | e | _, drawn⟩ <;>
      rcases hd' : draw begun' image (.sized image.width image.height) (place canvas) with
        ⟨u' | e' | _, drawn'⟩ <;> rw [hd, hd'] at hdraw <;> cases hdraw
    · rw [hd, hd'] at hcommit
      exact ⟨hcommit rfl, rfl⟩
    · exact ⟨rfl, rfl⟩
    · exact ⟨rfl, rfl⟩
  · exact ⟨rfl, rfl⟩
  · exact ⟨rfl, rfl⟩

end Drawable

namespace Surface

variable {T T' : Type}

/-- The target that a frame goes to. -/
def target? (s : Surface T) : Option T := if s.valid then s.bound?.map Prod.snd else none

/-- What becomes of a frame, in terms of the target that it goes to. -/
theorem present_of_target? [Drawable T] (s : Surface T) (image : Image) :
    (s.target? = none ∧ (s.present image).outcome = .ok .dropped ∧ (s.present image).calls = []) ∨
    ∃ id target, s.target? = some target ∧
      (s.present image).outcome.discard =
        (Drawable.transact target image (s.place image)).outcome ∧
      (s.present image).outcome ≠ .ok .dropped ∧
      (s.present image).calls = (Drawable.transact target image (s.place image)).calls.map (id, ·) := by
  rcases s.present_cases image with ⟨hnone, hp⟩ | ⟨id, target, hvalid, hbound, -⟩
  · refine .inl ⟨?_, by rw [hp], by rw [hp]⟩
    unfold target?
    rcases hnone with hinvalid | hfree
    · rw [hinvalid]
      rfl
    · rw [hfree]
      exact ite_self _
  · obtain ⟨hcalls, -, houtcome, hdrawn⟩ := present_of_bound hvalid hbound image
    refine .inr ⟨id, target, ?_, houtcome, hdrawn, hcalls⟩
    unfold target?
    rw [if_pos hvalid, hbound]
    rfl

/-- Two surfaces that answer a frame alike: they scale alike, have the same size, and have both no target
for it, or targets that answer alike.  The targets may be of different numbers. -/
structure AnswersAlike [Drawable T] [Drawable T'] (s : Surface T) (s' : Surface T') (image : Image) :
    Prop where
  scale : s.scale = s'.scale
  width : s.width = s'.width
  height : s.height = s'.height
  target : Option.Rel (Drawable.AnswersAlike · · image) s.target? s'.target?

/-- Two frames come to the same if neither is dropped and both end alike. -/
theorem outcome_eq_of_discard_eq {x y : Outcome FrameError Presentation} (hx : x ≠ .ok .dropped)
    (hy : y ≠ .ok .dropped) (h : x.discard = y.discard) : x = y := by
  rcases x with (_ | _) | e | _ <;> rcases y with (_ | _) | e' | _ <;> simp_all [Outcome.discard]

variable [Drawable T] [Drawable T']

/-- A frame comes to the same on surfaces that answer it alike, by the same calls. -/
theorem AnswersAlike.present {s : Surface T} {s' : Surface T'} {image : Image}
    (h : s.AnswersAlike s' image) :
    (s.present image).outcome = (s'.present image).outcome ∧
      (s.present image).calls.map Prod.snd = (s'.present image).calls.map Prod.snd := by
  have hplace : s.place image = s'.place image := by
    unfold place extent
    rw [h.scale, h.width, h.height]
  have htarget := h.target
  rcases s.present_of_target? image with ⟨hs, hout, hcalls⟩ |
    ⟨id, target, hs, hout, hdrawn, hcalls⟩ <;>
    rcases s'.present_of_target? image with ⟨hs', hout', hcalls'⟩ |
      ⟨id', target', hs', hout', hdrawn', hcalls'⟩ <;>
    rw [hs, hs'] at htarget <;> cases htarget
  · exact ⟨hout.trans hout'.symm, by rw [hcalls, hcalls']⟩
  · rename_i halike
    obtain ⟨hsame, hmade⟩ := halike.transact (s.place image)
    rw [hplace] at hout hcalls hsame hmade
    constructor
    · exact outcome_eq_of_discard_eq hdrawn hdrawn' (hout.trans (hsame.trans hout'.symm))
    · rw [hcalls, hcalls', hmade, List.map_map, List.map_map]
      rfl

end Surface

/-! ### What a tick leaves of the frame buffer -/

/-- A fetch that succeeds and overwrites the whole of a buffer of the reported size: what is in it
afterwards is `content`, whatever was in it before. -/
structure Engine.Fetch.Overwrites (f : Engine.Fetch) (r : Reported) (content : Array UInt8) : Prop where
  outcome : f.outcome = .ok ()
  painted : ∀ buffer : Array UInt8, (buffer.size : Int) = r.size.toInt → f.paint buffer = content

/-- The engine of one pixel overwrites it. -/
theorem Engine.Answers.overwrites_onePixel (byte : UInt8) :
    (onePixel byte (.ok ())).fetch.Overwrites ⟨4, 1, 1⟩ (.replicate 4 byte) := by
  refine ⟨rfl, fun buffer hbuffer => ?_⟩
  have hsize : buffer.size = 4 := Int.ofNat.inj hbuffer
  apply Array.ext
  · rw [Fetch.size_paint, hsize, Array.size_replicate]
  · intro i hi hi'
    simp [Fetch.paint, onePixel]

namespace Pump

variable {T T' : Type} [Drawable T] [Drawable T'] {p : Pump} {a : Engine.Answers} {r : Reported}

/-- **What is left by a tick that fetches its frame.**  Every field of the frame buffer is that of the
frame, except for the number of the generation. -/
theorem frames_tick_of_offers (hb : p.frames.Sound) (s : Surface T)
    (hr : a.Offers p.frames.format r) (hf : a.fetch.outcome = .ok ()) :
    ∃ (g : Geometry) (buffer : Array UInt8), r.geometry? = some g ∧ (buffer.size : Int) = r.size.toInt ∧
      (p.tick s a).pump.frames =
        { format := p.frames.format
          bytes := a.fetch.paint buffer
          width := g.width
          height := g.height
          generation := (p.tick s a).pump.frames.generation
          filled := true
          staged := some (.ofFrame g.width g.height p.frames.format (a.fetch.paint buffer)) } := by
  have hv := ready_of_offers hr
  obtain ⟨r', g, replaced, frames, hquery, hgeometry, hfit, hpump, -⟩ := prepare_of_ready hv
  obtain rfl := hr.reports.unique (Engine.Answers.reports_of_query hquery)
  obtain ⟨hformat, hwidth, hheight, hsize, -⟩ := FrameBuffer.fit_spec hb hfit
  obtain ⟨-, hreported, -⟩ := Reported.geometry?_eq_some_iff.mp hgeometry
  have hstage := FrameBuffer.stage_fill_of_fit hb hfit hf
  have hfilled : (frames.fill a.fetch).2.filled = true := by
    unfold FrameBuffer.fill
    rw [hf]
  refine ⟨g, frames.bytes, hgeometry, by rw [hsize, hreported], ?_⟩
  have hleft : (p.tick s a).pump.frames = { (frames.fill a.fetch).2 with
      staged := some (.ofFrame g.width g.height p.frames.format (a.fetch.paint frames.bytes)) } := by
    rw [tick_of_ready s hv, hpump]
    -- a fetch that succeeds leaves only the last of the ways through the second half
    rcases deliver_cases { p.begun with frames } s a.fetch with ⟨e, he, -⟩ | ⟨hp, -⟩ |
      ⟨-, ⟨e, he, -⟩ | ⟨image, staged, hdone, hd⟩⟩
    · rw [hf] at he
      cases he
    · rw [hf] at hp
      cases hp
    · exact absurd (hstage.symm.trans he) (by simp)
    · obtain ⟨-, rfl⟩ := Prod.mk.inj (Except.ok.inj (hstage.symm.trans hdone))
      rw [hd]
      exact frames_conclude _ _
  rw [hleft, FrameBuffer.mk.injEq]
  refine ⟨?_, ?_, ?_, ?_, rfl, hfilled, rfl⟩
  · rw [FrameBuffer.format_fill, hformat]
  · exact FrameBuffer.bytes_fill frames a.fetch
  · rw [FrameBuffer.width_fill, hwidth]
  · rw [FrameBuffer.height_fill, hheight]

/-- If a frame is offered, the engine is called four times. -/
theorem engineCalls_tick_of_offers (hb : p.frames.Sound) (s : Surface T)
    (hr : a.Offers p.frames.format r) :
    Effect.engineCalls (p.tick s a).effects =
      [.size p.session, .width p.session, .height p.session,
        .fetch p.session p.display r.size.toInt.toNat] := by
  obtain ⟨r', length, hr', hlength, hcalls, -⟩ := tick_fetched hb s (ready_of_offers hr)
  obtain rfl := hr.reports.unique hr'.reports
  have hcounted : r.size.toInt.toNat = length := by omega
  rw [hcalls, hcounted]

/-- Two pumps with one session, display and format, in whatever states, come to the same in a tick that
fetches the same frame, and are left with the same frame buffer but for its generation. -/
theorem tick_eq_of_offers {q : Pump} {a' : Engine.Answers} {content : Array UInt8}
    (hp : p.frames.Sound) (hq : q.frames.Sound) (hsession : p.session = q.session)
    (hdisplay : p.display = q.display) (hformat : p.frames.format = q.frames.format)
    (ha : a.Offers p.frames.format r) (ha' : a'.Offers p.frames.format r)
    (hf : a.fetch.Overwrites r content) (hf' : a'.fetch.Overwrites r content)
    {s : Surface T} {s' : Surface T'}
    (hs : ∀ image : Image, image.IsFrame r p.frames.format content → s.AnswersAlike s' image) :
    (p.tick s a).outcome = (q.tick s' a').outcome ∧
    Effect.engineCalls (p.tick s a).effects = Effect.engineCalls (q.tick s' a').effects ∧
    (Effect.targetCalls (p.tick s a).effects).map Prod.snd =
      (Effect.targetCalls (q.tick s' a').effects).map Prod.snd ∧
    (p.tick s a).pump.frames =
      { (q.tick s' a').pump.frames with generation := (p.tick s a).pump.frames.generation } := by
  have ha'' : a'.Offers q.frames.format r := hformat ▸ ha'
  obtain ⟨g, buffer, hg, hbuffer, hleft⟩ := frames_tick_of_offers hp s ha hf.outcome
  obtain ⟨g', buffer', hg', hbuffer', hleft'⟩ := frames_tick_of_offers hq s' ha'' hf'.outcome
  obtain rfl : g = g' := Option.some.inj (hg.symm.trans hg')
  rw [hf.painted buffer hbuffer] at hleft
  rw [hf'.painted buffer' hbuffer', ← hformat] at hleft'
  -- both ticks show the one image that is a frame of these bytes
  obtain ⟨image, himage, hend⟩ := shown_tick hp s ha hf.outcome
  obtain ⟨image', himage', hend'⟩ := shown_tick hq s' ha'' hf'.outcome
  rw [hleft] at himage
  rw [hleft', ← hformat] at himage'
  obtain rfl : image = image' := himage.unique himage'
  obtain ⟨hout, hcalls⟩ := (hs image himage).present
  refine ⟨?_, ?_, ?_, ?_⟩
  · rw [hend.outcome, hend'.outcome, hout]
  · rw [engineCalls_tick_of_offers hp s ha, engineCalls_tick_of_offers hq s' ha'', hsession, hdisplay]
  · rw [hend.made, hend'.made, hcalls]
  · rw [hleft']
    exact hleft

end Pump

namespace Playback

variable {T T' : Type} [Drawable T] [Drawable T']

/-- **Failed ticks leave no residue.**  Take a pump after any history, and one just built for the same
session, display and format.  If both are offered a frame of the same shape, both fetches overwrite the
whole buffer with the same bytes, and the surface answers that frame alike, then both ticks come to the
same, with the same engine calls and the same calls on the target, and both frame buffers are the same but
for the number of the generation. -/
theorem failed_ticks_leave_no_residue (session : String) {config config' : PumpSettings}
    (hdisplay : config.display = config'.display) (hformat : config.format = config'.format)
    (surface : Surface T) (history : List (Moment T)) {a a' : Engine.Answers} {r : Reported}
    {content : Array UInt8} (ha : a.Offers config.format r) (ha' : a'.Offers config.format r)
    (hf : a.fetch.Overwrites r content) (hf' : a'.fetch.Overwrites r content)
    {s : Surface T} {s' : Surface T'}
    (hs : ∀ image : Image, image.IsFrame r config.format content → s.AnswersAlike s' image) :
    let used := (run ⟨.new session config, surface⟩ history).pump.tick s a
    let fresh := (Pump.new session config').tick s' a'
    used.outcome = fresh.outcome ∧
    Effect.engineCalls used.effects = Effect.engineCalls fresh.effects ∧
    (Effect.targetCalls used.effects).map Prod.snd = (Effect.targetCalls fresh.effects).map Prod.snd ∧
    used.pump.frames = { fresh.pump.frames with generation := used.pump.frames.generation } := by
  intro used fresh
  have hnew : (Pump.new session config).frames.Sound := FrameBuffer.sound_new config.format
  obtain ⟨hsound, hkept⟩ := sound_frames_run (p := ⟨.new session config, surface⟩) hnew history
  obtain ⟨hsession, hshown⟩ := source_run ⟨.new session config, surface⟩ history
  have hbuilt : (run ⟨.new session config, surface⟩ history).pump.frames.format = config.format := hkept
  have hfrom : (run ⟨.new session config, surface⟩ history).pump.display = config.display := hshown
  have hfresh : (Pump.new session config').frames.Sound := FrameBuffer.sound_new config'.format
  refine Pump.tick_eq_of_offers hsound hfresh hsession (hfrom.trans hdisplay) (hbuilt.trans hformat)
    ?_ ?_ hf hf' ?_ <;> rw [hbuilt]
  · exact ha
  · exact ha'
  · exact hs

/-- The surface that the next two pumps draw on. -/
def steady : Surface Recorder := Surface.apply { scale := .stretch } (.created ⟨3, 3, none⟩)

/-- The same again, on a target that is the second one. -/
def steadyAgain : Surface Recorder := (steady.apply .destroyed).apply (.created ⟨3, 3, none⟩)

/-- What a pump goes through that gets a frame of another shape, half a frame, a frame that is too short,
and a panic. -/
def trouble : List (Moment Recorder) :=
  [.tick ⟨.ok 8, .ok 2, .ok 1, { byte := fun _ _ => 8, outcome := .ok () }⟩,
    .tick ⟨.ok 4, .ok 1, .ok 1,
      { byte := fun buffer i => if i < 2 then 9 else buffer.getD i 0, outcome := .error (.failed "busy") }⟩,
    .tick ⟨.ok 4, .ok 2, .ok 2, .untouched⟩,
    .tick (.onePixel 9 .panic)]

/-- The trouble has left its marks in the buffer, and the next frame none of them. -/
theorem failed_ticks_leave_no_residue_of_trouble :
    let troubled := (run ⟨.new "7" {}, steady⟩ trouble).pump
    let used := troubled.tick steady (.onePixel 7 (.ok ()))
    let fresh := (Pump.new "7" {}).tick steadyAgain (.onePixel 7 (.ok ()))
    (troubled.frames.bytes, troubled.frames.filled, troubled.frames.generation) =
      (#[9, 9, 9, 9], false, 2) ∧
    used.outcome = fresh.outcome ∧
    Effect.engineCalls used.effects = Effect.engineCalls fresh.effects ∧
    (Effect.targetCalls used.effects).map Prod.snd = (Effect.targetCalls fresh.effects).map Prod.snd ∧
    used.pump.frames = { fresh.pump.frames with generation := used.pump.frames.generation } := by
  have hoffers : (Engine.Answers.onePixel 7 (.ok ())).Offers .rgba8 ⟨4, 1, 1⟩ :=
    ⟨⟨rfl, rfl, rfl⟩, ⟨by decide, by decide, by decide⟩, by decide⟩
  have hfetch := Engine.Answers.overwrites_onePixel 7
  have halike : ∀ image : Image, steady.AnswersAlike steadyAgain image := fun _ =>
    ⟨rfl, rfl, rfl, .some ⟨rfl, fun _ _ _ _ => rfl, fun _ _ _ _ _ => rfl⟩⟩
  refine ⟨by decide, ?_⟩
  exact failed_ticks_leave_no_residue "7" rfl rfl steady trouble hoffers hoffers hfetch hfetch
    fun image _ => halike image

end Playback

end DeskView
