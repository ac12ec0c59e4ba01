import DeskView.Proofs.Effect
import DeskView.Proofs.Frame.Buffer
import DeskView.Pump.Tick

/-!
# What one tick does

A tick goes through its stages in order and ends at the first that fails.  `Pump.prepare_cases` lists
the four ways through the first half (the queries, the geometry, the fit), and `Pump.deliver_cases`
the ways through the second: the fetch fails, or the frame is staged and what is left of the tick is
what the surface makes of it (`Pump.conclude`).  Of a sound frame buffer there is no third way, since
a fetched frame is always staged.
-/

namespace DeskView

/-! ### What is reported -/

/-- Three reported words are a frame exactly when all three are positive, and it has them for its
size, width and height. -/
theorem Reported.geometry?_eq_some_iff {r : Reported} {g : Geometry} :
    r.geometry? = some g ↔
      (0 < r.size ∧ 0 < r.width ∧ 0 < r.height) ∧
      (g.size : Int) = r.size.toInt ∧ (g.width.toNat : Int) = r.width.toInt ∧
      (g.height.toNat : Int) = r.height.toInt := by
  unfold geometry?
  by_cases h : 0 < r.size ∧ 0 < r.width ∧ 0 < r.height
  · have hpos : ∀ w : Int32, 0 < w → (w.toInt.toNat : Int) = w.toInt ∧
        (w.toUInt32.toNat : Int) = w.toInt := by
      intro w hw
      have hle : 0 ≤ w := Int32.le_of_lt hw
      rw [Int32.toNat_toInt, Int32.toNat_toUInt32_of_le hle, Int32.toInt_eq_toNatClampNeg hle]
      exact ⟨rfl, rfl⟩
    rw [if_pos h, Option.some.injEq]
    constructor
    · rintro rfl
      exact ⟨h, (hpos _ h.1).1, (hpos _ h.2.1).2, (hpos _ h.2.2).2⟩
    · rintro ⟨-, hsize, hwidth, hheight⟩
      obtain ⟨size, width, height⟩ := g
      congr 1
      · exact Int.ofNat.inj ((hpos _ h.1).1.trans hsize.symm)
      · exact UInt32.toNat_inj.mp (Int.ofNat.inj ((hpos _ h.2.1).2.trans hwidth.symm))
      · exact UInt32.toNat_inj.mp (Int.ofNat.inj ((hpos _ h.2.2).2.trans hheight.symm))
  · rw [if_neg h]
    constructor
    · intro hg
      cases hg
    · rintro ⟨hpos, -⟩
      exact absurd hpos h

namespace Engine.Answers

/-- The questions are all answered exactly when each is. -/
theorem query_eq_ok_iff {a : Answers} {id : String} {r : Reported} :
    (a.query id).result = .ok r ↔
      a.size = .ok r.size ∧ a.width = .ok r.width ∧ a.height = .ok r.height := by
  obtain ⟨rsize, rwidth, rheight⟩ := r
  obtain ⟨size, width, height, fetch⟩ := a
  cases size <;> cases width <;> cases height <;> simp [query]

theorem calls_query_of_ok {a : Answers} {id : String} {r : Reported}
    (h : (a.query id).result = .ok r) : (a.query id).calls = [.size id, .width id, .height id] := by
  obtain ⟨hsize, hwidth, hheight⟩ := query_eq_ok_iff.mp h
  unfold query
  rw [hsize, hwidth, hheight]

/-- A question is a question about size, width or height. -/
theorem mem_calls_query {a : Answers} {id : String} {call : Call} (h : call ∈ (a.query id).calls) :
    call = .size id ∨ call = .width id ∨ call = .height id := by
  unfold query at h
  split at h
  · exact .inl (List.mem_singleton.mp h)
  split at h
  · rcases List.mem_cons.mp h with h | h
    · exact .inl h
    · exact .inr (.inl (List.mem_singleton.mp h))
  split at h <;> simpa using h

end Engine.Answers

namespace Pump

/-! ### The first half -/

/-- The pump when its tick has begun. -/
def begun (p : Pump) : Pump := { p with ticks := p.ticks + 1 }

/-- The questions that a tick asks, as effects. -/
def questions (p : Pump) (a : Engine.Answers) : List Effect :=
  (a.query p.session).calls.map .engine

/-- What the first half of a tick can come to: the engine cannot tell the frame's size, there is no
frame, the frame is refused, or room is made for it and it is fetched. -/
theorem prepare_cases (p : Pump) (a : Engine.Answers) :
    (∃ e, (a.query p.session).result = .error e ∧
      p.prepare a = ⟨.error (.ofQuery e), p.begun, p.questions a⟩) ∨
    (∃ r, (a.query p.session).result = .ok r ∧ r.geometry? = none ∧
      p.prepare a = ⟨.ok .idle, p.begun, p.questions a ++ p.begun.traceReport r⟩) ∨
    (∃ r g e, (a.query p.session).result = .ok r ∧ r.geometry? = some g ∧
      p.frames.fit g = .error e ∧
      p.prepare a = ⟨.error e, p.begun, p.questions a ++ p.begun.traceReport r⟩) ∨
    (∃ r g replaced frames, (a.query p.session).result = .ok r ∧ r.geometry? = some g ∧
      p.frames.fit g = .ok (replaced, frames) ∧
      p.prepare a = ⟨.ok .ready, { p.begun with frames },
        p.questions a ++ p.begun.traceReport r ++ (replaced.log g).map .log ++
          [.engine (.fetch p.session p.display frames.bytes.size)]⟩) := by
  unfold prepare questions begun
  dsimp only
  cases hquery : (a.query p.session).result with
  | error e => exact .inl ⟨e, rfl, rfl⟩
  | ok r =>
    refine .inr ?_
    cases hgeometry : r.geometry? with
    | none => exact .inl ⟨r, rfl, hgeometry, by simp only [hgeometry]⟩
    | some g =>
      refine .inr ?_
      cases hfit : p.frames.fit g with
      | error e => exact .inl ⟨r, g, e, rfl, hgeometry, hfit, by simp only [hgeometry, hfit]⟩
      | ok done =>
        obtain ⟨replaced, frames⟩ := done
        exact .inr ⟨r, g, replaced, frames, rfl, hgeometry, hfit, by simp only [hgeometry, hfit]⟩

theorem engineCalls_traceReport (p : Pump) (r : Reported) :
    Effect.engineCalls (p.traceReport r) = [] := by
  unfold traceReport
  split <;> rfl

theorem targetCalls_traceReport (p : Pump) (r : Reported) :
    Effect.targetCalls (p.traceReport r) = [] := by
  unfold traceReport
  split <;> rfl

/-- The first half of a tick calls no target. -/
theorem targetCalls_prepare (p : Pump) (a : Engine.Answers) :
    Effect.targetCalls (p.prepare a).effects = [] := by
  rcases prepare_cases p a with ⟨e, -, h⟩ | ⟨r, -, -, h⟩ | ⟨r, g, e, -, -, -, h⟩ |
    ⟨r, g, replaced, frames, -, -, -, h⟩ <;> rw [h] <;>
    simp [questions, targetCalls_traceReport]

/-- If the frame is not fetched, nothing but the number of ticks has changed, and the engine was
asked its questions only. -/
theorem prepare_of_not_ready {p : Pump} {a : Engine.Answers}
    (h : (p.prepare a).verdict ≠ .ok .ready) :
    (p.prepare a).pump = p.begun ∧
      Effect.engineCalls (p.prepare a).effects = (a.query p.session).calls := by
  rcases prepare_cases p a with ⟨e, -, hp⟩ | ⟨r, -, -, hp⟩ | ⟨r, g, e, -, -, -, hp⟩ |
    ⟨r, g, replaced, frames, -, -, -, hp⟩
  · rw [hp]
    exact ⟨rfl, by simp [questions]⟩
  · rw [hp]
    exact ⟨rfl, by simp [questions, engineCalls_traceReport]⟩
  · rw [hp]
    exact ⟨rfl, by simp [questions, engineCalls_traceReport]⟩
  · rw [hp] at h
    exact absurd rfl h

/-- If the frame is fetched, a geometry was reported, the buffer was fitted to it, and the fetch was
handed that buffer. -/
theorem prepare_of_ready {p : Pump} {a : Engine.Answers}
    (h : (p.prepare a).verdict = .ok .ready) :
    ∃ r g replaced frames, (a.query p.session).result = .ok r ∧ r.geometry? = some g ∧
      p.frames.fit g = .ok (replaced, frames) ∧ (p.prepare a).pump = { p.begun with frames } ∧
      Effect.engineCalls (p.prepare a).effects =
        [.size p.session, .width p.session, .height p.session,
          .fetch p.session p.display frames.bytes.size] := by
  rcases prepare_cases p a with ⟨e, -, hp⟩ | ⟨r, -, -, hp⟩ | ⟨r, g, e, -, -, -, hp⟩ |
    ⟨r, g, replaced, frames, hquery, hgeometry, hfit, hp⟩
  · rw [hp] at h
    cases h
  · rw [hp] at h
    cases h
  · rw [hp] at h
    cases h
  · refine ⟨r, g, replaced, frames, hquery, hgeometry, hfit, by rw [hp], ?_⟩
    rw [hp]
    simp [questions, engineCalls_traceReport, Engine.Answers.calls_query_of_ok hquery]

/-! ### The second half -/

variable {T : Type}

/-- The end of a tick whose frame was handed to the surface. -/
def conclude (p : Pump) (done : Presented T) : Ticked T :=
  match done.outcome with
  | .panic => ⟨.panic, p, done.surface, done.effects⟩
  | .error e => ⟨.error e, p, done.surface, done.effects⟩
  | .ok .dropped => ⟨.ok .dropped, p, done.surface, done.effects⟩
  | .ok .drawn =>
    let p := { p with frameCount := p.frameCount + 1 }
    ⟨.ok .presented, p, done.surface, done.effects ++ p.traceFrames⟩

@[simp]
theorem surface_conclude (p : Pump) (done : Presented T) :
    (p.conclude done).surface = done.surface := by
  unfold conclude
  split <;> rfl

@[simp]
theorem frames_conclude (p : Pump) (done : Presented T) :
    (p.conclude done).pump.frames = p.frames := by
  unfold conclude
  split <;> rfl

theorem targetCalls_traceFrames (p : Pump) : Effect.targetCalls p.traceFrames = [] := by
  unfold traceFrames
  split <;> rfl

theorem engineCalls_traceFrames (p : Pump) : Effect.engineCalls p.traceFrames = [] := by
  unfold traceFrames
  split <;> rfl

@[simp]
theorem targetCalls_conclude (p : Pump) (done : Presented T) :
    Effect.targetCalls (p.conclude done).effects = done.calls := by
  unfold conclude
  split <;> simp [targetCalls_traceFrames]

@[simp]
theorem engineCalls_conclude (p : Pump) (done : Presented T) :
    Effect.engineCalls (p.conclude done).effects = [] := by
  unfold conclude
  split <;> simp [engineCalls_traceFrames]

/-- A tick counts as presented, and its frame is counted, exactly when the frame was drawn. -/
theorem outcome_conclude_eq_presented_iff (p : Pump) (done : Presented T) :
    (p.conclude done).outcome = .ok .presented ↔ done.outcome = .ok .drawn := by
  unfold conclude
  split <;> simp_all

theorem frameCount_conclude (p : Pump) (done : Presented T) :
    (p.conclude done).pump.frameCount =
      p.frameCount + if (p.conclude done).outcome = .ok .presented then 1 else 0 := by
  unfold conclude
  split <;> simp

variable [Drawable T]

/-- What the second half of a tick can come to: the fetch fails, the fetch panics, or the frame is
staged and goes to the surface. -/
theorem deliver_cases (p : Pump) (s : Surface T) (f : Engine.Fetch) :
    (∃ e, f.outcome = .error e ∧
      p.deliver s f = ⟨.error (.ofFetch e), { p with frames := (p.frames.fill f).2 }, s, []⟩) ∨
    (f.outcome = .panic ∧
      p.deliver s f = ⟨.panic, { p with frames := (p.frames.fill f).2 }, s, []⟩) ∨
    (f.outcome = .ok () ∧
      ((∃ e, (p.frames.fill f).2.stage = .error e ∧
        p.deliver s f = ⟨.error e, { p with frames := (p.frames.fill f).2 }, s, []⟩) ∨
      (∃ image frames, (p.frames.fill f).2.stage = .ok (image, frames) ∧
        p.deliver s f = { p with frames }.conclude (s.present image)))) := by
  unfold deliver
  cases houtcome : f.outcome with
  | error e => exact .inl ⟨e, rfl, by simp only [FrameBuffer.fill, houtcome]⟩
  | panic => exact .inr (.inl ⟨rfl, by simp only [FrameBuffer.fill, houtcome]⟩)
  | ok u =>
    refine .inr (.inr ⟨rfl, ?_⟩)
    have hfill : p.frames.fill f = (.ok (), (p.frames.fill f).2) := by
      unfold FrameBuffer.fill
      rw [houtcome]
    rw [hfill]
    cases hstage : (p.frames.fill f).2.stage with
    | error e => exact .inl ⟨e, rfl, by simp only [hstage]⟩
    | ok done =>
      obtain ⟨image, frames⟩ := done
      exact .inr ⟨image, frames, rfl, by simp only [hstage]; rfl⟩

/-! ### The whole tick -/

/-- A tick whose frame is not fetched ends with its first half. -/
theorem tick_of_not_ready {p : Pump} {a : Engine.Answers} (s : Surface T)
    (h : (p.prepare a).verdict ≠ .ok .ready) :
    (p.tick s a).pump = p.begun ∧ (p.tick s a).surface = s ∧
      (p.tick s a).effects = (p.prepare a).effects ∧ (p.tick s a).outcome ≠ .ok .presented := by
  have hpump := (prepare_of_not_ready h).1
  unfold tick
  dsimp only
  cases hv : (p.prepare a).verdict with
  | error e => exact ⟨hpump, rfl, rfl, by simp⟩
  | ok readiness =>
    cases readiness with
    | idle => exact ⟨hpump, rfl, rfl, by simp⟩
    | ready => exact absurd hv h

theorem tick_of_ready {p : Pump} {a : Engine.Answers} (s : Surface T)
    (h : (p.prepare a).verdict = .ok .ready) :
    p.tick s a = { (p.prepare a).pump.deliver s a.fetch with
      effects := (p.prepare a).effects ++ ((p.prepare a).pump.deliver s a.fetch).effects } := by
  unfold tick
  dsimp only
  rw [h]

/-- **A tick without a fetched frame touches no target.**  If the frame is not fetched, or the fetch
fails or panics, the surface is as it was and no frame is counted. -/
theorem tick_of_not_fetched {p : Pump} {a : Engine.Answers} (s : Surface T)
    (h : (p.prepare a).verdict ≠ .ok .ready ∨ a.fetch.outcome ≠ .ok ()) :
    (p.tick s a).surface = s ∧ Effect.targetCalls (p.tick s a).effects = [] ∧
      (p.tick s a).outcome ≠ .ok .presented ∧ (p.tick s a).pump.frameCount = p.frameCount := by
  by_cases hv : (p.prepare a).verdict = .ok .ready
  · have hf : a.fetch.outcome ≠ .ok () := h.resolve_left (fun hne => hne hv)
    obtain ⟨r, g, replaced, frames, -, -, -, hpump, -⟩ := prepare_of_ready hv
    rw [tick_of_ready s hv, hpump]
    rcases deliver_cases { p.begun with frames } s a.fetch with ⟨e, -, hd⟩ | ⟨-, hd⟩ | ⟨hok, -⟩
    · rw [hd]
      exact ⟨rfl, by simp [targetCalls_prepare], by simp, rfl⟩
    · rw [hd]
      exact ⟨rfl, by simp [targetCalls_prepare], by simp, rfl⟩
    · exact absurd hok hf
  · obtain ⟨hpump, hsurface, heffects, houtcome⟩ := tick_of_not_ready s hv
    refine ⟨hsurface, ?_, houtcome, by rw [hpump]; rfl⟩
    rw [heffects]
    exact targetCalls_prepare p a

/-- **A fetched frame goes to the surface.**  If a frame is fetched and the fetch succeeds, the rest
of the tick is what the surface makes of one image: the shape that was reported in this tick, and the
first of the bytes that this fetch left in a buffer of the reported size. -/
theorem tick_of_fetched {p : Pump} {a : Engine.Answers} (s : Surface T) (hb : p.frames.Sound)
    (hv : (p.prepare a).verdict = .ok .ready) (hf : a.fetch.outcome = .ok ()) :
    ∃ r g buffer frames, (a.query p.session).result = .ok r ∧ r.geometry? = some g ∧
      buffer.size = g.size ∧ Image.byteLength g.width g.height p.frames.format ≤ g.size ∧
      (p.prepare a).pump.frames.bytes = buffer ∧ frames.bytes = a.fetch.paint buffer ∧
      frames.format = p.frames.format ∧
      p.tick s a =
        let shown := { p.begun with frames }.conclude
          (s.present (.ofFrame g.width g.height p.frames.format (a.fetch.paint buffer)))
        { shown with effects := (p.prepare a).effects ++ shown.effects } := by
  obtain ⟨r, g, replaced, frames, hquery, hgeometry, hfit, hpump, -⟩ := prepare_of_ready hv
  obtain ⟨hformat, -, -, hsize, -⟩ := FrameBuffer.fit_spec hb hfit
  have hroom := (FrameBuffer.fit_eq_ok_iff.mp hfit).1
  have hstage := FrameBuffer.stage_fill_of_fit hb hfit hf
  refine ⟨r, g, frames.bytes, { (frames.fill a.fetch).2 with
      staged := some (.ofFrame g.width g.height p.frames.format (a.fetch.paint frames.bytes)) },
    hquery, hgeometry, hsize, hroom, by rw [hpump], FrameBuffer.bytes_fill frames a.fetch,
    (FrameBuffer.format_fill frames a.fetch).trans hformat, ?_⟩
  rw [tick_of_ready s hv, hpump]
  -- of the ways through the second half only the last agrees with a fetch that succeeded
  rcases deliver_cases { p.begun with frames } s a.fetch with ⟨e, he, -⟩ | ⟨hp, -⟩ |
    ⟨-, ⟨e, he, -⟩ | ⟨image, staged, hdone, hd⟩⟩
  · rw [hf] at he
    cases he
  · rw [hf] at hp
    cases hp
  · dsimp only at he
    rw [hstage] at he
    cases he
  · dsimp only at hdone
    rw [hstage] at hdone
    cases hdone
    rw [hd]

/-- After the fetch the engine is not called any more. -/
@[simp]
theorem engineCalls_deliver (p : Pump) (s : Surface T) (f : Engine.Fetch) :
    Effect.engineCalls (p.deliver s f).effects = [] := by
  rcases deliver_cases p s f with ⟨e, -, hd⟩ | ⟨-, hd⟩ | ⟨-, ⟨e, -, hd⟩ | ⟨image, frames, -, hd⟩⟩ <;>
    rw [hd] <;> simp

/-- The engine calls of a tick are those of its first half. -/
theorem engineCalls_tick (p : Pump) (s : Surface T) (a : Engine.Answers) :
    Effect.engineCalls (p.tick s a).effects = Effect.engineCalls (p.prepare a).effects := by
  by_cases hv : (p.prepare a).verdict = .ok .ready
  · rw [tick_of_ready s hv]
    simp
  · rw [(tick_of_not_ready s hv).2.2.1]

/-! ### What every tick keeps -/

/-- A tick leaves a sound frame buffer of the same format. -/
theorem sound_frames_tick {p : Pump} (s : Surface T) (a : Engine.Answers) (hb : p.frames.Sound) :
    (p.tick s a).pump.frames.Sound ∧ (p.tick s a).pump.frames.format = p.frames.format := by
  by_cases hv : (p.prepare a).verdict = .ok .ready
  · obtain ⟨r, g, replaced, frames, -, -, hfit, hpump, -⟩ := prepare_of_ready hv
    have hfill := (hb.fit hfit).fill a.fetch
    have hformat : (frames.fill a.fetch).2.format = p.frames.format := by
      rw [FrameBuffer.format_fill, (FrameBuffer.fit_spec hb hfit).1]
    rw [tick_of_ready s hv, hpump]
    rcases deliver_cases { p.begun with frames } s a.fetch with ⟨e, -, hd⟩ | ⟨-, hd⟩ |
      ⟨-, ⟨e, -, hd⟩ | ⟨image, staged, hstage, hd⟩⟩ <;> rw [hd]
    · exact ⟨hfill, hformat⟩
    · exact ⟨hfill, hformat⟩
    · exact ⟨hfill, hformat⟩
    · rw [frames_conclude]
      exact ⟨hfill.stage hstage, (FrameBuffer.format_stage hstage).trans hformat⟩
  · rw [(tick_of_not_ready s hv).1]
    exact ⟨hb, rfl⟩

/-! ### What a tick leaves alone -/

theorem exists_pump_prepare (p : Pump) (a : Engine.Answers) :
    ∃ frames, (p.prepare a).pump = { p.begun with frames } := by
  rcases prepare_cases p a with ⟨e, -, h⟩ | ⟨r, -, -, h⟩ | ⟨r, g, e, -, -, -, h⟩ |
    ⟨r, g, replaced, frames, -, -, -, h⟩ <;> rw [h] <;> exact ⟨_, rfl⟩

theorem exists_pump_deliver (p : Pump) (s : Surface T) (f : Engine.Fetch) :
    ∃ frames frameCount, (p.deliver s f).pump = { p with frames, frameCount } := by
  rcases deliver_cases p s f with ⟨e, -, hd⟩ | ⟨-, hd⟩ | ⟨-, ⟨e, -, hd⟩ | ⟨image, frames, -, hd⟩⟩ <;>
    rw [hd]
  · exact ⟨_, _, rfl⟩
  · exact ⟨_, _, rfl⟩
  · exact ⟨_, _, rfl⟩
  · unfold conclude
    split <;> exact ⟨_, _, rfl⟩

/-- Of its pump a tick changes no more than the frame buffer and the numbers of ticks and frames. -/
theorem exists_pump_tick (p : Pump) (s : Surface T) (a : Engine.Answers) :
    ∃ frames frameCount, (p.tick s a).pump = { p.begun with frames, frameCount } := by
  by_cases hv : (p.prepare a).verdict = .ok .ready
  · obtain ⟨frames, hprepare⟩ := p.exists_pump_prepare a
    obtain ⟨frames', frameCount, hdeliver⟩ := (p.prepare a).pump.exists_pump_deliver s a.fetch
    rw [tick_of_ready s hv]
    exact ⟨frames', frameCount, by rw [hdeliver, hprepare]⟩
  · rw [(tick_of_not_ready s hv).1]
    exact ⟨_, _, rfl⟩

@[simp]
theorem running_prepare (p : Pump) (a : Engine.Answers) :
    (p.prepare a).pump.running = p.running := by
  obtain ⟨frames, h⟩ := p.exists_pump_prepare a
  rw [h]
  rfl

@[simp]
theorem running_deliver (p : Pump) (s : Surface T) (f : Engine.Fetch) :
    (p.deliver s f).pump.running = p.running := by
  obtain ⟨frames, frameCount, h⟩ := p.exists_pump_deliver s f
  rw [h]

/-- No tick clears the running flag. -/
@[simp]
theorem running_tick (p : Pump) (s : Surface T) (a : Engine.Answers) :
    (p.tick s a).pump.running = p.running := by
  obtain ⟨frames, frameCount, h⟩ := p.exists_pump_tick s a
  rw [h]
  rfl

@[simp]
theorem ticks_tick (p : Pump) (s : Surface T) (a : Engine.Answers) :
    (p.tick s a).pump.ticks = p.ticks + 1 := by
  obtain ⟨frames, frameCount, h⟩ := p.exists_pump_tick s a
  rw [h]
  rfl

end Pump

end DeskView
