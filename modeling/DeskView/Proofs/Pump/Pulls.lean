import DeskView.Proofs.Pump.Freshness
import DeskView.Surface.StandIn

/-!
# What a pump pulls

A tick is done with the engine and with its frame buffer before it looks at the surface, so what a pump
pulls depends on the engine's answers alone.  `Pump.SameSource` relates two pumps that pull the same: they
may have drawn different numbers of frames, and on different surfaces, but not for different sessions or
from different buffers.  Every tick with the same answers keeps it, whatever the two surfaces are
(`SameSource.tick`).

A history comes down to its `Pull`s, the ticks with the surface that each of them found
(`Playback.ticks_eq_pullAll`), and two lists of pulls are compared tick by tick
(`SameSource.map_pulled`).
-/

namespace DeskView

/-- The buffer after a fetch has come back, and the image staged from it, if there is one. -/
def FrameBuffer.load (b : FrameBuffer) (f : Engine.Fetch) : Option Image × FrameBuffer :=
  match b.fill f with
  | (.ok (), filled) =>
    match filled.stage with
    | .ok (image, staged) => (some image, staged)
    | .error _ => (none, filled)
  | (_, filled) => (none, filled)

/-- What the engine was asked in a tick, and the frame buffer after it. -/
def Ticked.pulled {T : Type} (t : Ticked T) : List Engine.Call × FrameBuffer :=
  (Effect.engineCalls t.effects, t.pump.frames)

/-- One tick of a pump: what the engine answers to it, and the surface that its frame finds. -/
structure Pull (T : Type) where
  answers : Engine.Answers
  surface : Surface T

namespace Pump

/-- Two pumps that ask the same of the engine: they pull for one session, from one display, into equal
buffers. -/
structure SameSource (p q : Pump) : Prop where
  session : p.session = q.session
  display : p.display = q.display
  frames : p.frames = q.frames

section

variable {T : Type}

/-- All that a tick's end can change of the pump is the number of frames. -/
theorem pump_conclude (p : Pump) (done : Presented T) :
    (p.conclude done).pump = { p with frameCount := (p.conclude done).pump.frameCount } := by
  unfold conclude
  split <;> rfl

variable [Drawable T]

/-- The second half of a tick is over when the fetch has come back, unless it leaves an image; then
nothing but the surface is still to come. -/
theorem deliver_eq_load (p : Pump) (s : Surface T) (f : Engine.Fetch) :
    let loaded := p.frames.load f
    (loaded.1 = none ∧ (p.deliver s f).pump = { p with frames := loaded.2 } ∧
      (p.deliver s f).effects = []) ∨
    (∃ image, loaded.1 = some image ∧
      p.deliver s f = { p with frames := loaded.2 }.conclude (s.present image)) := by
  intro loaded
  unfold loaded FrameBuffer.load deliver
  rcases p.frames.fill f with ⟨u | e | _, filled⟩
  · dsimp only
    cases filled.stage with
    | error e => exact .inl ⟨rfl, rfl, rfl⟩
    | ok done => exact .inr ⟨done.1, rfl, rfl⟩
  · exact .inl ⟨rfl, rfl, rfl⟩
  · exact .inl ⟨rfl, rfl, rfl⟩

theorem pump_deliver (p : Pump) (s : Surface T) (f : Engine.Fetch) :
    (p.deliver s f).pump =
      { p with
        frames := (p.frames.load f).2
        frameCount := (p.deliver s f).pump.frameCount } := by
  rcases p.deliver_eq_load s f with ⟨-, hpump, -⟩ | ⟨image, -, hdeliver⟩
  · rw [hpump]
  · rw [hdeliver, pump_conclude]

end

variable {p q : Pump} {T T' : Type}

/-- The first half of a tick is the same for both. -/
theorem SameSource.prepare (h : p.SameSource q) (a : Engine.Answers) :
    (p.prepare a).verdict = (q.prepare a).verdict ∧
      (p.prepare a).pump.SameSource (q.prepare a).pump ∧
      Effect.engineCalls (p.prepare a).effects = Effect.engineCalls (q.prepare a).effects := by
  obtain ⟨session, display, frames, running, count, ticks⟩ := p
  obtain ⟨session', display', frames', running', count', ticks'⟩ := q
  obtain ⟨hsession, hdisplay, hframes⟩ := h
  cases hsession
  cases hdisplay
  cases hframes
  -- what the two still differ in is counted only, and the counts show in the log alone
  unfold Pump.prepare
  dsimp only
  cases (a.query session).result with
  | error e => exact ⟨rfl, ⟨rfl, rfl, rfl⟩, rfl⟩
  | ok r =>
    dsimp only
    cases r.geometry? with
    | none => exact ⟨rfl, ⟨rfl, rfl, rfl⟩, by simp [engineCalls_traceReport]⟩
    | some g =>
      dsimp only
      cases frames.fit g with
      | error e => exact ⟨rfl, ⟨rfl, rfl, rfl⟩, by simp [engineCalls_traceReport]⟩
      | ok done => exact ⟨rfl, ⟨rfl, rfl, rfl⟩, by simp [engineCalls_traceReport]⟩

variable [Drawable T] [Drawable T']

/-- The second half leaves the same buffer, whatever becomes of the frame on the two surfaces. -/
theorem SameSource.deliver (h : p.SameSource q) (s : Surface T) (s' : Surface T') (f : Engine.Fetch) :
    (p.deliver s f).pump.SameSource (q.deliver s' f).pump := by
  obtain ⟨hsession, hdisplay, hframes⟩ := h
  rw [pump_deliver p, pump_deliver q, hframes]
  exact ⟨hsession, hdisplay, rfl⟩

/-- **A tick pulls without a look at the surface.**  The engine is asked the same, and the buffer is left
the same, whatever is or is not bound and whatever a target answers. -/
theorem SameSource.tick (h : p.SameSource q) (s : Surface T) (s' : Surface T') (a : Engine.Answers) :
    (p.tick s a).pulled = (q.tick s' a).pulled ∧
      (p.tick s a).pump.SameSource (q.tick s' a).pump := by
  obtain ⟨hverdict, hprepared, hcalls⟩ := h.prepare a
  have hsource : (p.tick s a).pump.SameSource (q.tick s' a).pump := by
    by_cases hv : (p.prepare a).verdict = .ok .ready
    · rw [tick_of_ready s hv, tick_of_ready s' (hverdict ▸ hv)]
      exact hprepared.deliver s s' a.fetch
    · rw [(tick_of_not_ready s hv).1, (tick_of_not_ready s' (hverdict ▸ hv)).1]
      exact ⟨h.session, h.display, h.frames⟩
  refine ⟨?_, hsource⟩
  unfold Ticked.pulled
  rw [engineCalls_tick, engineCalls_tick, hcalls, hsource.frames]

/-- The ticks of some pulls, one after the other. -/
def pullAll (p : Pump) : List (Pull T) → List (Ticked T)
  | [] => []
  | x :: rest => p.tick x.surface x.answers :: (p.tick x.surface x.answers).pump.pullAll rest

theorem SameSource.map_pulled (h : p.SameSource q) {xs : List (Pull T)} {ys : List (Pull T')}
    (hanswers : xs.map Pull.answers = ys.map Pull.answers) :
    (p.pullAll xs).map Ticked.pulled = (q.pullAll ys).map Ticked.pulled := by
  induction xs generalizing p q ys with
  | nil =>
    cases ys with
    | nil => rfl
    | cons y ys => cases hanswers
  | cons x xs ih =>
    cases ys with
    | nil => cases hanswers
    | cons y ys =>
      rw [List.map_cons, List.map_cons, List.cons.injEq] at hanswers
      obtain ⟨hpulled, hsource⟩ := h.tick x.surface y.surface x.answers
      unfold pullAll
      rw [List.map_cons, List.map_cons, ← hanswers.1, hpulled, ih hsource hanswers.2]

end Pump

namespace Moment

variable {T : Type}

/-- The engine's answers, if the moment is a tick. -/
def answers? : Moment T → Option Engine.Answers
  | .tick a => some a
  | .surface _ => none

/-- What the engine answers to the ticks of a history. -/
def answers (history : List (Moment T)) : List Engine.Answers := history.filterMap answers?

end Moment

namespace Playback

variable {T T' : Type} [Drawable T] [Drawable T']

/-- The ticks of a history, each with the surface as it is when the tick begins. -/
def pulls (p : Playback T) : List (Moment T) → List (Pull T)
  | [] => []
  | .tick a :: rest => ⟨a, p.surface⟩ :: (p.step (.tick a)).pulls rest
  | .surface event :: rest => (p.step (.surface event)).pulls rest

theorem map_answers_pulls (p : Playback T) (history : List (Moment T)) :
    (p.pulls history).map Pull.answers = Moment.answers history := by
  induction history generalizing p with
  | nil => rfl
  | cons m rest ih =>
    cases m with
    | tick a => exact congrArg (a :: ·) (ih _)
    | surface event => exact ih _

theorem ticks_eq_pullAll (p : Playback T) (history : List (Moment T)) :
    p.ticks history = p.pump.pullAll (p.pulls history) := by
  induction history generalizing p with
  | nil => rfl
  | cons m rest ih =>
    cases m with
    | tick a => exact congrArg (p.tick a :: ·) (ih _)
    | surface event => exact ih _

/-- **The surface never influences what is fetched.**  Let one pump tick through two histories in which
the engine answers the same, on surfaces of any kind, with any events of the window system between the
ticks.  Then the engine is called the same in each tick, and the whole frame buffer is the same after
it. -/
theorem fetching_ignores_surface (p : Pump) (s : Surface T) (s' : Surface T')
    (history : List (Moment T)) (history' : List (Moment T'))
    (h : Moment.answers history = Moment.answers history') :
    ((⟨p, s⟩ : Playback T).ticks history).map Ticked.pulled =
      ((⟨p, s'⟩ : Playback T').ticks history').map Ticked.pulled := by
  have hsource : p.SameSource p := ⟨rfl, rfl, rfl⟩
  rw [ticks_eq_pullAll, ticks_eq_pullAll]
  refine hsource.map_pulled ?_
  rw [map_answers_pulls, map_answers_pulls, h]

/-- A target panics in the middle of a frame that another history has no surface for, and the surface is
resized and destroyed after that. -/
theorem fetching_ignores_surface_of_panic :
    let p := Pump.new "7" {}
    let first := Engine.Answers.onePixel 7 (.ok ())
    let second : Engine.Answers := ⟨.ok 8, .ok 1, .ok 2, .untouched⟩
    let history : List (Moment Recorder) :=
      [.surface (.created ⟨1, 1, some { stage := .draw, error := none }⟩), .tick first,
        .surface (.changed 5 5 .rgba8), .tick second, .surface .destroyed, .tick first]
    let history' : List (Moment MemoryTarget) := [.tick first, .tick second, .tick first]
    let panicking : Playback Recorder := ⟨p, { scale := .stretch }⟩
    let blind : Playback MemoryTarget := ⟨p, { scale := .letterbox }⟩
    Moment.answers history = Moment.answers history' ∧
    (panicking.ticks history).map Ticked.outcome = [.panic, .panic, .ok .dropped] ∧
    (panicking.ticks history).map Ticked.pulled = (blind.ticks history').map Ticked.pulled := by
  intro p first second history history' panicking blind
  have hanswers : Moment.answers history = Moment.answers history' := rfl
  exact ⟨hanswers, by decide, fetching_ignores_surface p _ _ history history' hanswers⟩

end Playback

end DeskView
