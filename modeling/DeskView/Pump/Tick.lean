import DeskView.Frame.Buffer
import DeskView.Pump.Settings
import DeskView.Surface.Basic

/-!
# One tick of the frame pump

A tick pulls one frame: it asks for the frame's size (`Pump.prepare`), and if there is a frame that
fits, fetches, stages and presents it (`Pump.deliver`).  `Pump.tick` is both in one.  The two
halves are apart because the fetch is the one call that may block: a pump that hangs has done the
first half and not the second.

A tick ends at its first failure, and what it changed until then stays.
-/

namespace DeskView

/-- A frame pump: it shows one session's frames on the surface. -/
structure Pump where
  /-- The session whose frames are shown. -/
  session : String
  display : UInt32
  frames : FrameBuffer
  /-- Cleared to make the pump stop. -/
  running : Bool := true
  /-- How many frames were drawn. -/
  frameCount : Nat := 0
  /-- How many ticks were begun. -/
  ticks : Nat := 0

/-- What a tick came to when nothing failed. -/
inductive TickResult where
  /-- The engine has no frame yet. -/
  | notReady
  /-- The frame was drawn. -/
  | presented
  /-- There was nothing to draw on. -/
  | dropped
deriving Repr, DecidableEq

namespace TickResult

/-- The outcome's name in a diagnostic. -/
def label : TickResult → String
  | .notReady => "NotReady"
  | .presented => "Composited"
  | .dropped => "Dropped"

end TickResult

/-- Whether there is a frame to fetch. -/
inductive Readiness where
  | idle
  | ready
deriving Repr, DecidableEq

/-- A tick up to its fetch, the call of the fetch included. -/
structure Prepared where
  verdict : Except FrameError Readiness
  pump : Pump
  effects : List Effect

/-- A tick, or its second half. -/
structure Ticked (T : Type) where
  outcome : Outcome FrameError TickResult
  pump : Pump
  surface : Surface T
  effects : List Effect

namespace Pump

/-- How many ticks, and how many frames, go by from one log line about them to the next. -/
def logEvery : Nat := 60

/-- A pump for a session, before its first tick. -/
def new (session : String) (config : PumpSettings) : Pump where
  session := session
  display := config.display
  frames := { format := config.format }

/-- The log line about what the engine reported, on every sixtieth tick beginning with the first. -/
def traceReport (p : Pump) (r : Reported) : List Effect :=
  if p.ticks % logEvery = 1 then
    [.log (Log.trace ("frame data - size: " ++ toString r.size ++ ", width: " ++
      toString r.width ++ ", height: " ++ toString r.height))]
  else []

/-- The log line about the frames drawn, on every sixtieth. -/
def traceFrames (p : Pump) : List Effect :=
  if p.frameCount % logEvery = 0 then
    [.log (Log.debug ("rendered " ++ toString p.frameCount ++ " frames"))]
  else []

/-- The first half of a tick: asks for the frame's size, makes room for the frame, and calls for
the fetch. -/
def prepare (p : Pump) (a : Engine.Answers) : Prepared :=
  let p := { p with ticks := p.ticks + 1 }
  let query := a.query p.session
  let asked := query.calls.map Effect.engine
  match query.result with
  | .error e => ⟨.error (.ofQuery e), p, asked⟩
  | .ok reported =>
    let asked := asked ++ p.traceReport reported
    match reported.geometry? with
    | none => ⟨.ok .idle, p, asked⟩
    | some g =>
      match p.frames.fit g with
      | .error e => ⟨.error e, p, asked⟩
      | .ok (replaced, frames) =>
        ⟨.ok .ready, { p with frames },
          asked ++ (replaced.log g).map Effect.log ++
            [.engine (.fetch p.session p.display frames.bytes.size)]⟩

variable {T : Type} [Drawable T]

/-- The second half of a tick: the fetch comes back, and the frame is staged and presented. -/
def deliver (p : Pump) (s : Surface T) (f : Engine.Fetch) : Ticked T :=
  match p.frames.fill f with
  | (.panic, frames) => ⟨.panic, { p with frames }, s, []⟩
  | (.error e, frames) => ⟨.error e, { p with frames }, s, []⟩
  | (.ok (), frames) =>
    match frames.stage with
    | .error e => ⟨.error e, { p with frames }, s, []⟩
    | .ok (image, frames) =>
      let p := { p with frames }
      let done := s.present image
      match done.outcome with
      | .panic => ⟨.panic, p, done.surface, done.effects⟩
      | .error e => ⟨.error e, p, done.surface, done.effects⟩
      | .ok .dropped => ⟨.ok .dropped, p, done.surface, done.effects⟩
      | .ok .drawn =>
        let p := { p with frameCount := p.frameCount + 1 }
        ⟨.ok .presented, p, done.surface, done.effects ++ p.traceFrames⟩

/-- One tick with the engine's answers to it. -/
def tick (p : Pump) (s : Surface T) (a : Engine.Answers) : Ticked T :=
  let first := p.prepare a
  match first.verdict with
  | .error e => ⟨.error e, first.pump, s, first.effects⟩
  | .ok .idle => ⟨.ok .notReady, first.pump, s, first.effects⟩
  | .ok .ready =>
    let second := first.pump.deliver s a.fetch
    { second with effects := first.effects ++ second.effects }

end Pump

end DeskView
