import DeskView.Pump.Tick

/-!
# The render loop on a clock

The loop wakes up at `0`, `period`, `2 · period`, … milliseconds.  At each wake-up it looks at
the running flag and then ticks.  Between wake-ups the world goes on: `Scene.upTo` carries out
what is scheduled before a moment, in order of time, and the flag is cleared for good at the
deadline.

The loop ends in one of two ways (`LoopEnd`): the flag was found cleared at a wake-up, or a tick
found the link to the engine lost.  Every other failure costs one frame and a warning.
-/

namespace DeskView

/-- Why a render loop ended. -/
inductive LoopEnd where
  /-- It was told to stop. -/
  | cancelled
  /-- The engine binding disappeared. -/
  | linkLost (e : EngineError)
deriving Repr, DecidableEq

namespace LoopEnd

/-- The text that shows how the exit is built. -/
def debug : LoopEnd → String
  | .cancelled => "Cancelled"
  | .linkLost e => "LinkLost(" ++ e.debug ++ ")"

end LoopEnd

namespace Pump

/-- The log line at the start of a loop. -/
def logRunning (p : Pump) : Log.Record :=
  Log.info "frame pump running" [("session", p.session)]

/-- The log line at the end of a loop that was told to stop. -/
def logStopped (p : Pump) : Log.Record :=
  Log.info ("frame pump stopped after " ++ toString p.frameCount ++ " frames")
    [("session", p.session)]

/-- The log line about a lost link. -/
def logLinkLost (p : Pump) (e : EngineError) : Log.Record :=
  Log.error ("engine link lost: " ++ e.message) [("session", p.session)]

/-- The log line about a frame that failed. -/
def logFailed (p : Pump) (e : FrameError) : Log.Record :=
  Log.warn ("render error: " ++ e.message) [("session", p.session)]

/-- The pump with its running flag cleared. -/
def stop (p : Pump) : Pump := { p with running := false }

end Pump

/-- Something that happens beside a running pump. -/
inductive Action (T : Type) where
  /-- The window system reports a change. -/
  | surface (event : SurfaceEvent T)
  /-- Someone else presents an image. -/
  | present (image : Image)
  /-- The pump is told to stop. -/
  | stop
  /-- Nothing but a look at the pump. -/
  | look

/-- An action and the moment at which it happens. -/
structure Scheduled (T : Type) where
  time : Nat
  action : Action T

/-- A pump and its surface while time goes by. -/
structure Scene (T : Type) where
  pump : Pump
  surface : Surface T
  /-- After each scheduled action: how many frames were drawn, and the running flag. -/
  seen : List (Nat × Bool) := []
  /-- All that was done, in order. -/
  effects : List Effect := []

/-- A render loop that has ended. -/
structure Run (T : Type) where
  /-- Why it ended; `none` if a tick panicked. -/
  exit : Option LoopEnd
  /-- When it ended. -/
  time : Nat
  /-- What is left when everything scheduled has happened. -/
  scene : Scene T

namespace Scene

variable {T : Type} [Drawable T]

/-- The scene with more effects. -/
def note (s : Scene T) (effects : List Effect) : Scene T :=
  { s with effects := s.effects ++ effects }

/-- The scene after an action. -/
def act (s : Scene T) : Action T → Scene T
  | .surface event => { s with surface := s.surface.apply event }.note [.log event.log]
  | .present image =>
    let done := s.surface.present image
    { s with surface := done.surface }.note done.effects
  | .stop => { s with pump := s.pump.stop }
  | .look => s

/-- The scene with the flag cleared if the deadline is past. -/
def expire (s : Scene T) (isPast : Bool) : Scene T :=
  if isPast then { s with pump := s.pump.stop } else s

/-- The scene after a scheduled action, which is noted in `seen`.  What is scheduled for the
deadline itself happens before the flag is cleared. -/
def carryOut (s : Scene T) (deadline : Nat) (step : Scheduled T) : Scene T :=
  let s := (s.expire (deadline < step.time)).act step.action
  { s with seen := s.seen ++ [(s.pump.frameCount, s.pump.running)] }

/-- Carries out what is scheduled before `now`; answers the scene and what is still to come. -/
def upTo (deadline now : Nat) : List (Scheduled T) → Scene T → Scene T × List (Scheduled T)
  | [], s => (s.expire (deadline ≤ now), [])
  | step :: rest, s =>
    if step.time < now then upTo deadline now rest (s.carryOut deadline step)
    else (s.expire (deadline ≤ now), step :: rest)

/-- Carries out everything that is still scheduled. -/
def settle (deadline : Nat) (schedule : List (Scheduled T)) (s : Scene T) : Scene T :=
  schedule.foldl (fun s step => s.carryOut deadline step) s

/-- The loop from its `k`-th wake-up on, for at most `fuel` wake-ups. -/
def loop (period deadline : Nat) (answers : Nat → Engine.Answers) :
    (fuel k : Nat) → List (Scheduled T) → Scene T → Run T
  | 0, k, schedule, s => ⟨some .cancelled, k * period, s.settle deadline schedule⟩
  | fuel + 1, k, schedule, s =>
    let now := k * period
    let (s, rest) := s.upTo deadline now schedule
    if !s.pump.running then
      ⟨some .cancelled, now, (s.note [.log s.pump.logStopped]).settle deadline rest⟩
    else
      let ticked := s.pump.tick s.surface (answers k)
      let s := { s with pump := ticked.pump, surface := ticked.surface }.note ticked.effects
      match ticked.outcome with
      | .ok _ => loop period deadline answers fuel (k + 1) rest s
      | .error (.linkLost e) =>
        let s := { s with pump := s.pump.stop }.note [.log (s.pump.logLinkLost e)]
        ⟨some (.linkLost e), now, s.settle deadline rest⟩
      | .error e =>
        loop period deadline answers fuel (k + 1) rest (s.note [.log (s.pump.logFailed e)])
      | .panic => ⟨none, now, s.settle deadline rest⟩

/-- The number of wake-ups after which the deadline is past. -/
def wakeUps (period deadline : Nat) : Nat := deadline / period + 2

end Scene

namespace Pump

variable {T : Type} [Drawable T]

/-- Runs the loop of a pump with the given period until it is told to stop, at the deadline at the
latest, or loses the link.  `answers k` is what the engine answers to the `k`-th tick. -/
def run (p : Pump) (s : Surface T) (period deadline : Nat) (answers : Nat → Engine.Answers)
    (schedule : List (Scheduled T)) : Run T :=
  Scene.loop period deadline answers (Scene.wakeUps period deadline) 0 schedule
    { pump := p, surface := s, effects := [.log p.logRunning] }

end Pump

end DeskView
