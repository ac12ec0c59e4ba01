import DeskView.Input.Queue
import DeskView.Pump.Settings
import DeskView.Session.Credentials

/-!
# Settings of the viewer

The settings come in five groups, each with defaults, so that a file need only say what is
different.
-/

namespace DeskView

/-- The session to open. -/
structure SessionSettings where
  /-- The peer; empty if it must be given on the command line. -/
  remoteId : String := ""
  mode : SessionMode := .interactive
deriving Repr, DecidableEq

/-- How frames are pulled and drawn.  Times are in milliseconds. -/
structure RenderSettings where
  tick : UInt64 := 16
  stopTimeout : UInt64 := 1000
  display : UInt32 := 0
  scale : ScaleMode := .stretch
  format : PixelFormat := .rgba8
deriving Repr, DecidableEq

/-- The window, or the canvas in its place. -/
structure DisplaySettings where
  width : UInt32 := 1280
  height : UInt32 := 720
  title : String := "Remote Desktop"
  /-- Whether to draw in memory and not in a window. -/
  headless : Bool := false
deriving Repr, DecidableEq

/-- What is done with input. -/
structure InputSettings where
  capturePointer : Bool := true
  /-- How many events may wait. -/
  queueCapacity : UInt64 := .ofNat InputQueue.defaultCapacity
deriving Repr, DecidableEq

/-- What is logged. -/
structure LoggingSettings where
  /-- Which records are logged, if the environment does not say. -/
  level : String := "info"
deriving Repr, DecidableEq

/-- All settings. -/
structure Settings where
  session : SessionSettings := {}
  render : RenderSettings := {}
  display : DisplaySettings := {}
  input : InputSettings := {}
  logging : LoggingSettings := {}
deriving Repr, DecidableEq

namespace Settings

/-- The shortest and the longest time between two ticks that a pump is run with. -/
def tickRange : UInt64 × UInt64 := (1, 1000)

/-- The shortest time that a stop waits. -/
def minStopTimeout : UInt64 := 50

/-- `v`, or the nearer bound if it lies outside. -/
def clamp (bounds : UInt64 × UInt64) (v : UInt64) : UInt64 :=
  if v < bounds.1 then bounds.1 else if bounds.2 < v then bounds.2 else v

/-- What the frame pump is run with: times out of range are brought into it. -/
def pumpSettings (s : Settings) : PumpSettings where
  tick := clamp tickRange s.render.tick
  display := s.render.display
  stopTimeout := max s.render.stopTimeout minStopTimeout
  scale := s.render.scale
  format := s.render.format

end Settings

end DeskView
