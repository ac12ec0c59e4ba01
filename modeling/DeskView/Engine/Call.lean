import DeskView.Outcome
import DeskView.Engine.Error
import DeskView.Frame.Geometry

/-!
# Calls into the engine

`Engine.Call` is a call as it is made, `Engine.Answers` what the engine answers while one frame is
pulled.  A fetch writes into a buffer it is handed: `Engine.Fetch.byte` says what byte it leaves at
each place, so that it can leave anything there but never change the buffer's length.
-/

namespace DeskView.Engine

/-- A call into the engine, with its arguments. -/
inductive Call where
  /-- Initialise the engine, once per process. -/
  | init
  /-- Open a session. -/
  | start (id password : String)
  /-- Release a session. -/
  | stop (id : String)
  /-- Ask for the bytes of the current frame. -/
  | size (id : String)
  /-- Ask for the width of the current frame. -/
  | width (id : String)
  /-- Ask for the height of the current frame. -/
  | height (id : String)
  /-- Fetch the current frame of a display into a buffer of `length` bytes. -/
  | fetch (id : String) (display : UInt32) (length : Nat)
  /-- Deliver an encoded input event. -/
  | inject (id : String) (payload : List UInt8)
deriving Repr, DecidableEq

/-- What the engine does when it is told to fetch a frame. -/
structure Fetch where
  /-- The byte left at a place of the buffer, given the buffer as it was. -/
  byte : Array UInt8 → Nat → UInt8
  /-- How the call ends. -/
  outcome : Outcome EngineError Unit
  /-- Whether the call blocks before it does anything. -/
  blocks : Bool := false

namespace Fetch

/-- The buffer as the fetch leaves it, whether it succeeds or not. -/
def paint (f : Fetch) (buffer : Array UInt8) : Array UInt8 :=
  buffer.mapIdx fun i _ => f.byte buffer i

@[simp]
theorem size_paint (f : Fetch) (buffer : Array UInt8) : (f.paint buffer).size = buffer.size := by
  simp [paint]

/-- A fetch that leaves the buffer alone and succeeds. -/
def untouched : Fetch where
  byte buffer i := buffer.getD i 0
  outcome := .ok ()

end Fetch

/-- What the engine answers while one frame is pulled. -/
structure Answers where
  size : Except EngineError Int32
  width : Except EngineError Int32
  height : Except EngineError Int32
  fetch : Fetch

namespace Answers

/-- The answers of an engine that has no frame. -/
def idle : Answers := ⟨.ok 0, .ok 0, .ok 0, .untouched⟩

end Answers

/-- The three size queries: the calls that were made, and what they came to. -/
structure Query where
  calls : List Call
  result : Except EngineError Reported

/-- Asks for size, width and height, in this order; the first failure ends the questions. -/
def Answers.query (a : Answers) (id : String) : Query :=
  match a.size with
  | .error e => ⟨[.size id], .error e⟩
  | .ok size =>
    match a.width with
    | .error e => ⟨[.size id, .width id], .error e⟩
    | .ok width =>
      match a.height with
      | .error e => ⟨[.size id, .width id, .height id], .error e⟩
      | .ok height => ⟨[.size id, .width id, .height id], .ok ⟨size, width, height⟩⟩

end DeskView.Engine
