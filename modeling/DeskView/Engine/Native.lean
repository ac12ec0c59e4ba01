import DeskView.Engine.Call
import DeskView.Text.Terminated

/-!
# The native engine

The engine proper is a foreign library.  Its functions take texts that end at the first zero, and a
display as a signed word, and most of them answer a status code of which zero means success.  The
binding turns engine calls into foreign calls (`Native.foreign`) and codes into results
(`Native.interpret`).  A call whose arguments cannot be passed unchanged is rejected and not made.

Without the library the binding is there all the same, and every call finds its function missing.
-/

namespace DeskView.Engine

/-- A call of a foreign function, with its arguments as they are passed. -/
inductive ForeignCall where
  | init
  | start (id password : Text.Terminated)
  | stop (id : Text.Terminated)
  | size (id : Text.Terminated)
  | width (id : Text.Terminated)
  | height (id : Text.Terminated)
  | fetch (id : Text.Terminated) (display : Int32) (length : Nat)
  | inject (id : Text.Terminated) (payload : List UInt8)
deriving Repr, DecidableEq

/-- The foreign library: the code that each function answers, and the byte that the fetch leaves at
each place of the buffer. -/
structure Library where
  code : ForeignCall → Int32
  byte : ForeignCall → Array UInt8 → Nat → UInt8

/-- The native engine, with the library or without it. -/
inductive Native where
  | linked (library : Library)
  | unlinked

/-- The value of an engine call that succeeded. -/
inductive NativeValue where
  /-- Nothing but the success. -/
  | done
  /-- The number that was asked for. -/
  | number (n : Int32)
deriving Repr, DecidableEq

/-- A call of the native engine: its result, the foreign calls that were made, and the buffer
afterwards, which only a fetch has. -/
structure NativeCall where
  result : Except EngineError NativeValue
  foreign : List ForeignCall := []
  buffer : Array UInt8 := #[]

namespace Native

/-- The name of the foreign function behind an engine call. -/
def symbol : Call → String
  | .init => "rdv_engine_init"
  | .start _ _ => "rdv_session_start"
  | .stop _ => "rdv_session_stop"
  | .size _ => "rdv_frame_size"
  | .width _ => "rdv_frame_width"
  | .height _ => "rdv_frame_height"
  | .fetch _ _ _ => "rdv_fetch_frame"
  | .inject _ _ => "rdv_inject_input"

/-- A string as a foreign function reads it, which takes one with no NUL inside. -/
def passable (s : String) : Except EngineError Text.Terminated :=
  match Text.Terminated.ofString? s with
  | some t => .ok t
  | none => .error (.rejected "string contains NUL")

/-- A display that a foreign function can read: it fits a signed word. -/
def passableDisplay (display : UInt32) : Except EngineError Int32 :=
  if 0 ≤ display.toInt32 then .ok display.toInt32
  else .error (.rejected ("display " ++ toString display ++ " out of range"))

/-- The foreign call for an engine call, or why its arguments cannot be passed. -/
def foreign : Call → Except EngineError ForeignCall
  | .init => .ok .init
  | .start id password => do return .start (← passable id) (← passable password)
  | .stop id => do return .stop (← passable id)
  | .size id => do return .size (← passable id)
  | .width id => do return .width (← passable id)
  | .height id => do return .height (← passable id)
  | .fetch id display length => do
    return .fetch (← passable id) (← passableDisplay display) length
  | .inject id payload => do return .inject (← passable id) payload

/-- A status code that means success or a refusal. -/
def check (symbol : String) (code : Int32) : Except EngineError NativeValue :=
  if code = 0 then .ok .done
  else .error (.rejected (symbol ++ " returned " ++ toString code))

/-- The result of a foreign call that answered `code`. -/
def interpret (call : Call) (code : Int32) : Except EngineError NativeValue :=
  match call with
  | .init => .ok .done
  | .start _ _ | .stop _ | .inject _ _ => check (symbol call) code
  | .size _ | .width _ | .height _ => .ok (.number code)
  | .fetch _ _ _ =>
    if code = 0 then .ok .done
    else .error (.failed (symbol call ++ " returned " ++ toString code))

/-- What a call leaves in its buffer when the foreign function writes there. -/
def written (library : Library) (call : ForeignCall) (buffer : Array UInt8) : Array UInt8 :=
  match call with
  | .fetch _ _ _ => buffer.mapIdx fun i _ => library.byte call buffer i
  | _ => buffer

/-- A call of the engine; `buffer` is what a fetch is to fill. -/
def perform (engine : Native) (call : Call) (buffer : Array UInt8) : NativeCall :=
  match engine with
  | .unlinked => { result := .error (.linkMissing (symbol call)), buffer }
  | .linked library =>
    match foreign call with
    | .error e => { result := .error e, buffer }
    | .ok made =>
      { result := interpret call (library.code made)
        foreign := [made]
        buffer := written library made buffer }

/-- The result of a call that answers nothing but success. -/
def done (c : NativeCall) : Except EngineError Unit := c.result.map fun _ => ()

/-- The number that a query answers. -/
def number (c : NativeCall) : Except EngineError Int32 :=
  c.result.map fun
    | .number n => n
    | .done => 0

/-- The byte that a fetch leaves at a place of the buffer. -/
def left (engine : Native) (call : Call) (buffer : Array UInt8) (i : Nat) : UInt8 :=
  match engine with
  | .unlinked => buffer.getD i 0
  | .linked library =>
    match foreign call with
    | .error _ => buffer.getD i 0
    | .ok made => library.byte made buffer i

/-- What the engine answers while a frame of a display is pulled for a session.  The buffer of the
fetch has the size that the engine reported. -/
def answers (engine : Native) (id : String) (display : UInt32) : Answers :=
  let size := number (engine.perform (.size id) #[])
  let length := match size with
    | .ok n => n.toInt.toNat
    | .error _ => 0
  { size
    width := number (engine.perform (.width id) #[])
    height := number (engine.perform (.height id) #[])
    fetch := {
      byte := engine.left (.fetch id display length)
      outcome := .ofExcept (done (engine.perform (.fetch id display length) #[])) } }

end Native

end DeskView.Engine
