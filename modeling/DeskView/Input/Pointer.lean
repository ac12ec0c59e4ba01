import DeskView.Input.Event
import DeskView.Window

/-!
# Following the pointer

A `Pointer` turns window events into input events.  It remembers the size of the window, where the
pointer was last seen, and how many buttons are down: a gesture that loses the mouse is cancelled
only if there was one.
-/

namespace DeskView

/-- What has to be remembered from one window event to the next. -/
structure Pointer where
  width : UInt32 := 0
  height : UInt32 := 0
  /-- Where the pointer was last seen. -/
  lastX : Int32 := 0
  lastY : Int32 := 0
  /-- How many presses are not yet followed by a release; it never leaves the range of a byte. -/
  pressed : UInt8 := 0
deriving Repr, DecidableEq

namespace Pointer

/-- One more button is down. -/
def press (t : Pointer) : Pointer :=
  { t with pressed := if t.pressed = 255 then 255 else t.pressed + 1 }

/-- One button less is down. -/
def release (t : Pointer) : Pointer :=
  { t with pressed := if t.pressed = 0 then 0 else t.pressed - 1 }

/-- The pointer was seen at a place. -/
def seenAt (t : Pointer) (x y : Int32) : Pointer := { t with lastX := x, lastY := y }

/-- An input event at the place where the pointer was last seen. -/
def event (t : Pointer) (action : PointerAction) (time : UInt64) : InputEvent :=
  .atPixel action (InputEvent.coordinate t.lastX) (InputEvent.coordinate t.lastY)
    t.width t.height time

/-- The input event for a window event, if it is one. -/
def follow (t : Pointer) (e : WindowEvent) (time : UInt64) :
    Option InputEvent × Pointer :=
  match e with
  | .resize width height => (none, { t with width, height })
  | .move x y =>
    let t := t.seenAt x y
    (some (t.event .move time), t)
  | .button _ true x y =>
    let t := (t.seenAt x y).press
    (some (t.event .down time), t)
  | .button _ false x y =>
    let t := (t.seenAt x y).release
    (some (t.event .up time), t)
  | .wheel _ => (some (t.event .scroll time), t)
  | .captureLost =>
    if 0 < t.pressed then (some (t.event .cancel time), { t with pressed := 0 }) else (none, t)
  | .minimized => (none, t)
  | .close => (none, t)

end Pointer

end DeskView
