import DeskView.Effect
import DeskView.Surface.Scale

/-!
# The surface

The window system creates, resizes and destroys what can be drawn on.  A `Surface` follows these
events: it holds at most one bound target, and a frame is presented on that one or dropped.

Every target that was ever bound stays in `targets`, numbered in order of creation, so that what
was shown can still be looked at after the target has been let go; `handle` is the number of the
one that is bound.
-/

namespace DeskView

/-- What the window system tells about the surface. -/
inductive SurfaceEvent (T : Type) where
  /-- There is a new target to draw on. -/
  | created (target : T)
  /-- The surface has a new size and format. -/
  | changed (width height : UInt32) (format : PixelFormat)
  /-- The target must not be used any more. -/
  | destroyed
deriving Repr

namespace SurfaceEvent

variable {T : Type}

/-- The event's text in a diagnostic. -/
def debug : SurfaceEvent T → String
  | .created _ => "Created"
  | .changed width height format =>
    "Changed(" ++ toString width ++ "x" ++ toString height ++ ", " ++ format.label ++ ")"
  | .destroyed => "Destroyed"

/-- The log record of the event. -/
def log : SurfaceEvent T → Log.Record
  | .created _ => Log.info "surface created"
  | .changed width height format =>
    Log.debug ("surface changed: " ++ toString width ++ "x" ++ toString height ++
      ", format=" ++ format.label)
  | .destroyed => Log.info "surface destroyed"

end SurfaceEvent

/-- What became of a frame that was handed to the surface. -/
inductive Presentation where
  /-- It was drawn and committed. -/
  | drawn
  /-- Nothing was there to draw on. -/
  | dropped
deriving Repr, DecidableEq

/-- The surface, and the targets that were bound to it so far. -/
structure Surface (T : Type) where
  scale : ScaleMode
  /-- Whether there is something to draw on. -/
  valid : Bool := false
  /-- The number of the bound target. -/
  handle : Option Nat := none
  width : UInt32 := 0
  height : UInt32 := 0
  targets : Array T := #[]

/-- A frame that was presented: the outcome, the surface afterwards, and the calls made on its
targets, each with the target's number. -/
structure Presented (T : Type) where
  outcome : Outcome FrameError Presentation
  surface : Surface T
  calls : List (Nat × TargetCall)

/-- The target calls of a presented frame, as effects. -/
def Presented.effects {T : Type} (c : Presented T) : List Effect :=
  c.calls.map fun (id, call) => .target id call

namespace Surface

variable {T : Type}

/-- The surface's text in a diagnostic. -/
def debug (s : Surface T) : String :=
  "SurfaceBinder \x7b valid: " ++ toString s.valid ++ ", width: " ++ toString s.width ++
    ", height: " ++ toString s.height ++ ", scale: " ++ s.scale.label ++ " \x7d"

/-- The surface after an event. -/
def apply (s : Surface T) : SurfaceEvent T → Surface T
  | .created target =>
    { s with valid := true, handle := some s.targets.size, targets := s.targets.push target }
  | .changed width height _ => { s with width, height }
  | .destroyed => { s with valid := false, handle := none }

/-- The bound target and its number. -/
def bound? (s : Surface T) : Option (Nat × T) :=
  match s.handle with
  | none => none
  | some id => (s.targets[id]?).map fun target => (id, target)

/-- The size that frames are scaled to: that of the last change if both its sides are positive, else
the canvas's own. -/
def extent (s : Surface T) (canvas : UInt32 × UInt32) : UInt32 × UInt32 :=
  if 0 < s.width ∧ 0 < s.height then (s.width, s.height) else canvas

/-- The part of the surface that a frame covers. -/
def place (s : Surface T) (image : Image) (canvas : UInt32 × UInt32) : Rect :=
  let (width, height) := s.extent canvas
  s.scale.destination image.width image.height width height

/-- Draws a frame on the bound target, or drops it if none is bound. -/
def present [Drawable T] (s : Surface T) (image : Image) : Presented T :=
  if !s.valid then ⟨.ok .dropped, s, []⟩
  else
    match s.bound? with
    | none => ⟨.ok .dropped, s, []⟩
    | some (id, target) =>
      let done := Drawable.transact target image (s.place image)
      let surface := { s with targets := s.targets.setIfInBounds id done.target }
      let calls := done.calls.map fun call => (id, call)
      match done.outcome with
      | .ok () => ⟨.ok .drawn, surface, calls⟩
      | .error e => ⟨.error e, surface, calls⟩
      | .panic => ⟨.panic, surface, calls⟩

end Surface

end DeskView
