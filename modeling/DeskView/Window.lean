/-!
# Windows

What a window's message loop reports, and what that means for the surface: a window that can be
drawn on has a surface, and minimising or closing it takes the surface away.
-/

namespace DeskView

/-- A button of the mouse. -/
inductive MouseButton where
  | left
  | right
  | middle
deriving Repr, DecidableEq

/-- What a window reports. -/
inductive WindowEvent where
  /-- The window is to be closed. -/
  | close
  /-- The client area has a new size. -/
  | resize (width height : UInt32)
  /-- The window was minimised. -/
  | minimized
  /-- The mouse moved to a place in the client area. -/
  | move (x y : Int32)
  /-- A button was pressed or released at a place. -/
  | button (which : MouseButton) (pressed : Bool) (x y : Int32)
  /-- The wheel turned. -/
  | wheel (delta : Int16)
  /-- The mouse was taken away in the middle of a gesture. -/
  | captureLost
deriving Repr, DecidableEq

/-- The size that the window reports. -/
def WindowEvent.size? : WindowEvent → Option (UInt32 × UInt32)
  | .resize width height => some (width, height)
  | _ => none

/-- A step to be taken with the surface. -/
inductive SurfaceStep where
  /-- Bind a new target. -/
  | create
  /-- The target has this size. -/
  | resize (width height : UInt32)
  /-- Let the target go. -/
  | destroy
deriving Repr, DecidableEq

namespace SurfaceStep

/-- The text that shows how the step is built. -/
def debug : SurfaceStep → String
  | .create => "Create"
  | .resize width height => "Resize(" ++ toString width ++ ", " ++ toString height ++ ")"
  | .destroy => "Destroy"

end SurfaceStep

/-- Whether a window has a surface now. -/
structure WindowSurface where
  bound : Bool := false
deriving Repr, DecidableEq

namespace WindowSurface

/-- The window can no longer be drawn on. -/
def lose (l : WindowSurface) : List SurfaceStep × WindowSurface :=
  if l.bound then ([.destroy], ⟨false⟩) else ([], l)

/-- The steps that a window event asks for. -/
def onEvent (l : WindowSurface) : WindowEvent → List SurfaceStep × WindowSurface
  | .resize width height =>
    if 0 < width ∧ 0 < height then
      (if l.bound then [.resize width height] else [.create, .resize width height], ⟨true⟩)
    else l.lose
  | .minimized => l.lose
  | .close => l.lose
  | _ => ([], l)

end WindowSurface

end DeskView
