import DeskView.Outcome
import DeskView.Frame.Error
import DeskView.Frame.Image
import DeskView.Surface.Rect

/-!
# Draw targets

A draw target takes frames in transactions: `begin`, `draw`, `commit`.  Any of the three calls may
fail or panic, and each leaves the target in some next state.  `Drawable.transact` runs one whole
transaction: each call is made only if the one before it succeeded, and the first failure is the
answer.
-/

namespace DeskView

/-- A call made on a draw target. -/
inductive TargetCall where
  /-- Open a transaction and report the size of the canvas. -/
  | begin
  /-- Draw the part `src` of `image` onto the part `dst` of the canvas. -/
  | draw (image : Image) (src dst : Rect)
  /-- Show what was drawn. -/
  | commit
deriving Repr, DecidableEq

/-- States of something that can be drawn on, with what each call answers and the state after it. -/
class Drawable (T : Type) where
  /-- Opens a transaction; answers the width and height of the canvas. -/
  begin : T → Outcome FrameError (UInt32 × UInt32) × T
  /-- Draws the part `src` of an image onto the part `dst` of the canvas. -/
  draw : T → Image → Rect → Rect → Outcome FrameError Unit × T
  /-- Shows what was drawn. -/
  commit : T → Outcome FrameError Unit × T

/-- A transaction that was run: its outcome, the target afterwards, and the calls that were made. -/
structure Transaction (T : Type) where
  outcome : Outcome FrameError Unit
  target : T
  calls : List TargetCall

namespace Drawable

variable {T : Type} [Drawable T]

/-- Draws the whole of `image` in one transaction; `place` chooses the destination from the size of
the canvas. -/
def transact (target : T) (image : Image) (place : UInt32 × UInt32 → Rect) : Transaction T :=
  match begin target with
  | (.panic, target) => ⟨.panic, target, [.begin]⟩
  | (.error e, target) => ⟨.error e, target, [.begin]⟩
  | (.ok canvas, target) =>
    let src := Rect.sized image.width image.height
    let dst := place canvas
    match draw target image src dst with
    | (.panic, target) => ⟨.panic, target, [.begin, .draw image src dst]⟩
    | (.error e, target) => ⟨.error e, target, [.begin, .draw image src dst]⟩
    | (.ok (), target) =>
      let (outcome, target) := commit target
      ⟨outcome, target, [.begin, .draw image src dst, .commit]⟩

end Drawable

end DeskView
