import DeskView.Surface.Canvas

/-!
# Stand-in targets

A `Recorder` is a draw target that shows nothing: it only reports its size, and it can be told to
fail or to panic at one of the three calls.  A `StandIn` is a recorder or an in-memory canvas, for
surfaces that see both.
-/

namespace DeskView

/-- One of the calls of a transaction. -/
inductive TargetStage where
  | begin
  | draw
  | commit
deriving Repr, DecidableEq

/-- What a call does instead of succeeding. -/
structure Fault where
  stage : TargetStage
  /-- The error it reports; `none` for a panic. -/
  error : Option FrameError
  /-- How many more times it does so; `none` for always. -/
  times : Option Nat := none
deriving Repr, DecidableEq

/-- A target that shows nothing. -/
structure Recorder where
  width : UInt32
  height : UInt32
  fault : Option Fault := none
deriving Repr, DecidableEq

namespace Fault

/-- The fault after it has struck once; `none` when it will not strike again. -/
def struck (f : Fault) : Option Fault :=
  match f.times with
  | none => some f
  | some n => if n ≤ 1 then none else some { f with times := some (n - 1) }

/-- Whether the fault strikes at a stage. -/
def strikes (f : Fault) (stage : TargetStage) : Bool :=
  f.stage = stage && f.times != some 0

/-- What the call answers when the fault strikes. -/
def outcome {α : Type} (f : Fault) : Outcome FrameError α :=
  match f.error with
  | some e => .error e
  | none => .panic

end Fault

namespace Recorder

/-- A call at a stage that answers `value` unless the fault strikes. -/
def call {α : Type} (r : Recorder) (stage : TargetStage) (value : α) :
    Outcome FrameError α × Recorder :=
  match r.fault with
  | some fault =>
    if fault.strikes stage then (fault.outcome, { r with fault := fault.struck })
    else (.ok value, r)
  | none => (.ok value, r)

instance : Drawable Recorder where
  begin r := r.call .begin (r.width, r.height)
  draw r _ _ _ := r.call .draw ()
  commit r := r.call .commit ()

end Recorder

/-- An in-memory canvas or a recorder. -/
inductive StandIn where
  | memory (target : MemoryTarget)
  | recorder (recorder : Recorder)
deriving Repr, DecidableEq

namespace StandIn

instance : Drawable StandIn where
  begin
    | .memory t => (Drawable.begin t).map id .memory
    | .recorder r => (Drawable.begin r).map id .recorder
  draw
    | .memory t, image, src, dst => (Drawable.draw t image src dst).map id .memory
    | .recorder r, image, src, dst => (Drawable.draw r image src dst).map id .recorder
  commit
    | .memory t => (Drawable.commit t).map id .memory
    | .recorder r => (Drawable.commit r).map id .recorder

/-- The canvas that a target shows; a recorder shows none. -/
def front? : StandIn → Option Canvas
  | .memory t => some t.front
  | .recorder _ => none

end StandIn

end DeskView
