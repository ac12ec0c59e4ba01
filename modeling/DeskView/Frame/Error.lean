import DeskView.Engine.Error

/-!
# Render errors

What can go wrong while one frame is queried, fetched, staged and drawn.  Only a lost link is
fatal; any other error costs the one frame.
-/

namespace DeskView

/-- A failure while a frame is on its way to the screen. -/
inductive FrameError where
  /-- The engine binding disappeared. -/
  | linkLost (e : EngineError)
  /-- The engine could not tell the frame's size. -/
  | query (e : EngineError)
  /-- The engine could not hand out the pixels. -/
  | fetch (e : EngineError)
  /-- The frame has fewer bytes than its width and height need. -/
  | tooShort (expected actual : Nat)
  /-- No successful fetch has filled the buffer. -/
  | notFetched
  /-- The draw target failed. -/
  | draw (reason : String)
deriving Repr, DecidableEq

namespace FrameError

/-- The text shown to people. -/
def message : FrameError → String
  | .linkLost e => "engine link lost: " ++ e.message
  | .query e => "frame query failed: " ++ e.message
  | .fetch e => "frame fetch failed: " ++ e.message
  | .tooShort expected actual =>
    "frame decode failed: need " ++ toString expected ++ " bytes, have " ++ toString actual
  | .notFetched => "frame buffer not filled"
  | .draw reason => "draw failed: " ++ reason

/-- The text that shows how the error is built. -/
def debug : FrameError → String
  | .linkLost e => "LinkLost(" ++ e.debug ++ ")"
  | .query e => "Query(" ++ e.debug ++ ")"
  | .fetch e => "Fetch(" ++ e.debug ++ ")"
  | .tooShort expected actual =>
    "Decode \x7b expected: " ++ toString expected ++ ", actual: " ++ toString actual ++ " \x7d"
  | .notFetched => "NotFetched"
  | .draw reason => "Draw(" ++ Text.quoted reason ++ ")"

/-- Whether the error ends the render loop. -/
def isFatal : FrameError → Bool
  | .linkLost _ => true
  | _ => false

/-- A failed size query: the link is lost, or this query failed. -/
def ofQuery (e : EngineError) : FrameError :=
  if e.isLinkMissing then .linkLost e else .query e

/-- A failed fetch: the link is lost, or this fetch failed. -/
def ofFetch (e : EngineError) : FrameError :=
  if e.isLinkMissing then .linkLost e else .fetch e

end FrameError

end DeskView
