import DeskView.Engine.Call

/-!
# Scripted answers

A script stands in for an engine: it lists what is answered while one frame after the other is
pulled.  When the list is used up its last entry stays; an empty script has no frame at all.
-/

namespace DeskView.Engine

/-- What an engine answers, frame by frame. -/
abbrev Script := List Answers

namespace Script

/-- The answers while the `k`-th frame is pulled, counted from zero. -/
def answers (script : Script) (k : Nat) : Answers :=
  (script[k]?).getD (script.getLast?.getD .idle)

/-- The answers that hold after `k` frames were asked for; before the first there is no frame. -/
def current (script : Script) : (k : Nat) → Answers
  | 0 => .idle
  | k + 1 => script.answers k

end Script

end DeskView.Engine
