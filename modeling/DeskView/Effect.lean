import DeskView.Engine.Call
import DeskView.Log
import DeskView.Surface.Target

/-!
# Effects

What a step of the viewer does to the world around it, as data: a step answers the list of its
effects, in the order in which they happen.
-/

namespace DeskView

/-- One thing that is done to the outside. -/
inductive Effect where
  /-- A call into the engine. -/
  | engine (call : Engine.Call)
  /-- A call on the target of that number. -/
  | target (id : Nat) (call : TargetCall)
  /-- A line for the log. -/
  | log (record : Log.Record)
deriving Repr, DecidableEq

namespace Effect

/-- The engine call, if the effect is one. -/
def engineCall? : Effect → Option Engine.Call
  | .engine call => some call
  | _ => none

/-- The target call and the target's number, if the effect is one. -/
def targetCall? : Effect → Option (Nat × TargetCall)
  | .target id call => some (id, call)
  | _ => none

/-- The log record, if the effect is one. -/
def record? : Effect → Option Log.Record
  | .log record => some record
  | _ => none

/-- The engine calls among some effects. -/
def engineCalls (effects : List Effect) : List Engine.Call := effects.filterMap engineCall?

/-- The target calls among some effects. -/
def targetCalls (effects : List Effect) : List (Nat × TargetCall) := effects.filterMap targetCall?

/-- The log records among some effects. -/
def records (effects : List Effect) : List Log.Record := effects.filterMap record?

end Effect

end DeskView
