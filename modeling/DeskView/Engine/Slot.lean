import DeskView.Engine.Call
import DeskView.Log

/-!
# The engine of the process

A process has at most one engine.  `Slot.install` initialises the engine it is offered and keeps it
if that succeeds; once there is one, no other is even asked.
-/

namespace DeskView.Engine

/-- The place for the one engine of a process. -/
structure Slot (E : Type) where
  engine? : Option E := none
deriving Repr

/-- An attempt to install an engine: its answer, the slot afterwards, whether the engine that was
offered was asked to initialise itself, and the lines logged. -/
structure Installation (E : Type) where
  result : Except EngineError E
  slot : Slot E
  asked : Bool
  log : List Log.Record

namespace Slot

variable {E : Type}

/-- Whether there is an engine. -/
def isInstalled (s : Slot E) : Bool := s.engine?.isSome

/-- The engine. -/
def get (s : Slot E) : Except EngineError E :=
  match s.engine? with
  | some engine => .ok engine
  | none => .error .notInitialized

/-- Offers an engine whose initialisation answers `init`. -/
def install (s : Slot E) (engine : E) (init : Except EngineError Unit) : Installation E :=
  match s.engine? with
  | some _ => ⟨.error .alreadyInitialized, s, false, []⟩
  | none =>
    match init with
    | .error e => ⟨.error e, s, true, []⟩
    | .ok () => ⟨.ok engine, ⟨some engine⟩, true, [Log.info "engine initialised"]⟩

end Slot

end DeskView.Engine
