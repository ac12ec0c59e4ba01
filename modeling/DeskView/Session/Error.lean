import DeskView.Engine.Error

/-!
# Session errors
-/

namespace DeskView

/-- Why a session could not be started. -/
inductive SessionError where
  /-- The remote id is empty. -/
  | invalidId
  /-- The engine binding is missing. -/
  | linkMissing (e : EngineError)
  /-- The engine refused to start the session. -/
  | startFailure (e : EngineError)
  /-- The session named has not ended yet. -/
  | alreadyActive (id : String)
  /-- The thread of the frame pump could not be created. -/
  | spawn (reason : String)
deriving Repr, DecidableEq

namespace SessionError

/-- The text shown to people. -/
def message : SessionError → String
  | .invalidId => "invalid remote id"
  | .linkMissing e => "engine link missing: " ++ e.message
  | .startFailure e => "connection failed: " ++ e.message
  | .alreadyActive id => "session " ++ id ++ " is already running"
  | .spawn reason => "failed to spawn frame pump: " ++ reason

/-- The text that shows how the error is built. -/
def debug : SessionError → String
  | .invalidId => "InvalidId"
  | .linkMissing e => "LinkMissing(" ++ e.debug ++ ")"
  | .startFailure e => "EngineStartFailure(" ++ e.debug ++ ")"
  | .alreadyActive id => "AlreadyActive(" ++ Text.quoted id ++ ")"
  | .spawn reason =>
    "Spawn(Custom \x7b kind: Other, error: " ++ Text.quoted reason ++ " \x7d)"

/-- A start that the engine failed: the binding is missing, or the engine refused. -/
def ofEngine (e : EngineError) : SessionError :=
  if e.isLinkMissing then .linkMissing e else .startFailure e

end SessionError

end DeskView
