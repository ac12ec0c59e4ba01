import DeskView.Text.Quoted

/-!
# Engine errors

What a call into the remote-desktop engine can report.  `EngineError.message` is the text for
people, `EngineError.debug` the one that shows how the error is built.
-/

namespace DeskView

/-- A failure of an engine call. -/
inductive EngineError where
  /-- The native binding, or the entry point named, is absent. -/
  | linkMissing (symbol : String)
  /-- The engine refused the request. -/
  | rejected (reason : String)
  /-- The call reached the engine and did not complete. -/
  | failed (reason : String)
  /-- The binding is there but lacks this entry point. -/
  | unsupported (entry : String)
  /-- The process already has its engine. -/
  | alreadyInitialized
  /-- The process has no engine yet. -/
  | notInitialized
deriving Repr, DecidableEq

namespace EngineError

/-- The text shown to people. -/
def message : EngineError → String
  | .linkMissing symbol => "engine binding missing: " ++ symbol
  | .rejected reason => "engine rejected request: " ++ reason
  | .failed reason => "engine call failed: " ++ reason
  | .unsupported entry => "engine entry point not supported: " ++ entry
  | .alreadyInitialized => "engine already initialised"
  | .notInitialized => "engine not initialised"

/-- The text that shows how the error is built. -/
def debug : EngineError → String
  | .linkMissing symbol => "LinkMissing(" ++ Text.quoted symbol ++ ")"
  | .rejected reason => "Rejected(" ++ Text.quoted reason ++ ")"
  | .failed reason => "Failed(" ++ Text.quoted reason ++ ")"
  | .unsupported entry => "Unsupported(" ++ Text.quoted entry ++ ")"
  | .alreadyInitialized => "AlreadyInitialized"
  | .notInitialized => "NotInitialized"

/-- Whether the binding itself is gone, so that no later call can succeed. -/
def isLinkMissing : EngineError → Bool
  | .linkMissing _ => true
  | _ => false

end EngineError

end DeskView
