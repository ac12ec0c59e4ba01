/-!
# Log records

A record has a level, a message and named fields; `Record.line` writes it on one line, the fields
after the message in the order in which they were given.
-/

namespace DeskView.Log

/-- How important a record is; a later level is more important. -/
inductive Level where
  | trace
  | debug
  | info
  | warn
  | error
deriving Repr, DecidableEq

namespace Level

/-- The level's name as it stands in a line. -/
def name : Level → String
  | .trace => "TRACE"
  | .debug => "DEBUG"
  | .info => "INFO"
  | .warn => "WARN"
  | .error => "ERROR"

/-- The levels in order of importance, `trace` lowest. -/
def rank : Level → Nat
  | .trace => 0
  | .debug => 1
  | .info => 2
  | .warn => 3
  | .error => 4

end Level

/-- One line of the log. -/
structure Record where
  level : Level
  message : String
  /-- Names and values, in the order in which they are written. -/
  fields : List (String × String) := []
deriving Repr, DecidableEq

namespace Record

/-- `LEVEL message name=value name=value`. -/
def line (r : Record) : String :=
  r.fields.foldl (fun text field => text ++ " " ++ field.1 ++ "=" ++ field.2)
    (r.level.name ++ " " ++ r.message)

end Record

/-- A record at level `trace`. -/
def trace (message : String) (fields : List (String × String) := []) : Record :=
  ⟨.trace, message, fields⟩

/-- A record at level `debug`. -/
def debug (message : String) (fields : List (String × String) := []) : Record :=
  ⟨.debug, message, fields⟩

/-- A record at level `info`. -/
def info (message : String) (fields : List (String × String) := []) : Record :=
  ⟨.info, message, fields⟩

/-- A record at level `warn`. -/
def warn (message : String) (fields : List (String × String) := []) : Record :=
  ⟨.warn, message, fields⟩

/-- A record at level `error`. -/
def error (message : String) (fields : List (String × String) := []) : Record :=
  ⟨.error, message, fields⟩

end DeskView.Log
