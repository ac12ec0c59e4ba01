import DeskView.Document.Real
import DeskView.Text.Quoted

/-!
# Self-describing documents

A `Document` is a value as a settings file or a message holds it, before anything is known about
what it should mean.  `Document.describe` names a value in an error message.
-/

namespace DeskView

/-- A value of a document. -/
inductive Document where
  | null
  | flag (b : Bool)
  | integer (n : Int)
  | real (x : Float)
  | text (s : String)
  | list (items : List Document)
  /-- Keys and their values, in the order in which they were written. -/
  | record (fields : List (String × Document))
deriving Repr, Inhabited

namespace Document

/-- What a value is, for an error message. -/
def describe : Document → String
  | .null => "null"
  | .flag b => "boolean `" ++ toString b ++ "`"
  | .integer n => "integer `" ++ toString n ++ "`"
  | .real x => "floating point `" ++ realText x ++ "`"
  | .text s => "string " ++ Text.quoted s
  | .list _ => "sequence"
  | .record _ => "map"

end Document

end DeskView
