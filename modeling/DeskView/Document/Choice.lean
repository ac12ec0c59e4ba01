import DeskView.Document.Basic

/-!
# Choices by name

A `Choice` is a type with finitely many values, each of which has a name in files and messages.
`Choice.read` takes a value from a document: either its name as text, or a record whose one key is
the name and whose value is nothing.
-/

namespace DeskView

/-- A type whose values have names. -/
class Choice (α : Type) where
  /-- The names and their values, in the order in which messages list them. -/
  options : List (String × α)

/-- Why a document holds no value of a choice. -/
inductive ChoiceError where
  /-- No value has this name. -/
  | unknown (name : String) (known : List String)
  /-- The document has something else in a place where `expected` has to stand. -/
  | wrongType (found expected : String)
  /-- A record needs to have exactly one key. -/
  | notOneKey
deriving Repr, DecidableEq

namespace ChoiceError

/-- A list of names in which one is to be chosen. -/
def alternatives : List String → String
  | [] => "nothing"
  | [a] => "`" ++ a ++ "`"
  | [a, b] => "`" ++ a ++ "` or `" ++ b ++ "`"
  | names => "one of " ++ ", ".intercalate (names.map fun name => "`" ++ name ++ "`")

/-- The text shown to people. -/
def message : ChoiceError → String
  | .unknown name known =>
    "unknown variant `" ++ name ++ "`, expected " ++ alternatives known
  | .wrongType found expected => "invalid type: " ++ found ++ ", expected " ++ expected
  | .notOneKey => "invalid value: map, expected map with a single key"

end ChoiceError

namespace Choice

variable {α : Type} [Choice α]

/-- The value of a name. -/
def find? (name : String) : Option α :=
  ((options (α := α)).find? fun option => option.1 = name).map (·.2)

/-- The value of a name, or an error that lists the names there are. -/
def named (name : String) : Except ChoiceError α :=
  match find? name with
  | some a => .ok a
  | none => .error (.unknown name ((options (α := α)).map (·.1)))

/-- The name of a value. -/
def name [DecidableEq α] (a : α) : String :=
  match (options (α := α)).find? fun option => option.2 = a with
  | some option => option.1
  | none => ""

/-- The value that a document holds. -/
def read : Document → Except ChoiceError α
  | .text name => named name
  | .record [(name, content)] =>
    match named name with
    | .error e => .error e
    | .ok a =>
      match content with
      | .null => .ok a
      | other => .error (.wrongType other.describe "unit")
  | .record _ => .error .notOneKey
  | other => .error (.wrongType other.describe "string or map")

end Choice

end DeskView
