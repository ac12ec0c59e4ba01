/-!
# Values of a settings document

A document in TOML is a table of values.  The settings hold no number with a fraction and no date,
so these two kinds keep what was written and are not computed with.
-/

namespace DeskView.Toml

/-- A value. -/
inductive Value where
  | text (s : String)
  | integer (n : Int)
  /-- A floating-point number, as written. -/
  | float (literal : String)
  | flag (b : Bool)
  /-- A date, a time of day or both, as written. -/
  | moment (literal : String)
  | array (items : List Value)
  /-- Keys and their values. -/
  | table (entries : List (String × Value))
deriving Repr

/-- The value of a key among some entries. -/
def lookup {α : Type} (key : String) (entries : List (String × α)) : Option α :=
  (entries.find? fun entry => entry.1 = key).map (·.2)

end DeskView.Toml
