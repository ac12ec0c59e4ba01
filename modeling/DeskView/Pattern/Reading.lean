import DeskView.Pattern.CharSet
import DeskView.Text.Alphanumeric

/-!
# Reading patterns

A pattern is read from left to right.  Bars part the branches of a choice, parentheses make groups,
and a star, a plus or a question mark repeats what is in front of it.  A group can have a name,
which no other group may have, or flags, which hold inside of it; flags alone in parentheses hold
for the rest of the group that they are in.
-/

namespace DeskView.Pattern

/-! ### Flags and names -/

namespace Flags

/-- The letters that flags are written with. -/
def letters : List Char := ['i', 'm', 's', 'U', 'u', 'R', 'x']

/-- The flags with one more letter; those that do not matter here are passed over. -/
def add (f : Flags) (on : Bool) : Char → Flags
  | 'i' => { f with caseless := some on }
  | 'u' => { f with wide := some on }
  | 'x' => { f with spaced := some on }
  | _ => f

/-- Reads flags one after the other; behind a minus sign they are turned off.  No letter and no sign
may come twice, and the sign may not be the last. -/
def read? (f : Flags) (seen : List Char) : List Char → Option Flags
  | [] => if seen.head? = some '-' then none else some f
  | c :: rest =>
    if seen.contains c then none
    else if c = '-' then read? f (c :: seen) rest
    else if letters.contains c then read? (f.add (!seen.contains '-') c) (c :: seen) rest
    else none

end Flags

/-- Whether a character can be the first one of a group's name. -/
def beginsName (c : Char) : Bool := c = '_' || Text.isLetter c

/-- Whether a character can stand in a group's name. -/
def isNameChar (c : Char) : Bool :=
  c = '_' || c = '.' || c = '[' || c = ']' || Text.isAlphanumeric c

/-- Whether a text can be the name of a group. -/
def isName : List Char → Bool
  | [] => false
  | c :: rest => beginsName c && rest.all isNameChar

/-- How a group begins. -/
inductive Opening where
  | plain
  | named (name : String)
  | flagged (change : Flags)
  /-- Flags alone. -/
  | flags (change : Flags)
deriving Repr, DecidableEq

/-- A name up to its closing bracket. -/
def name? (cs : List Char) : Option (Opening × List Char) :=
  let name := cs.takeWhile (· != '>')
  match cs.dropWhile (· != '>') with
  | [] => none
  | _ :: rest => if isName name then some (.named (String.ofList name), rest) else none

/-- Whether a character ends flags. -/
def endsFlags (c : Char) : Bool := c = ':' || c = ')'

/-- The beginning of a group, given from behind its parenthesis. -/
def opening? (spaced : Bool) (cs : List Char) : Option (Opening × List Char) :=
  match ahead spaced cs with
  | '?' :: 'P' :: '<' :: rest => name? rest
  | '?' :: '<' :: rest => name? rest
  | '?' :: rest => do
    let written := rest.takeWhile (!endsFlags ·)
    let change ← Flags.read? {} [] written
    match rest.dropWhile (!endsFlags ·) with
    | ':' :: rest => some (.flagged change, rest)
    | ')' :: rest => if written.isEmpty then none else some (.flags change, rest)
    | _ => none
  | rest => some (.plain, rest)

/-! ### Groups -/

/-- The pattern of some parts in a row, the last one first. -/
def ofParts : List Pattern → Pattern
  | [] => .empty
  | [p] => p
  | parts => .sequence parts.reverse

/-- A group as far as it is read. -/
structure Draft where
  /-- The flags that the group begins with. -/
  change : Flags := {}
  /-- Whether blanks are left out. -/
  spaced : Bool := false
  /-- The branches in front of the last bar, the last one first. -/
  branches : List Pattern := []
  /-- The parts behind it, the last one first. -/
  parts : List Pattern := []

namespace Draft

/-- The group with one more part. -/
def add (d : Draft) (p : Pattern) : Draft := { d with parts := p :: d.parts }

/-- The group with a bar. -/
def branch (d : Draft) : Draft := { d with branches := ofParts d.parts :: d.branches, parts := [] }

/-- What was read. -/
def value (d : Draft) : Pattern :=
  if d.branches.isEmpty then ofParts d.parts else .choice (ofParts d.parts :: d.branches).reverse

/-- The group with its last part repeated, if there is something to repeat. -/
def repeat? (d : Draft) : Option Draft :=
  match d.parts with
  | [] => none
  | .flags _ :: _ => none
  | p :: parts => some { d with parts := .repeated p :: parts }

/-- A group inside of this one. -/
def inner (d : Draft) (change : Flags) : Draft := { change, spaced := change.spaced.getD d.spaced }

/-- The group with flags for the rest of it. -/
def turn (d : Draft) (change : Flags) : Draft :=
  { d.add (.flags change) with spaced := change.spaced.getD d.spaced }

end Draft

/-- Reads a pattern from inside a group on.  `outer` are the groups around it, the innermost first,
and `names` are the names of groups so far. -/
def rest? : (fuel : Nat) → Draft → (outer : List Draft) → (names : List String) → List Char →
    Option Pattern
  | 0, _, _, _, _ => none
  | fuel + 1, d, outer, names, cs =>
    match ahead d.spaced cs with
    | [] => if outer.isEmpty then some d.value else none
    | '(' :: rest => do
      match ← opening? d.spaced rest with
      | (.plain, rest) => rest? fuel (d.inner {}) (d :: outer) names rest
      | (.named name, rest) =>
        if names.contains name then none
        else rest? fuel (d.inner {}) (d :: outer) (name :: names) rest
      | (.flagged change, rest) => rest? fuel (d.inner change) (d :: outer) names rest
      | (.flags change, rest) => rest? fuel (d.turn change) outer names rest
    | ')' :: rest =>
      match outer with
      | [] => none
      | parent :: outer => rest? fuel (parent.add (.group d.change d.value)) outer names rest
    | '|' :: rest => rest? fuel d.branch outer names rest
    | '[' :: rest => do
      let (p, rest) ← CharSet.read? d.spaced rest
      rest? fuel (d.add p) outer names rest
    | '\\' :: rest => do
      let (p, rest) ← escape? d.spaced rest
      rest? fuel (d.add p) outer names rest
    | '.' :: rest => rest? fuel (d.add .dot) outer names rest
    | '^' :: rest => rest? fuel (d.add .edge) outer names rest
    | '$' :: rest => rest? fuel (d.add .edge) outer names rest
    | c :: rest =>
      if c = '?' || c = '*' || c = '+' then do
        let rest := if rest.head? = some '?' then rest.drop 1 else rest
        rest? fuel (← d.repeat?) outer names rest
      else if c = '\x7b' then none
      else rest? fuel (d.add (.letter ⟨c, false⟩)) outer names rest

/-- The pattern that a text is. -/
def read? (text : String) : Option Pattern := rest? (text.length + 1) {} [] [] text.toList

end DeskView.Pattern
