import DeskView.Pattern.Basic
import DeskView.Text.Blank

/-!
# Escapes and sets of characters

A backslash takes the meaning from a sign of ASCII, and gives one to some letters.  A set stands
between brackets: characters, ranges, sets by name, and sets in brackets of their own.  Two signs in
a row join what is in front of them with what follows, from left to right.

Where blanks are left out, comments are, too: a comment goes from a `#` to the end of its line.

Patterns are read from between braces, so they have no closing brace of their own.  For this reason
an opening brace behind a backslash and a letter can only be an error.
-/

namespace DeskView.Pattern

/-- The text without blanks and comments in front. -/
def skipBlanks (inComment : Bool) : List Char → List Char
  | [] => []
  | c :: rest =>
    if inComment then skipBlanks (c != '\n') rest
    else if Text.isBlank c then skipBlanks false rest
    else if c = '#' then skipBlanks true rest
    else c :: rest

/-- The text from the next character that counts. -/
def ahead (spaced : Bool) (cs : List Char) : List Char := if spaced then skipBlanks false cs else cs

/-! ### Escapes -/

/-- The value of a hexadecimal digit. -/
def hexValue? (c : Char) : Option Nat :=
  if c.isDigit then some (c.toNat - '0'.toNat)
  else if 'a' ≤ c && c ≤ 'f' then some (c.toNat - 'a'.toNat + 10)
  else if 'A' ≤ c && c ≤ 'F' then some (c.toNat - 'A'.toNat + 10)
  else none

/-- The number of `count` hexadecimal digits behind those that make up `n`. -/
def hexDigits? (spaced : Bool) : (count n : Nat) → List Char → Option (Nat × List Char)
  | 0, n, cs => some (n, cs)
  | count + 1, n, cs =>
    match ahead spaced cs with
    | [] => none
    | c :: rest => do hexDigits? spaced count (n * 16 + (← hexValue? c)) rest

/-- The character whose code point is written in `count` hexadecimal digits. -/
def hex? (spaced : Bool) (count : Nat) (isByte : Bool) (cs : List Char) :
    Option (Pattern × List Char) := do
  let (n, rest) ← hexDigits? spaced count 0 cs
  if n.isValidChar then some (.letter ⟨Char.ofNat n, isByte⟩, ahead spaced rest) else none

/-- The control character that a letter behind a backslash stands for. -/
def control? : Char → Option Char
  | 'a' => some '\x07'
  | 't' => some '\t'
  | 'n' => some '\n'
  | 'v' => some '\x0b'
  | 'f' => some '\x0c'
  | 'r' => some '\r'
  | _ => none

/-- Whether a character may stand behind a backslash for itself. -/
def isEscapable (c : Char) : Bool :=
  c.toNat < 0x80 && !c.isAlphanum && c != '<' && c != '>'

/-- What an escape stands for, given from behind its backslash. -/
def escape? (spaced : Bool) : List Char → Option (Pattern × List Char)
  | [] => none
  | 'x' :: rest => hex? spaced 2 true rest
  | 'u' :: rest => hex? spaced 4 false rest
  | 'U' :: rest => hex? spaced 8 false rest
  | c :: rest =>
    if ['d', 's', 'w'].contains c then some (.shorthand false, rest)
    else if ['D', 'S', 'W'].contains c then some (.shorthand true, rest)
    else if ['A', 'z'].contains c then some (.edge, rest)
    else if ['b', 'B', '<', '>'].contains c then some (.wordBoundary, rest)
    else
      match control? c with
      | some control => some (.letter ⟨control, false⟩, rest)
      | none => if isEscapable c then some (.letter ⟨c, false⟩, rest) else none

/-! ### Members of a set -/

namespace CharSet

/-- The set of some members, the last one first. -/
def ofMembers : List CharSet → CharSet
  | [] => .nothing
  | [s] => s
  | members => .union members.reverse

/-- The set that a single part of a pattern is. -/
def ofPattern? : Pattern → Option CharSet
  | .letter l => some (.letter l)
  | .shorthand negated => some (.shorthand negated)
  | _ => none

/-- The characters from one to another. -/
def range? : Pattern → Pattern → Option CharSet
  | .letter first, .letter last => if first.char ≤ last.char then some (.range first last) else none
  | _, _ => none

/-- The names that a set can have between colons. -/
def names : List String :=
  ["alnum", "alpha", "ascii", "blank", "cntrl", "digit", "graph", "lower", "print", "punct",
    "space", "upper", "word", "xdigit"]

/-- A set by its name, given from behind its bracket; a caret in front of the name negates it. -/
def named? : List Char → Option (CharSet × List Char)
  | ':' :: rest =>
    let negated := rest.head? = some '^'
    let body := if negated then rest.drop 1 else rest
    let name := String.ofList (body.takeWhile (· != ':'))
    match body.dropWhile (· != ':') with
    | ':' :: ']' :: rest => if names.contains name then some (.named negated, rest) else none
    | _ => none
  | _ => none

/-- One character or escape. -/
def item? (spaced : Bool) : List Char → Option (Pattern × List Char)
  | [] => none
  | '\\' :: rest => escape? spaced rest
  | c :: rest => some (.letter ⟨c, false⟩, rest)

/-- The next character that counts, seen from behind a dash.  A comment is not passed over here, but
only its sign and the blanks behind it. -/
def peek (spaced : Bool) (cs : List Char) : Option Char :=
  if spaced then
    match cs.dropWhile Text.isBlank with
    | '#' :: rest => (rest.dropWhile Text.isBlank).head?
    | rest => rest.head?
  else cs.head?

/-- A character, an escape or a range.  A dash in front of another one or of the closing bracket
makes no range. -/
def member? (spaced : Bool) (cs : List Char) : Option (CharSet × List Char) := do
  let (first, rest) ← item? spaced cs
  match ahead spaced rest with
  | '-' :: after =>
    if peek spaced after = some ']' || peek spaced after = some '-' then
      return (← ofPattern? first, '-' :: after)
    else
      let (last, rest) ← item? spaced (ahead spaced after)
      return (← range? first last, rest)
  | rest => return (← ofPattern? first, rest)

/-! ### Brackets -/

/-- A set as far as it is read. -/
structure Draft where
  negated : Bool
  /-- The set in front of two signs that join it with what follows. -/
  left : Option CharSet := none
  /-- The members since then, the last one first. -/
  members : List CharSet := []

namespace Draft

/-- The set with one more member. -/
def add (d : Draft) (s : CharSet) : Draft := { d with members := s :: d.members }

/-- The set that was read. -/
def value (d : Draft) : CharSet :=
  match d.left with
  | none => ofMembers d.members
  | some left => .operation left (ofMembers d.members)

/-- The set in front of two signs that join it with what follows. -/
def join (d : Draft) : Draft := { d with left := some d.value, members := [] }

end Draft

/-- Dashes at the beginning of a set, which stand for themselves. -/
def dashes (spaced : Bool) : (fuel : Nat) → Draft → List Char → Draft × List Char
  | 0, d, cs => (d, cs)
  | fuel + 1, d, cs =>
    match cs with
    | '-' :: rest => dashes spaced fuel (d.add (.letter ⟨'-', false⟩)) (ahead spaced rest)
    | cs => (d, cs)

/-- The beginning of a set, given from behind its bracket: a caret, and dashes or a closing bracket
that stand for themselves. -/
def opening (spaced : Bool) (cs : List Char) : Draft × List Char :=
  let body := ahead spaced cs
  let negated := body.head? = some '^'
  let body := if negated then ahead spaced (body.drop 1) else body
  match dashes spaced body.length { negated } body with
  | (d, ']' :: rest) =>
    if d.members.isEmpty then (d.add (.letter ⟨']', false⟩), ahead spaced rest)
    else (d, ']' :: rest)
  | found => found

/-- Reads a set up to its closing bracket; `outer` are the sets around it, the innermost first. -/
def rest? (spaced : Bool) :
    (fuel : Nat) → Draft → (outer : List Draft) → List Char → Option (Pattern × List Char)
  | 0, _, _, _ => none
  | fuel + 1, d, outer, cs =>
    match ahead spaced cs with
    | [] => none
    | '[' :: rest =>
      match named? rest with
      | some (s, rest) => rest? spaced fuel (d.add s) outer rest
      | none =>
        let (inner, rest) := opening spaced rest
        rest? spaced fuel inner (d :: outer) rest
    | ']' :: rest =>
      match outer with
      | [] => some (.oneOf d.negated d.value, rest)
      | parent :: outer => rest? spaced fuel (parent.add (.nested d.negated d.value)) outer rest
    | '&' :: '&' :: rest => rest? spaced fuel d.join outer rest
    | '-' :: '-' :: rest => rest? spaced fuel d.join outer rest
    | '~' :: '~' :: rest => rest? spaced fuel d.join outer rest
    | cs => do
      let (s, rest) ← member? spaced cs
      rest? spaced fuel (d.add s) outer rest

/-- Reads a set, given from behind its bracket. -/
def read? (spaced : Bool) (cs : List Char) : Option (Pattern × List Char) :=
  let (d, rest) := opening spaced cs
  rest? spaced (cs.length + 1) d [] rest

end CharSet

end DeskView.Pattern
