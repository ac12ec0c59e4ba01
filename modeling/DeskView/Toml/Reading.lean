import DeskView.Toml.Moment
import DeskView.Toml.Quotation
import DeskView.Toml.Tree

/-!
# Reading TOML

`read` takes a whole document to the table it describes, or answers `none` if the text is not a
document.  Arrays and inline tables may be nested up to `maxDepth`, and a dotted key may have fewer
than `maxKeyParts` parts.
-/

namespace DeskView.Toml

/-- How deep values may be nested. -/
def maxDepth : Nat := 79

/-- A dotted key must have fewer parts than this. -/
def maxKeyParts : Nat := 80

/-! ### Keys -/

/-- One part of a key. -/
def keyPart : Reader String
  | '"' :: rest => basicString rest
  | '\'' :: rest => literalString rest
  | s =>
    match s.takeWhile isBareKeyChar with
    | [] => none
    | cs => some (String.ofList cs, s.dropWhile isBareKeyChar)

/-- The parts of a key with blanks around each; at most `fuel` of them. -/
def keyParts : (fuel : Nat) → Reader (List String)
  | 0, _ => none
  | fuel + 1, s => do
    let (part, s) ← keyPart (skipBlanks s)
    match skipBlanks s with
    | '.' :: rest => do
      let (parts, rest) ← keyParts fuel rest
      some (part :: parts, rest)
    | rest => some ([part], rest)

/-- A key: the parts before the last, and the last. -/
def key : Reader (List String × String) := fun s => do
  let (parts, rest) ← keyParts s.length s
  let last ← parts.getLast?
  if parts.length < maxKeyParts then some ((parts.dropLast, last), rest) else none

/-! ### Values -/

/-- A key and its value with an equals sign between them. -/
def pair (value : Reader Value) : Reader ((List String × String) × Value) := fun s => do
  let (k, s) ← key s
  let s ← expect? '=' s
  let (v, s) ← value (skipBlanks s)
  some ((k, v), s)

/-- The rest of an array after its bracket or a comma; at most `fuel` elements. -/
def arrayRest (value : Reader Value) : (fuel : Nat) → Reader (List Value)
  | 0, _ => none
  | fuel + 1, s =>
    match skipSpace s with
    | ']' :: rest => some ([], rest)
    | s => do
      let (v, s) ← value s
      match skipSpace s with
      | ']' :: rest => some ([v], rest)
      | ',' :: rest => do
        let (vs, rest) ← arrayRest value fuel rest
        some (v :: vs, rest)
      | _ => none

/-- The rest of an inline table that is not empty; at most `fuel` entries. -/
def inlineRest (value : Reader Value) : (fuel : Nat) → Entries → Reader Entries
  | 0, _, _ => none
  | fuel + 1, entries, s => do
    let (((path, last), v), s) ← pair value s
    let entries ← entries.insert path last v
    match skipBlanks s with
    | '}' :: rest => some (entries, rest)
    | ',' :: rest => inlineRest value fuel entries rest
    | _ => none

/-- An inline table after its brace. -/
def inlineTable (value : Reader Value) : Reader Value := fun s =>
  match skipBlanks s with
  | '}' :: rest => some (.table [], rest)
  | s => (inlineRest value s.length [] s).map fun (entries, rest) =>
    (.table (entriesToValues entries), rest)

/-- A moment or a number. -/
def numeral : Reader Value := fun s =>
  match moment s with
  | some r => some r
  | none =>
    match float s with
    | some r => some r
    | none => integer s

/-- A value that holds no other. -/
def scalar : Reader Value := fun s =>
  match s with
  | [] => none
  | c :: _ =>
    if c = '"' || c = '\'' then (quotation s).map fun (text, rest) => (.text text, rest)
    else if c = '+' || c = '-' || c.isDigit then numeral s
    else if c = 't' then (expectAll? "true".toList s).map fun rest => (.flag true, rest)
    else if c = 'f' then (expectAll? "false".toList s).map fun rest => (.flag false, rest)
    else namedFloat s

/-- A value, in which others may be nested `depth` deep. -/
def value : (depth : Nat) → Reader Value
  | 0, s => scalar s
  | depth + 1, s =>
    match s with
    | '[' :: rest => (arrayRest (value depth) s.length rest).map fun (vs, rest) =>
      (.array vs, rest)
    | '{' :: rest => inlineTable (value depth) rest
    | s => scalar s

/-! ### Documents -/

/-- A header after its first bracket: whether it is that of a list, and its keys. -/
def header : Reader (Bool × List String)
  | '[' :: rest => do
    let ((path, last), rest) ← key rest
    let rest ← expectAll? [']', ']'] rest
    some ((true, path ++ [last]), rest)
  | s => do
    let ((path, last), rest) ← key s
    let rest ← expect? ']' rest
    some ((false, path ++ [last]), rest)

/-- One line that holds something: a header or a key with its value. -/
def line (d : Draft) : Reader Draft
  | '[' :: rest => do
    let ((inList, path), rest) ← header rest
    some (← d.openTable inList path, rest)
  | s => do
    let (((path, last), v), rest) ← pair (value maxDepth) s
    some (← d.insert path last v, rest)

/-- The lines of a document; at most `fuel` of them. -/
def lines : (fuel : Nat) → Draft → List Char → Option Draft
  | 0, d, s => if s.isEmpty then some d else none
  | fuel + 1, d, s =>
    match skipBlanks s with
    | [] => some d
    | s =>
      match lineEnd? s with
      | some rest => lines fuel d rest
      | none => do
        let (d, rest) ← line d s
        let rest ← lineEnd? rest
        lines fuel d rest

/-- The text without the mark that may stand at its front to tell the order of bytes. -/
def dropByteOrderMark : List Char → List Char
  | '\ufeff' :: rest => rest
  | s => s

/-- The entries of the table at the top of a document. -/
def read (text : String) : Option (List (String × Value)) :=
  let s := dropByteOrderMark text.toList
  match lines (s.length + 1) {} s with
  | some d => d.finish.map entriesToValues
  | none => none

end DeskView.Toml
