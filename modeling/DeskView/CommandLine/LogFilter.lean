import DeskView.Log
import DeskView.Pattern.Check
import DeskView.Text.Alphanumeric

/-!
# Choosing what is logged

A filter is a list of directives with commas between them.  A directive is a level; or a target, the
beginning of the name of the part of a program that logs, with what may follow it: brackets, and a
level behind an equals sign.  Brackets hold the name of a span, and in braces the name of a field,
for which a value may be asked.  There are no spans in the viewer, so a directive that names one or
asks for a value lets nothing through; the others speak of records.

Of the directives that match a record the one with the longest target decides, of those the one with
a field, the last one in the order of names, and of two that are alike the later one.

Blanks around a directive do not count when its parts are told apart.  The parts themselves are cut
out of the whole text, by the places of their bytes without the blanks in front.  So blanks in front
shift every part, and may make a cut go through a character, which is fatal.
-/

namespace DeskView.Log

/-- The level from which on records are let through; `none` lets nothing through. -/
abbrev Threshold := Option Level

/-- One part of a filter. -/
inductive Directive where
  /-- Records of targets that begin with `target`, and have the field if one is given, are let
  through from a level on. -/
  | records (target : String) (field : Option String) (threshold : Threshold)
  /-- Something about spans. -/
  | spans
deriving Repr, DecidableEq

/-- Why a text is no directive. -/
inductive Directive.Fault where
  /-- Its parts are not in order. -/
  | malformed
  /-- There is no such level. -/
  | level
  /-- A value is not a pattern that can be matched. -/
  | value (fault : Pattern.Fault)
  /-- A cut goes through a character. -/
  | brokenCharacter
deriving Repr, DecidableEq

namespace Directive

/-- The text shown to people. -/
def Fault.message : Fault → String
  | .malformed => "invalid filter directive"
  | .level =>
    "error parsing level filter: expected one of \"off\", \"error\", \"warn\", \"info\", " ++
      "\"debug\", \"trace\", or a number 0-5"
  | .value fault => "invalid field filter: " ++ fault.message
  | .brokenCharacter => "byte index is not a char boundary"

/-! ### Levels -/

/-- The threshold with a number: the higher, the more is let through. -/
def numbered? : Nat → Option Threshold
  | 0 => some none
  | 1 => some (some .error)
  | 2 => some (some .warn)
  | 3 => some (some .info)
  | 4 => some (some .debug)
  | 5 => some (some .trace)
  | _ => none

/-- The number that a text of digits is, with or without a plus in front. -/
def number? (cs : List Char) : Option Nat :=
  let ds := match cs with
    | '+' :: rest => rest
    | cs => cs
  if ds.isEmpty || !ds.all Char.isDigit then none
  else some (ds.foldl (fun n c => n * 10 + (c.toNat - '0'.toNat)) 0)

/-- The threshold that a text names, in small or capital letters, or by its number. -/
def threshold? (cs : List Char) : Option Threshold :=
  match number? cs with
  | some n => numbered? n
  | none =>
    match String.ofList (cs.map Char.toLower) with
    | "off" => some none
    | "error" => some (some .error)
    | "warn" => some (some .warn)
    | "info" => some (some .info)
    | "debug" => some (some .debug)
    | "trace" => some (some .trace)
    | _ => none

/-- The threshold after an equals sign; none given means that everything is let through. -/
def thresholdOrAll (cs : List Char) : Except Fault Threshold :=
  if cs.isEmpty then .ok (some .trace)
  else
    match threshold? cs with
    | some threshold => .ok threshold
    | none => .error .level

/-! ### Fields -/

/-- Digits, possibly none, and what comes after them. -/
def afterDigits (cs : List Char) : List Char := cs.dropWhile Char.isDigit

/-- Whether a text is a number without a sign, in digits or by name. -/
def isMagnitude (cs : List Char) : Bool :=
  let name := String.ofList (cs.map Char.toLower)
  if name = "inf" || name = "infinity" || name = "nan" then true
  else
    let (afterPoint, fraction) := match afterDigits cs with
      | '.' :: rest => (afterDigits rest, rest.takeWhile Char.isDigit)
      | rest => (rest, [])
    let hasDigits := !((cs.takeWhile Char.isDigit).isEmpty && fraction.isEmpty)
    hasDigits && match afterPoint with
      | [] => true
      | e :: rest =>
        let digits := match rest with
          | '+' :: rest => rest
          | '-' :: rest => rest
          | rest => rest
        (e = 'e' || e = 'E') && !digits.isEmpty && digits.all Char.isDigit

/-- Checks that a text can be asked for as a value: a truth value, a number or a pattern.  Without a
plus in front, the first two are patterns. -/
def checkValue (cs : List Char) : Except Fault Unit :=
  let isNumber := match cs with
    | '+' :: rest => isMagnitude rest
    | _ => false
  if isNumber then .ok () else (Pattern.check (String.ofList cs)).mapError .value

/-- What is asked of a field. -/
structure FieldTest where
  name : String
  /-- Whether a value is asked for. -/
  valued : Bool
deriving Repr, DecidableEq

/-- What a text between braces asks of a field: it is a name, or a name and a value with an equals
sign between them.  A second equals sign ends the value. -/
def fieldTest (cs : List Char) : Except Fault FieldTest :=
  let name := String.ofList (cs.takeWhile (· != '='))
  match cs.dropWhile (· != '=') with
  | [] => if cs.isEmpty then .error .malformed else .ok ⟨name, false⟩
  | _ :: rest => do
    checkValue (rest.takeWhile (· != '='))
    return ⟨name, true⟩

/-! ### Parts -/

/-- A text from the byte with a number on. -/
def dropBytes : List Char → Nat → Except Fault (List Char)
  | cs, 0 => .ok cs
  | [], _ + 1 => .ok []
  | c :: rest, n + 1 =>
    if c.utf8Size ≤ n + 1 then dropBytes rest (n + 1 - c.utf8Size) else .error .brokenCharacter

/-- The first bytes of a text. -/
def takeBytes : List Char → Nat → Except Fault (List Char)
  | _, 0 => .ok []
  | [], _ + 1 => .ok []
  | c :: rest, n + 1 =>
    if c.utf8Size ≤ n + 1 then do return c :: (← takeBytes rest (n + 1 - c.utf8Size))
    else .error .brokenCharacter

/-- The bytes of a text from one place up to another. -/
def cut (cs : List Char) (start stop : Nat) : Except Fault (List Char) := do
  takeBytes (← dropBytes cs start) (stop - start)

/-- The part of a directive that is read; parts that are to be cut out know their beginning. -/
inductive Part where
  | beginning
  | levelOrTarget
  | span (start : Nat)
  | field (start : Nat)
  /-- Behind the closing brace. -/
  | afterField
  /-- Behind the closing bracket. -/
  | afterBrackets
  | level (start : Nat)
deriving Repr, DecidableEq

/-- A directive as far as it is read. -/
structure Draft where
  target : String := ""
  /-- Whether a span is named. -/
  spanned : Bool := false
  field : Option FieldTest := none
  threshold : Threshold := some .trace
deriving Repr, DecidableEq

/-- Whether a directive without brackets in front can begin with a character. -/
def beginsTarget (c : Char) : Bool := c = '-' || c = ':' || c = '_' || Text.isAlphanumeric c

/-- Reads one more character, at byte `i` of the directive without blanks in front. -/
def step (text : List Char) (d : Draft) (part : Part) (i : Nat) (c : Char) :
    Except Fault (Draft × Part) :=
  match part with
  | .beginning =>
    if c = '[' then .ok (d, .span (i + 1))
    else if beginsTarget c then .ok (d, .levelOrTarget)
    else .error .malformed
  | .levelOrTarget =>
    if c = '=' then do
      return ({ d with target := String.ofList (← cut text 0 i) }, .level (i + 1))
    else if c = '[' then do
      return ({ d with target := String.ofList (← cut text 0 i) }, .span (i + 1))
    else .ok (d, part)
  | .span start =>
    if c = ']' then do
      let _ ← cut text start i
      return ({ d with spanned := true }, .afterBrackets)
    else if c = '\x7b' then do
      return ({ d with spanned := !(← cut text start i).isEmpty }, .field (i + 1))
    else .ok (d, part)
  | .field start =>
    if c = '\x7d' then do
      return ({ d with field := some (← fieldTest (← cut text start i)) }, .afterField)
    else .ok (d, part)
  | .afterField => if c = ']' then .ok (d, .afterBrackets) else .error .malformed
  | .afterBrackets => if c = '=' then .ok (d, .level (i + 1)) else .error .malformed
  | .level _ => .ok (d, part)

/-- Reads the characters of a directive one after the other, from byte `i` on. -/
def scan (text : List Char) (d : Draft) (part : Part) (i : Nat) :
    List Char → Except Fault (Draft × Part)
  | [] => .ok (d, part)
  | c :: rest => do
    let (d, part) ← step text d part i c
    scan text d part (i + c.utf8Size) rest

/-- The directive at the end of a text. -/
def finish (text : List Char) (d : Draft) : Part → Except Fault Draft
  | .levelOrTarget =>
    match threshold? text with
    | some threshold => .ok { d with threshold }
    | none => .ok { d with target := String.ofList text }
  | .level start => do
    return { d with threshold := ← thresholdOrAll (← dropBytes text start) }
  | .afterBrackets => .ok d
  | _ => .error .malformed

/-- What a directive says. -/
def ofDraft (d : Draft) : Directive :=
  if d.spanned || d.field.any FieldTest.valued then .spans
  else .records d.target (d.field.map FieldTest.name) d.threshold

/-- The directive that a text without commas is. -/
def parse (text : String) : Except Fault Directive := do
  let cs := text.toList
  let (d, part) ← scan cs {} .beginning 0 (Text.trimBlanks cs)
  return ofDraft (← finish cs d part)

/-! ### Matching -/

/-- The names of a record's fields; the message is one of them. -/
def fieldNames (r : Record) : List String := "message" :: r.fields.map (·.1)

/-- How closely a directive fits a record that it speaks of. -/
structure Fit where
  /-- The length of the target. -/
  length : Nat
  field : Option String
  threshold : Threshold
deriving Repr, DecidableEq

/-- Whether the first of two fits is at most as close as the second. -/
def Fit.isAtMost (a b : Fit) : Bool :=
  a.length < b.length || a.length = b.length &&
    match a.field, b.field with
    | none, _ => true
    | some _, none => false
    | some name, some other => name ≤ other

/-- How closely a directive fits a record, if it speaks of it. -/
def fit? (target : String) (r : Record) : Directive → Option Fit
  | .records start field threshold =>
    if target.startsWith start && field.all fun name => (fieldNames r).contains name then
      some ⟨start.utf8ByteSize, field, threshold⟩
    else none
  | .spans => none

end Directive

/-- Which records are logged. -/
structure Filter where
  directives : List Directive
deriving Repr

namespace Filter

/-- The parts of a filter's text. -/
def parts (text : String) : List String :=
  (text.splitOn ",").filter fun part => !part.isEmpty

/-- The filter of a text, if all its parts are directives. -/
def parse (text : String) : Except Directive.Fault Filter := do
  return ⟨← (parts text).mapM Directive.parse⟩

/-- A filter, and the parts that were passed over. -/
structure Lossy where
  filter : Filter
  /-- What was passed over, and why. -/
  ignored : List (String × Directive.Fault) := []

/-- The directives among some parts, and the parts that are none. -/
def sift : List String → Except Directive.Fault Lossy
  | [] => .ok ⟨⟨[]⟩, []⟩
  | part :: rest =>
    match Directive.parse part with
    | .ok d => do
      let found ← sift rest
      return { found with filter := ⟨d :: found.filter.directives⟩ }
    | .error .brokenCharacter => .error .brokenCharacter
    | .error fault => do
      let found ← sift rest
      return { found with ignored := (part, fault) :: found.ignored }

/-- The filter that lets errors through. -/
def errors : Filter := ⟨[.records "" none (some .error)]⟩

/-- The filter of a text; parts that are no directives are passed over.  If no directive is left,
errors are let through. -/
def parseLossy (text : String) : Except Directive.Fault Lossy := do
  let found ← sift (parts text)
  return if found.filter.directives.isEmpty then { found with filter := errors } else found

/-- The closest fit for a record, the later of two equal ones. -/
def closest? (f : Filter) (target : String) (r : Record) : Option Directive.Fit :=
  (f.directives.filterMap (Directive.fit? target r)).foldl (fun best found =>
    match best with
    | none => some found
    | some old => if old.isAtMost found then some found else best) none

/-- The threshold for a record; with no fit nothing is let through. -/
def threshold (f : Filter) (target : String) (r : Record) : Threshold :=
  match f.closest? target r with
  | some fit => fit.threshold
  | none => none

/-- Whether a record of a target is let through. -/
def allows (f : Filter) (target : String) (r : Record) : Bool :=
  match f.threshold target r with
  | some level => level.rank ≤ r.level.rank
  | none => false

end Filter

end DeskView.Log
