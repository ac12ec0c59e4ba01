/-!
# Text without control sequences

A terminal takes an escape character and what follows it as an instruction: a control sequence in
brackets, a string, or a single character.  `plain text` leaves these instructions out, and every
other control character that is not white space.

What is shown is found run by run.  A run begins with the first character that the terminal would
show, and from there on all of them are kept up to the next control character.  White space inside
a control sequence begins a run, too; the sequence is then still open at the end of the run.
-/

namespace DeskView.Text

/-- Where a terminal is inside an instruction. -/
inductive Sequence where
  /-- Outside of any. -/
  | ground
  /-- After an escape character. -/
  | escape
  /-- After the first of several characters of a short instruction. -/
  | escapeIntermediate
  /-- At the beginning of a control sequence. -/
  | entry
  /-- In the parameters of a control sequence. -/
  | parameters
  /-- After the parameters of a control sequence. -/
  | intermediate
  /-- In a control sequence that means nothing. -/
  | ignored
  /-- At the beginning of a device control string. -/
  | deviceEntry
  /-- In the parameters of a device control string. -/
  | deviceParameters
  /-- After the parameters of a device control string. -/
  | deviceIntermediate
  /-- In the body of a string that ends with a string terminator. -/
  | stringBody
  /-- In a command for the operating system. -/
  | command
deriving Repr, DecidableEq

namespace Sequence

/-- Whether a character is white space for a terminal. -/
def isWhite (c : Char) : Bool :=
  c = ' ' || c = '\t' || c = '\n' || c = '\r' || c.toNat = 0x0c

/-- Whether a control character below the space lies between two bounds, both included. -/
def within (lo hi : Nat) (c : Char) : Bool := lo ≤ c.toNat && c.toNat ≤ hi

/-- After the escape character: which instruction begins, or is complete. -/
def afterEscape (c : Char) : Sequence :=
  if within 0x20 0x2f c then .escapeIntermediate
  else if c = '[' then .entry
  else if c = ']' then .command
  else if c = 'P' then .deviceEntry
  else if c = 'X' || c = '^' || c = '_' then .stringBody
  else if within 0x30 0x7e c then .ground
  else .escape

/-- Inside a control sequence: parameters, intermediate characters, and the one that ends it. -/
def afterParameter (s : Sequence) (c : Char) : Sequence :=
  if within 0x20 0x2f c then .intermediate
  else if within 0x30 0x3b c then .parameters
  else if within 0x3c 0x3f c then (if s = .entry then .parameters else .ignored)
  else if within 0x40 0x7e c then .ground
  else s

/-- Inside the head of a device control string. -/
def afterDevice (s : Sequence) (c : Char) : Sequence :=
  if within 0x20 0x2f c then .deviceIntermediate
  else if within 0x30 0x3b c then .deviceParameters
  else if within 0x3c 0x3f c then (if s = .deviceEntry then .deviceParameters else .stringBody)
  else if within 0x40 0x7e c then .stringBody
  else s

/-- Where the terminal is after one more ASCII character. -/
def next (s : Sequence) (c : Char) : Sequence :=
  if c.toNat = 0x1b then .escape
  else if c.toNat = 0x18 || c.toNat = 0x1a then .ground
  else
    match s with
    | .ground => .ground
    | .escape => afterEscape c
    | .escapeIntermediate =>
      if within 0x30 0x7e c then .ground else .escapeIntermediate
    | .entry => afterParameter .entry c
    | .parameters => afterParameter .parameters c
    | .intermediate =>
      if within 0x30 0x3f c then .ignored
      else if within 0x40 0x7e c then .ground
      else .intermediate
    | .ignored => if within 0x40 0x7e c then .ground else .ignored
    | .deviceEntry => afterDevice .deviceEntry c
    | .deviceParameters => afterDevice .deviceParameters c
    | .deviceIntermediate =>
      if within 0x30 0x7e c then .stringBody else .deviceIntermediate
    | .stringBody => .stringBody
    | .command => if c.toNat = 0x07 then .ground else .command

/-- Whether control characters are carried out at once, and not taken as part of a string. -/
def obeys : Sequence → Bool
  | .ground | .escape | .escapeIntermediate | .entry | .parameters | .intermediate | .ignored =>
    true
  | _ => false

/-- Whether one of the bytes of a character ends a string. -/
def terminates (c : Char) : Bool := (String.utf8EncodeChar c).contains 0x9c

/-- Where the terminal is after a character beyond ASCII that it does not show. -/
def afterWide (s : Sequence) (c : Char) : Sequence :=
  if s = .stringBody && terminates c then .ground else s

end Sequence

/-- Whether a character outside of any instruction is shown. -/
def isShown (c : Char) : Bool :=
  0x80 ≤ c.toNat || Sequence.within 0x20 0x7e c || Sequence.isWhite c

/-- Whether a character begins a run of shown ones. -/
def beginsRun (s : Sequence) (c : Char) : Bool :=
  if s = .ground then isShown c else s.obeys && Sequence.isWhite c && c != ' '

/-- What is shown of a text.  `inRun` says whether the character before belongs to a run. -/
def shown (s : Sequence) (inRun : Bool) : List Char → List Char
  | [] => []
  | c :: rest =>
    if inRun && isShown c || beginsRun s c then
      c :: shown (if 0x80 ≤ c.toNat then .ground else s) true rest
    else shown (if 0x80 ≤ c.toNat then s.afterWide c else s.next c) false rest

/-- A text without control sequences. -/
def plain (text : String) : String := String.ofList (shown .ground false text.toList)

end DeskView.Text
