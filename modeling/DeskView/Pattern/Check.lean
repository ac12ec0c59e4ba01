import DeskView.Pattern.Reading

/-!
# Patterns that can be matched

A pattern is matched in a single pass over bytes, by an automaton that is built beforehand.  An
automaton can be built if the parts of the pattern are not nested too deeply, if what is matched is
always whole characters, and if nothing has to be known about letters beyond ASCII: which of them
are digits, blanks or parts of words, and which are capital forms of others.  It can do nothing
about the boundaries of words with such letters.
-/

namespace DeskView.Pattern

/-! ### Depth -/

mutual

/-- How deeply the parts of a set are nested. -/
def CharSet.depth : CharSet → Nat
  | .nested _ s => s.depth + 1
  | .union sets => CharSet.deepest sets + 1
  | .operation left right => max left.depth right.depth + 1
  | _ => 0

/-- How deeply the parts of some sets are nested. -/
def CharSet.deepest : List CharSet → Nat
  | [] => 0
  | s :: rest => max s.depth (CharSet.deepest rest)

end

mutual

/-- How deeply the parts of a pattern are nested. -/
def depth : Pattern → Nat
  | .oneOf _ s => s.depth + 1
  | .repeated p => p.depth + 1
  | .group _ p => p.depth + 1
  | .choice ps => deepest ps + 1
  | .sequence ps => deepest ps + 1
  | _ => 0

/-- How deeply the parts of some patterns are nested. -/
def deepest : List Pattern → Nat
  | [] => 0
  | p :: rest => max p.depth (deepest rest)

end

/-- How deeply the parts of a pattern may be nested. -/
def deepestAllowed : Nat := 250

/-! ### Characters -/

/-- The flags in force. -/
structure Mode where
  wide : Bool := true
  caseless : Bool := false
deriving Repr, DecidableEq

/-- The flags in force after a change. -/
def Mode.after (m : Mode) (change : Flags) : Mode :=
  ⟨change.wide.getD m.wide, change.caseless.getD m.caseless⟩

/-- Whether a letter can be matched: a byte must not be a part of a longer character. -/
def Letter.isMatchable (l : Letter) (m : Mode) : Bool :=
  if m.wide then !m.caseless else !l.isByte || l.char.toNat < 0x80

/-- Whether a letter can be a member of a set. -/
def Letter.isMember (l : Letter) (m : Mode) : Bool :=
  if m.wide then !m.caseless else l.char.toNat < 0x80

mutual

/-- Whether a set can be matched.  What a set of bytes leaves out is always parts of longer
characters, too. -/
def CharSet.isMatchable (m : Mode) : CharSet → Bool
  | .nothing => true
  | .letter l => l.isMember m
  | .range first last => first.isMember m && last.isMember m
  | .named negated => if m.wide then !m.caseless else !negated
  | .shorthand negated => !m.wide && !negated
  | .nested negated s => (m.wide || !negated) && s.isMatchable m
  | .union sets => CharSet.areMatchable m sets
  | .operation left right => left.isMatchable m && right.isMatchable m

/-- Whether some sets can be matched. -/
def CharSet.areMatchable (m : Mode) : List CharSet → Bool
  | [] => true
  | s :: rest => s.isMatchable m && CharSet.areMatchable m rest

end

/-- What is known of a pattern up to some part of it. -/
structure Progress where
  mode : Mode := {}
  /-- Whether there is a boundary of words with letters beyond ASCII. -/
  wordBoundary : Bool := false
deriving Repr, DecidableEq

mutual

/-- Goes through a pattern; there is no result if it cannot be matched. -/
def follow? : Pattern → Progress → Option Progress
  | .empty, k => some k
  | .flags change, k => some { k with mode := k.mode.after change }
  | .letter l, k => if l.isMatchable k.mode then some k else none
  | .dot, k => if k.mode.wide then some k else none
  | .edge, k => some k
  | .wordBoundary, k => some { k with wordBoundary := k.wordBoundary || k.mode.wide }
  | .shorthand negated, k => if !k.mode.wide && !negated then some k else none
  | .oneOf negated s, k =>
    if (k.mode.wide || !negated) && s.isMatchable k.mode then some k else none
  | .repeated p, k => p.follow? k
  | .group change p, k => do
    let found ← p.follow? { k with mode := k.mode.after change }
    return { found with mode := k.mode }
  | .choice ps, k => followAll? ps k
  | .sequence ps, k => followAll? ps k

/-- Goes through some patterns, one after the other. -/
def followAll? : List Pattern → Progress → Option Progress
  | [], k => some k
  | p :: rest, k => do followAll? rest (← p.follow? k)

end

/-! ### Faults -/

/-- Why a text cannot be matched as a pattern. -/
inductive Fault where
  /-- It is no pattern, or no automaton can be built for it. -/
  | notBuilt
  /-- It has boundaries of words with letters beyond ASCII. -/
  | wordBoundary
deriving Repr, DecidableEq

/-- The text shown to people. -/
def Fault.message : Fault → String
  | .notBuilt => "error building NFA"
  | .wordBoundary =>
    "unsupported regex feature for DFAs: cannot build DFAs for regexes with Unicode word " ++
      "boundaries; switch to ASCII word boundaries, or heuristically enable Unicode word " ++
      "boundaries or use a different regex engine"

/-- Checks that a text can be matched as a pattern. -/
def check (text : String) : Except Fault Unit :=
  match (read? text).filter (·.depth ≤ deepestAllowed) |>.bind (·.follow? {}) with
  | none => .error .notBuilt
  | some found => if found.wordBoundary then .error .wordBoundary else .ok ()

end DeskView.Pattern
