/-!
# Patterns

A pattern is a regular expression, as it is written: letters, sets of characters, places between
characters, repetitions, groups, sequences and choices.  What a part of a pattern means depends on
the flags in front of it.
-/

namespace DeskView

namespace Pattern

/-- A character, as it is written in a pattern. -/
structure Letter where
  char : Char
  /-- Whether it is written as a byte, by two hexadecimal digits. -/
  isByte : Bool := false
deriving Repr, DecidableEq

/-- The flags that a pattern turns on or off. -/
structure Flags where
  /-- Whether blanks and comments are left out. -/
  spaced : Option Bool := none
  /-- Whether characters are meant, and not bytes. -/
  wide : Option Bool := none
  /-- Whether small and capital letters are alike. -/
  caseless : Option Bool := none
deriving Repr, DecidableEq

/-- A set of characters, as it is written between brackets. -/
inductive CharSet where
  | nothing
  | letter (l : Letter)
  | range (first last : Letter)
  /-- A set with a name between colons. -/
  | named (negated : Bool)
  /-- A set that one letter behind a backslash stands for. -/
  | shorthand (negated : Bool)
  /-- A set in brackets of its own. -/
  | nested (negated : Bool) (s : CharSet)
  | union (sets : List CharSet)
  /-- What two sets have in common, or what tells them apart. -/
  | operation (left right : CharSet)
deriving Repr

end Pattern

/-- A regular expression. -/
inductive Pattern where
  | empty
  /-- Flags for the rest of the group that they are in. -/
  | flags (change : Pattern.Flags)
  | letter (l : Pattern.Letter)
  /-- Any character. -/
  | dot
  /-- The beginning or the end of the text or of a line. -/
  | edge
  /-- A place where a word begins or ends, or none does. -/
  | wordBoundary
  /-- A set that one letter behind a backslash stands for. -/
  | shorthand (negated : Bool)
  /-- A set between brackets. -/
  | oneOf (negated : Bool) (s : Pattern.CharSet)
  | repeated (p : Pattern)
  | group (change : Pattern.Flags) (p : Pattern)
  | choice (ps : List Pattern)
  | sequence (ps : List Pattern)
deriving Repr

end DeskView
