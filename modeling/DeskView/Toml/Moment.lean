import DeskView.Toml.Number

/-!
# Dates and times of TOML

A moment is a date, a time of day, or both with or without an offset from universal time.
-/

namespace DeskView.Toml

/-- A number of exactly `n` digits within bounds. -/
def fixedDigits (n low high : Nat) : Reader Nat := fun s =>
  let ds := s.take n
  if ds.length = n && ds.all Char.isDigit then
    let value := digitsValue 10 ds
    if low ≤ value && value ≤ high then some (value, s.drop n) else none
  else none

/-- Whether a year has a leap day. -/
def isLeapYear (year : Nat) : Bool :=
  year % 4 = 0 && (year % 100 != 0 || year % 400 = 0)

/-- The days of a month. -/
def daysIn (year month : Nat) : Nat :=
  if month = 2 then (if isLeapYear year then 29 else 28)
  else if month = 4 || month = 6 || month = 9 || month = 11 then 30
  else 31

/-- The text after a date. -/
def date? (s : List Char) : Option (List Char) := do
  let (year, s) ← fixedDigits 4 0 9999 s
  let s ← expect? '-' s
  let (month, s) ← fixedDigits 2 1 12 s
  let s ← expect? '-' s
  let (_, s) ← fixedDigits 2 1 (daysIn year month) s
  some s

/-- The text after the decimals of a second, if there are any. -/
def skipDecimals : List Char → List Char
  | '.' :: c :: rest => if c.isDigit then rest.dropWhile Char.isDigit else '.' :: c :: rest
  | s => s

/-- The text after a time of day. -/
def time? (s : List Char) : Option (List Char) := do
  let (_, s) ← fixedDigits 2 0 23 s
  let s ← expect? ':' s
  let (_, s) ← fixedDigits 2 0 59 s
  let s ← expect? ':' s
  let (_, s) ← fixedDigits 2 0 60 s
  some (skipDecimals s)

/-- The text after an offset from universal time. -/
def offset? : List Char → Option (List Char)
  | 'Z' :: rest => some rest
  | 'z' :: rest => some rest
  | c :: rest =>
    if c = '+' || c = '-' then do
      let (_, s) ← fixedDigits 2 0 23 rest
      let s ← expect? ':' s
      let (_, s) ← fixedDigits 2 0 59 s
      some s
    else none
  | [] => none

/-- The text after a time of day with what parts it from a date, and after an offset if one
follows. -/
def timePart? : List Char → Option (List Char)
  | c :: rest =>
    if c = 'T' || c = 't' || c = ' ' then (time? rest).map fun s => (offset? s).getD s else none
  | [] => none

/-- The text after a moment. -/
def moment? (s : List Char) : Option (List Char) :=
  match date? s with
  | some rest => some ((timePart? rest).getD rest)
  | none => time? s

/-- A moment. -/
def moment : Reader Value := fun s =>
  (moment? s).map fun rest => (.moment (written s rest), rest)

end DeskView.Toml
