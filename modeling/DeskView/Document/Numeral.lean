import DeskView.Document.Basic

/-!
# Numerals

A numeral is a sign, digits, and possibly a fraction and an exponent.  Without the last two it is an
integer if it fits in 64 bits, with a sign or without; anything else is a real number.

The digits of a real number are read as one integer, as many of them as fit in 64 bits.  Digits
after that only count if they stand before the point.  The integer is then multiplied or divided by
a power of ten.  Integer, power and result are rounded to double precision, each for itself, so that
the result need not be the number nearest to the numeral.
-/

namespace DeskView

/-- The digits of a real number as far as they are read, times a power of ten. -/
structure Significand where
  value : Nat := 0
  power : Int := 0
  /-- Whether a digit did not fit any more. -/
  full : Bool := false
deriving Repr, DecidableEq

namespace Significand

/-- The significand with one more digit, if it fits. -/
def append? (s : Significand) (c : Char) : Option Significand :=
  let value := s.value * 10 + (c.toNat - '0'.toNat)
  if s.full || UInt64.size ≤ value then none else some { s with value }

/-- The significand with one more digit before the point. -/
def whole (s : Significand) (c : Char) : Significand :=
  (s.append? c).getD { s with power := s.power + 1, full := true }

/-- The significand with one more digit after the point. -/
def fraction (s : Significand) (c : Char) : Significand :=
  match s.append? c with
  | some next => { next with power := s.power - 1 }
  | none => { s with full := true }

/-- The largest power of ten of double precision. -/
def largestPower : Nat := 308

/-- A power of ten. -/
def powerOfTen (n : Nat) : Float := Float.ofScientific 1 false n

/-- `x` times ten to the power of `power`, in steps of powers that there are.  A result beyond all
numbers is none. -/
def scaled? (x : Float) (power : Int) : (fuel : Nat) → Option Float
  | 0 => some x
  | fuel + 1 =>
    if power.natAbs ≤ largestPower then
      if power < 0 then some (x / powerOfTen power.natAbs)
      else
        let y := x * powerOfTen power.natAbs
        if y.isInf then none else some y
    else if x == 0 then some x
    else if 0 ≤ power then none
    else scaled? (x / powerOfTen largestPower) (power + largestPower) fuel

/-- The steps after which a number that is divided has become zero. -/
def steps : Nat := 4

/-- The real number that a significand stands for. -/
def toReal? (s : Significand) : Option Float := scaled? s.value.toUInt64.toFloat s.power steps

end Significand

namespace Document

/-- The exponent of a numeral, from its mark on. -/
def exponent? : List Char → Option Int
  | [] => some 0
  | _ :: body =>
    let (minus, digits) := match body with
      | '-' :: digits => (true, digits)
      | '+' :: digits => (false, digits)
      | digits => (false, digits)
    if digits.isEmpty || !digits.all Char.isDigit then none
    else
      let n : Int := digits.foldl (fun n c => n * 10 + (c.toNat - '0'.toNat)) 0
      some (if minus then -n else n)

/-- The real number with these digits before and after the point. -/
def real? (minus : Bool) (whole fraction : List Char) (exponent : Int) : Option Document :=
  let read : Significand := fraction.foldl Significand.fraction
    { whole.foldl Significand.whole {} with full := false }
  ({ read with power := read.power + exponent }.toReal?).map fun x =>
    .real (if minus then -x else x)

/-- The integer with these digits, or the real number if it does not fit. -/
def integer? (minus : Bool) (digits : List Char) : Option Document :=
  let n := digits.foldl (fun n c => n * 10 + (c.toNat - '0'.toNat)) 0
  if minus then
    if 0 < n && n ≤ Int64.minValue.toInt.natAbs then some (.integer (-n))
    else real? minus digits [] 0
  else if n < UInt64.size then some (.integer n) else real? minus digits [] 0

/-- The number that a numeral stands for. -/
def ofNumeral? (text : String) : Option Document :=
  let (minus, body) := match text.toList with
    | '-' :: body => (true, body)
    | body => (false, body)
  let whole := body.takeWhile Char.isDigit
  if whole.isEmpty then none
  else
    match body.dropWhile Char.isDigit with
    | [] => integer? minus whole
    | '.' :: rest => do
      let fraction := rest.takeWhile Char.isDigit
      if fraction.isEmpty then none
      else real? minus whole fraction (← exponent? (rest.dropWhile Char.isDigit))
    | rest => do real? minus whole [] (← exponent? rest)

end Document

end DeskView
