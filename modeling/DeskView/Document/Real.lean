import DeskView.Text.Shortest

/-!
# How real numbers are written in documents

A real number is written with the fewest digits that stand for it and no other.  Numbers from
`0.00001` up to `10 ^ 16` have a point and at least one digit on either side of it; others have one
digit in front of the point, and an exponent with its sign.
-/

namespace DeskView

/-- The digits of a decimal below one or above it, with a point that `whole` digits stand before. -/
def pointed (digits : List Char) (whole : Int) : List Char :=
  if whole ≤ 0 then '0' :: '.' :: List.replicate (-whole).toNat '0' ++ digits
  else
    let front := digits.take whole.toNat
    let fraction := digits.drop whole.toNat
    front ++ List.replicate (whole.toNat - front.length) '0' ++ '.' ::
      (if fraction.isEmpty then ['0'] else fraction)

/-- The digits of a decimal and its exponent: the power of ten of its first digit. -/
def exponential (digits : List Char) (exponent : Int) : List Char :=
  digits.take 1 ++ (if digits.length ≤ 1 then [] else '.' :: digits.drop 1) ++ 'e' ::
    (if exponent < 0 then '-' else '+') :: Nat.toDigits 10 exponent.natAbs

/-- Whether numbers whose first digit has this power of ten are written without an exponent. -/
def isPlainExponent (exponent : Int) : Bool := -5 ≤ exponent && exponent < 16

/-- A decimal, written with or without an exponent. -/
def scaledText (s : Text.Scaled) : List Char :=
  let digits := Nat.toDigits 10 s.digits
  let whole := s.power + digits.length
  if isPlainExponent (whole - 1) then pointed digits whole else exponential digits (whole - 1)

/-- A finite real number.  The sign of zero is kept. -/
def realText (x : Float) : String :=
  let sign := if x.toBits >>> 63 = 0 then [] else ['-']
  let magnitude := Text.Binary.ofBits x.toBits
  String.ofList (sign ++
    if magnitude.mantissa = 0 then ['0', '.', '0'] else scaledText magnitude.shortest)

end DeskView
