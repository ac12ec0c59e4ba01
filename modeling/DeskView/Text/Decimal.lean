/-!
# Decimal text with a fixed number of places

`thousandths m e` is the number of thousandths nearest to `m · 2 ^ e`, a tie going to the even
one; `fixed3 x` writes a binary floating-point number with three places.  The rounding is done on
the exact value of the number, never on an already rounded decimal.
-/

namespace DeskView.Text

/-- `num / den` rounded to the nearest natural number, a tie going to the even one. -/
def roundDiv (num den : Nat) : Nat :=
  let q := num / den
  let r := num % den
  if 2 * r < den then q
  else if den < 2 * r then q + 1
  else q + q % 2

/-- The number of thousandths nearest to `m · 2 ^ e`. -/
def thousandths (m : Nat) (e : Int) : Nat :=
  match e with
  | .ofNat k => m * Nat.pow 2 k * 1000
  | .negSucc k => roundDiv (m * 1000) (Nat.pow 2 (k + 1))

/-- `n` thousandths as `units.ddd`. -/
def placed3 (n : Nat) : String :=
  let d := n % 1000
  toString (n / 1000) ++ "." ++ toString (d / 100) ++ toString (d / 10 % 10) ++ toString (d % 10)

/-- The sign in front of a number; a positive one has none. -/
def signText : Float.Model.UnpackedFloat.Sign → String
  | .positive => ""
  | .negative => "-"

/-- A number with three places: `NaN`, `inf` and `-inf` for what has no decimals, and the sign of
a zero is kept. -/
def fixed3 (x : Float32) : String :=
  match x.toModel.unpack with
  | .notANumber => "NaN"
  | .infinity s => signText s ++ "inf"
  | .zero s => signText s ++ placed3 0
  | .finite s m e _ => signText s ++ placed3 (thousandths m e)

end DeskView.Text
