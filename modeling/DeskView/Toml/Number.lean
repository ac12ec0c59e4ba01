import DeskView.Toml.Lexical
import DeskView.Toml.Value

/-!
# Numbers of TOML

An integer has 64 bits with sign; its digits may be grouped by single underscores, and it may be
written in base sixteen, eight or two without a sign.  A floating-point number has a fraction or an
exponent; one that would round to positive infinity is refused, while the infinities and the
undefined number can be written by name.
-/

namespace DeskView.Toml

/-! ### Digits -/

/-- More digits after the first: each may have one underscore before it.  At most `fuel` of them; a
lone underscore is an error. -/
def moreDigits (isDigit : Char → Bool) : (fuel : Nat) → Reader (List Char)
  | 0, s => some ([], s)
  | fuel + 1, s =>
    match s with
    | '_' :: c :: rest =>
      if isDigit c then (moreDigits isDigit fuel rest).map fun (ds, rest) => (c :: ds, rest)
      else none
    | ['_'] => none
    | c :: rest =>
      if isDigit c then (moreDigits isDigit fuel rest).map fun (ds, rest) => (c :: ds, rest)
      else some ([], s)
    | [] => some ([], s)

/-- One digit or more, possibly grouped. -/
def digits (isDigit : Char → Bool) : Reader (List Char)
  | c :: rest =>
    if isDigit c then
      (moreDigits isDigit rest.length rest).map fun (ds, rest) => (c :: ds, rest)
    else none
  | [] => none

/-- Whether a sign was written, and whether it was a minus. -/
def sign : List Char → (Option Bool × List Char)
  | '+' :: rest => (some false, rest)
  | '-' :: rest => (some true, rest)
  | s => (none, s)

/-- The digits of a decimal integer: a zero alone, or digits that do not begin with zero. -/
def decimalDigits : Reader (List Char)
  | '0' :: rest => some (['0'], rest)
  | s => digits Char.isDigit s

/-! ### Integers -/

/-- Whether a number fits in 64 bits with sign. -/
def fitsWord (n : Int) : Bool := Int64.minValue.toInt ≤ n && n ≤ Int64.maxValue.toInt

/-- An integer in a base other than ten, after its mark. -/
def basedInteger (base : Nat) (isDigit : Char → Bool) : Reader Value := fun s => do
  let (ds, rest) ← digits isDigit s
  let n : Int := digitsValue base ds
  if fitsWord n then some (.integer n, rest) else none

/-- An integer. -/
def integer : Reader Value
  | '0' :: 'x' :: rest => basedInteger 16 isHexDigit rest
  | '0' :: 'o' :: rest => basedInteger 8 (fun c => '0' ≤ c && c ≤ '7') rest
  | '0' :: 'b' :: rest => basedInteger 2 (fun c => c = '0' || c = '1') rest
  | s => do
    let (minus, s) := sign s
    let (ds, rest) ← decimalDigits s
    let n : Int := digitsValue 10 ds
    let n := if minus = some true then -n else n
    if fitsWord n then some (.integer n, rest) else none

/-! ### Floating-point numbers -/

/-- The half-way point above the largest finite number in double precision: what reaches it rounds
to infinity. -/
def infinityBound : Nat := Nat.pow 2 1024 - Nat.pow 2 970

/-- Whether the positive number made of `ds`, as an integer times ten to the power of `exponent`,
rounds to infinity. -/
def roundsToInfinity (ds : List Char) (exponent : Int) : Bool :=
  let n := digitsValue 10 ds
  let magnitude := ((ds.dropWhile (· = '0')).length : Int) + exponent
  if n = 0 || magnitude < 300 then false
  else if 400 < magnitude then true
  else
    match exponent with
    | .ofNat k => infinityBound ≤ n * Nat.pow 10 k
    | .negSucc k => infinityBound * Nat.pow 10 (k + 1) ≤ n

/-- The digits after a point. -/
def fraction : Reader (List Char)
  | '.' :: rest => digits Char.isDigit rest
  | _ => none

/-- The power of ten after an exponent mark. -/
def exponent : Reader Int
  | c :: rest =>
    if c = 'e' || c = 'E' then
      let (minus, rest) := sign rest
      (digits Char.isDigit rest).map fun (ds, rest) =>
        let n : Int := digitsValue 10 ds
        (if minus = some true then -n else n, rest)
    else none
  | [] => none

/-- A fraction, an exponent or both. -/
def fractionExponent : Reader (List Char × Int) := fun s =>
  match fraction s with
  | some (ds, rest) =>
    match exponent rest with
    | some (e, rest) => some ((ds, e), rest)
    | none => some ((ds, 0), rest)
  | none => (exponent s).map fun (e, rest) => (([], e), rest)

/-- What was written of a text, up to the rest. -/
def written (s rest : List Char) : String := String.ofList (s.take (s.length - rest.length))

/-- A floating-point number in digits. -/
def decimalFloat : Reader Value := fun s => do
  let (minus, body) := sign s
  let (whole, afterWhole) ← decimalDigits body
  let ((part, e), rest) ← fractionExponent afterWhole
  if minus != some true && roundsToInfinity (whole ++ part) (e - part.length) then none
  else some (.float (written s rest), rest)

/-- An infinity or the undefined number, by name. -/
def namedFloat : Reader Value := fun s =>
  let (_, body) := sign s
  match expectAll? "inf".toList body with
  | some rest => some (.float (written s rest), rest)
  | none => (expectAll? "nan".toList body).map fun rest => (.float (written s rest), rest)

/-- A floating-point number. -/
def float : Reader Value := fun s =>
  match decimalFloat s with
  | some r => some r
  | none => namedFloat s

end DeskView.Toml
