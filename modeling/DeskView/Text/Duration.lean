/-!
# Durations as text

A duration of whole milliseconds is written in seconds from one second up, else in milliseconds,
with no more decimals than it has; nothing at all is `0ns`.
-/

namespace DeskView.Text

/-- The three digits of `n` thousandths, without the zeros at their end. -/
def thousandthsDigits (n : Nat) : List Char :=
  let digits := [n / 100 % 10, n / 10 % 10, n % 10].map Nat.digitChar
  (digits.reverse.dropWhile (· = '0')).reverse

/-- A duration of `ms` milliseconds. -/
def duration (ms : Nat) : String :=
  if ms = 0 then "0ns"
  else if ms < 1000 then toString ms ++ "ms"
  else
    match thousandthsDigits (ms % 1000) with
    | [] => toString (ms / 1000) ++ "s"
    | digits => toString (ms / 1000) ++ "." ++ String.ofList digits ++ "s"

end DeskView.Text
