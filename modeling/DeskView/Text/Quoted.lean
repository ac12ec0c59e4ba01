import DeskView.Text.Unprintable

/-!
# Quoted text

`quoted s` writes `s` between double quotes so that it can be read on one line: the quote, the
backslash and the usual control characters have a short escape, what cannot be printed is written
by its code point, and everything else stands for itself.
-/

namespace DeskView.Text

/-- A character by its code point in hexadecimal: `\u` and the digits in braces. -/
def codePointEscape (c : Char) : List Char :=
  ['\\', 'u', '\x7b'] ++ Nat.toDigits 16 c.toNat ++ ['\x7d']

/-- What stands behind the backslash in the short escape of a character, if it has one. -/
def shortEscape? : Char → Option Char
  | '"' => some '"'
  | '\\' => some '\\'
  | '\n' => some 'n'
  | '\r' => some 'r'
  | '\t' => some 't'
  | '\x00' => some '0'
  | _ => none

/-- How one character stands in quoted text. -/
def escapeChar (c : Char) : List Char :=
  match shortEscape? c with
  | some short => ['\\', short]
  | none => if isPrintable c then [c] else codePointEscape c

/-- `s` between double quotes, escaped. -/
def quoted (s : String) : String :=
  String.ofList ('"' :: s.toList.flatMap escapeChar ++ ['"'])

end DeskView.Text
