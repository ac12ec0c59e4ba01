import DeskView.Toml.Lexical

/-!
# Strings of TOML

There are four kinds: between double quotes with escapes or between single quotes without, each on
one line or, with the quote written three times, on several.
-/

namespace DeskView.Toml

/-! ### Escapes -/

/-- The character that some hexadecimal digits stand for, if there is one. -/
def scalar? (digits : List Char) : Option Char :=
  let n := digitsValue 16 digits
  if digits.all isHexDigit && (n < 0xd800 || (0xdfff < n && n < 0x110000)) then some (Char.ofNat n)
  else none

/-- A character written by the code point in the next `n` digits. -/
def codePoint (n : Nat) : Reader Char := fun s =>
  if s.length < n then none
  else (scalar? (s.take n)).map fun c => (c, s.drop n)

/-- The character that an escape stands for, after its backslash. -/
def escape : Reader Char
  | 'b' :: rest => some ('\x08', rest)
  | 't' :: rest => some ('\t', rest)
  | 'n' :: rest => some ('\n', rest)
  | 'f' :: rest => some ('\x0c', rest)
  | 'r' :: rest => some ('\r', rest)
  | '"' :: rest => some ('"', rest)
  | '\\' :: rest => some ('\\', rest)
  | 'u' :: rest => codePoint 4 rest
  | 'U' :: rest => codePoint 8 rest
  | _ => none

/-! ### On one line -/

/-- The rest of a string between double quotes; at most `fuel` characters. -/
def basicRest : (fuel : Nat) → (read : List Char) → Reader String
  | 0, _, _ => none
  | fuel + 1, read, s =>
    match s with
    | '"' :: rest => some (String.ofList read.reverse, rest)
    | '\\' :: rest =>
      match escape rest with
      | some (c, rest) => basicRest fuel (c :: read) rest
      | none => none
    | c :: rest => if isBasicChar c then basicRest fuel (c :: read) rest else none
    | [] => none

/-- A string between double quotes, after the first. -/
def basicString : Reader String := fun s => basicRest (s.length + 1) [] s

/-- A string between single quotes, after the first. -/
def literalString : Reader String := fun s =>
  match s.dropWhile isLiteralChar with
  | '\'' :: rest => some (String.ofList (s.takeWhile isLiteralChar), rest)
  | _ => none

/-! ### On several lines -/

/-- The text after the line end that may follow the opening quotes. -/
def skipFirstNewline (s : List Char) : List Char := (newline? s).getD s

/-- The text after blanks and line ends; at most `fuel` of them. -/
def skipFolded : (fuel : Nat) → List Char → List Char
  | 0, s => s
  | fuel + 1, s =>
    let s := skipBlanks s
    match newline? s with
    | some rest => skipFolded fuel rest
    | none => s

/-- The text after a line end that is escaped, and after the blanks and line ends behind it. -/
def foldedLine? (s : List Char) : Option (List Char) :=
  (newline? (skipBlanks s)).map fun rest => skipFolded rest.length rest

/-- What a run of `n` quotes inside a long string means: `none` if there are too many, else whether
the string ends with the run, and how many quotes of the run belong to it. -/
def quoteRun (n : Nat) : Option (Bool × Nat) :=
  if n < 3 then some (false, n) else if n ≤ 5 then some (true, n - 3) else none

/-- The rest of a long string with escapes or without; at most `fuel` steps. -/
def longRest (quote : Char) (escapes : Bool) : (fuel : Nat) → (read : List Char) → Reader String
  | 0, _, _ => none
  | fuel + 1, read, s =>
    match newline? s with
    | some rest => longRest quote escapes fuel ('\n' :: read) rest
    | none =>
      match s with
      | [] => none
      | c :: rest =>
        if c = quote then
          let n := (s.takeWhile (· = quote)).length
          match quoteRun n with
          | none => none
          | some (true, kept) =>
            some (String.ofList (List.replicate kept quote ++ read).reverse, s.drop n)
          | some (false, kept) =>
            longRest quote escapes fuel (List.replicate kept quote ++ read) (s.drop n)
        else if escapes && c = '\\' then
          match foldedLine? rest with
          | some rest => longRest quote escapes fuel read rest
          | none =>
            match escape rest with
            | some (c, rest) => longRest quote escapes fuel (c :: read) rest
            | none => none
        else if isCommentChar c then longRest quote escapes fuel (c :: read) rest
        else none

/-- A long string, after the opening quotes. -/
def longString (quote : Char) (escapes : Bool) : Reader String := fun s =>
  longRest quote escapes (s.length + 1) [] (skipFirstNewline s)

/-- A string of any kind. -/
def quotation : Reader String
  | '"' :: '"' :: '"' :: rest => longString '"' true rest
  | '"' :: rest => basicString rest
  | '\'' :: '\'' :: '\'' :: rest => longString '\'' false rest
  | '\'' :: rest => literalString rest
  | _ => none

end DeskView.Toml
