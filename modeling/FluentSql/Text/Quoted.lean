import FluentSql.Text.Printable
/-!
Text between double quotes, for messages that show a value.

A character with a shape of its own stands for itself, the quote and the backslash are escaped by a
backslash, five control characters have short names, and every other character is given by its code point
in hexadecimal.
-/

namespace FluentSql.Text

/-- the hexadecimal digits of a number, in lower case and without leading zeros -/
def hexDigits (n : Nat) : List Char := Nat.toDigits 16 n

/-- the code point form: backslash, `u`, and the number in braces -/
def escapeByNumber (c : Char) : List Char := ['\\', 'u', '{'] ++ hexDigits c.toNat ++ ['}']

/-- what stands for one character inside double quotes -/
def quoteChar (c : Char) : List Char :=
  match c with
  | '\x00' => ['\\', '0']
  | '\t' => ['\\', 't']
  | '\r' => ['\\', 'r']
  | '\n' => ['\\', 'n']
  | '"' => ['\\', '"']
  | '\\' => ['\\', '\\']
  | c => if isExtending c || !isPrintable c then escapeByNumber c else [c]

/-- the text in double quotes -/
def quote (s : String) : String := String.ofList ('"' :: s.toList.flatMap quoteChar ++ ['"'])

end FluentSql.Text
