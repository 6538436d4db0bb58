import FluentSql.Engine.Numeral
/-!
Tokens of SQL text.

Every token remembers where it starts and ends, because the name of a result column is the text of its
expression. A text with a character that starts no token, or with a string that is not closed, has no
tokens at all from there on: `bad` stands for it.
-/

namespace FluentSql.Engine

/-- the kinds of tokens -/
inductive Token where
  /-- a word as it stands: a keyword or a name -/
  | word (text : String)
  /-- a name in quotes or brackets; double quotes may also stand around a string -/
  | name (text : String) (doubleQuoted : Bool)
  | string (text : String)
  | integer (n : Int)
  | real (x : Float)
  | blob (bytes : List UInt8)
  /-- a placeholder, with its number if it has one -/
  | param (number : Option Nat)
  | sign (text : String)
  | bad
deriving Inhabited

/-- a token with the places of its first character and of the character after it -/
structure Placed where
  token : Token
  start : Nat
  stop : Nat
deriving Inhabited

namespace Token

/-- white space between tokens -/
def isSpace (c : Char) : Bool :=
  c == ' ' || c == '\t' || c == '\n' || c == '\r' || c == '\x0c'

def isWordStart (c : Char) : Bool := c.isAlpha || c == '_' || 0x80 ≤ c.toNat

def isWordChar (c : Char) : Bool := c.isAlphanum || c == '_' || c == '$' || 0x80 ≤ c.toNat

/-- what follows a comment between strokes and stars -/
def afterComment : List Char → List Char
  | '*' :: '/' :: r => r
  | _ :: r => afterComment r
  | [] => []

/-- the text up to a closing quote, a doubled one standing for itself -/
def quoted (close : Char) : List Char → Option (List Char × List Char)
  | [] => none
  | c :: r =>
    if c = close then
      match r with
      | d :: r' => if d = close ∧ close ≠ ']' then (quoted close r').map fun (t, rest) => (c :: t, rest)
        else some ([], r)
      | [] => some ([], [])
    else (quoted close r).map fun (t, rest) => (c :: t, rest)

/-- bytes from pairs of hexadecimal digits -/
def hexBytes : List Char → Option (List UInt8)
  | [] => some []
  | [_] => none
  | a :: b :: r => do
    let x ← Text.hexValue a
    let y ← Text.hexValue b
    let rest ← hexBytes r
    pure (UInt8.ofNat (16 * x + y) :: rest)

/-- the token of a numeral without sign -/
def ofNumeral (text : List Char) : Token :=
  if text.all Char.isDigit then integer (Decimal.digitsValue text) else real (Numeral.magnitude text)

/-- a numeral; letters right behind it make it bad -/
def numeral (s : List Char) : Token × List Char :=
  let text := Numeral.spelling s
  let rest := s.drop text.length
  if rest.head?.any isWordChar then (bad, []) else (ofNumeral text, rest)

/-- a numeral by base sixteen, of which at most sixteen digits count; the upper half stands for negative
numbers -/
def hexNumeral (s : List Char) : Token × List Char :=
  let ds := s.takeWhile fun c => (Text.hexValue c).isSome
  let rest := s.dropWhile fun c => (Text.hexValue c).isSome
  let n := ds.foldl (fun n c => 16 * n + (Text.hexValue c).getD 0) 0
  if ds.isEmpty || rest.head?.any isWordChar || 2 ^ 64 ≤ n then (bad, [])
  else (integer (if n < 2 ^ 63 then n else n - (2 ^ 64 : Nat)), rest)

def ofQuoted (make : String → Token) (close : Char) (s : List Char) : Token × List Char :=
  match quoted close s with
  | some (t, r) => (make (String.ofList t), r)
  | none => (bad, [])

/-- signs of two characters -/
def longSigns : List String := ["<=", ">=", "<>", "!=", "==", "||", "<<", ">>"]

/-- signs of one character -/
def shortSigns : List Char := ['(', ')', ',', '.', ';', '+', '-', '*', '/', '%', '=', '<', '>', '&', '|', '~']

/-- the token at the start of a text that starts with no blank and no comment, and the rest -/
def next (s : List Char) : Token × List Char :=
  match s with
  | [] => (bad, [])
  | '\'' :: r => ofQuoted string '\'' r
  | '"' :: r => ofQuoted (name · true) '"' r
  | '`' :: r => ofQuoted (name · false) '`' r
  | '[' :: r => ofQuoted (name · false) ']' r
  | '?' :: r =>
    let ds := r.takeWhile Char.isDigit
    (param (if ds.isEmpty then none else some (Decimal.digitsValue ds)), r.dropWhile Char.isDigit)
  | '0' :: 'x' :: r => hexNumeral r
  | '0' :: 'X' :: r => hexNumeral r
  | 'x' :: '\'' :: r => blobLiteral r
  | 'X' :: '\'' :: r => blobLiteral r
  | c :: r =>
    if c.isDigit ∨ (c = '.' ∧ (r.head?.any Char.isDigit)) then numeral s
    else if isWordStart c then (word (String.ofList (s.takeWhile isWordChar)), s.dropWhile isWordChar)
    else if longSigns.contains (String.ofList (s.take 2)) then (sign (String.ofList (s.take 2)), s.drop 2)
    else if shortSigns.contains c then (sign (String.singleton c), r)
    else (bad, [])
where
  /-- bytes up to a closing quote -/
  blobLiteral (r : List Char) : Token × List Char :=
    match quoted '\'' r with
    | some (t, rest) =>
      match hexBytes t with
      | some bytes => (blob bytes, rest)
      | none => (bad, [])
    | none => (bad, [])

/-- all tokens of a text of `size` characters, `fuel` bounding the steps -/
def scan (size : Nat) : Nat → List Char → List Placed
  | 0, _ => []
  | fuel + 1, s =>
    match s with
    | [] => []
    | '-' :: '-' :: r => scan size fuel (r.dropWhile (· != '\n'))
    | '/' :: '*' :: r => scan size fuel (afterComment r)
    | c :: r =>
      if isSpace c then scan size fuel r
      else
        let (token, rest) := next s
        ⟨token, size - s.length, size - rest.length⟩ :: scan size fuel rest

/-- the tokens of a text -/
def all (s : List Char) : List Placed := scan s.length (s.length + 1) s

end Token

end FluentSql.Engine
