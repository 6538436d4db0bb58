import FluentSql.Decimal.Extended
import FluentSql.Decimal.Style
import FluentSql.Decimal.Numeral
import FluentSql.Text.Ascii
import FluentSql.Value
/-!
Numerals as the engine reads and writes them.

A numeral in a command or in a stored text consists of digits, perhaps with a point and an exponent
(`spelling`). A whole numeral that fits is a whole number; any other becomes real in steps that round
(`magnitude`), and a real number becomes text with fifteen digits at most (`ofReal`).
-/

namespace FluentSql.Engine

namespace Numeral

/-! ## Spelling -/

/-- white space around a number inside a text -/
def isSpace (c : Char) : Bool := c == ' ' || (0x09 ≤ c.toNat && c.toNat ≤ 0x0d)

/-- the exponent of a numeral, if there is one here -/
def exponentPart (s : List Char) : List Char :=
  match s with
  | c :: r =>
    if c = 'e' ∨ c = 'E' then
      let (mark, ds) := match r with
        | '+' :: r' => (['+'], r')
        | '-' :: r' => (['-'], r')
        | r' => ([], r')
      let digits := ds.takeWhile Char.isDigit
      if digits.isEmpty then [] else c :: mark ++ digits
    else []
  | [] => []

/-- the characters of a numeral: digits, an optional point with digits, an optional exponent -/
def spelling (s : List Char) : List Char :=
  let whole := s.takeWhile Char.isDigit
  let rest := s.dropWhile Char.isDigit
  let part := match rest with
    | '.' :: r => '.' :: r.takeWhile Char.isDigit
    | _ => []
  whole ++ part ++ exponentPart (rest.drop part.length)

/-! ## Reading -/

/-- a coefficient that takes no more digits -/
def fullCoefficient : Nat := (2 ^ 64 - 10) / 10

/-- appends digits to a coefficient until it is full; answers how many were left over -/
def appendDigits : List Char → Nat → Nat × Nat
  | [], n => (n, 0)
  | c :: r, n => if n < fullCoefficient then appendDigits r (10 * n + (c.toNat - 48)) else (n, r.length + 1)

/-- the value of the digits of an exponent; beyond five of them they no longer count -/
def exponentValue (ds : List Char) : Nat :=
  ds.foldl (fun e c => if e < 10000 then 10 * e + (c.toNat - 48) else 10000) 0

/-- the exponent behind its mark -/
def readExponent (s : List Char) : Int :=
  let (negative, ds) := Decimal.splitSign (s.drop 1)
  if negative then -(exponentValue ds : Int) else exponentValue ds

/-- the decimal that a spelling stands for, digits beyond the twentieth left out -/
def decimal (text : List Char) : Decimal.Scaled :=
  let whole := text.takeWhile Char.isDigit
  let rest := text.dropWhile Char.isDigit
  let part := if rest.head? = some '.' then (rest.drop 1).takeWhile Char.isDigit else []
  let mark := if rest.head? = some '.' then (rest.drop 1).dropWhile Char.isDigit else rest
  let (n, excess) := appendDigits whole 0
  let (m, unused) := appendDigits part n
  ⟨m, readExponent mark + excess - (part.length - unused : Nat)⟩

/-- the real number that a spelling without sign stands for -/
def magnitude (text : List Char) : Float :=
  Float.ofBits (UInt64.ofNat (Decimal.Extended.toDouble (decimal text)))

/-- the real number nearest to a whole one that does not fit -/
def ofLarge (n : Int) : Float :=
  let x := magnitude (Decimal.decimalDigits n.natAbs)
  if n < 0 then -x else x

/-- a whole number if it has no point, no exponent and fits, else a real one -/
def value (negative : Bool) (text : List Char) : Value :=
  let x := magnitude text
  let real : Value := .real (if negative then -x else x)
  if text.all Char.isDigit then
    let n : Int := if negative then -(Decimal.digitsValue text : Int) else Decimal.digitsValue text
    (Value.fitInt64 n).elim real .integer
  else real

/-- the number at the start of a text, behind white space, and what follows it -/
def leading (s : List Char) : Option (Value × List Char) :=
  let (negative, r) := Decimal.splitSign (s.dropWhile isSpace)
  let text := spelling r
  if text.any Char.isDigit then some (value negative text, r.drop text.length) else none

/-- the number that a text holds, if it holds nothing else -/
def whole (s : List Char) : Option Value :=
  match leading s with
  | some (v, rest) => if rest.all isSpace then some v else none
  | none => none

/-! ## Writing -/

/-- the leading fifteen digits, a half going up -/
def fifteenDigits (b : Decimal.Binary) : Decimal.Scaled :=
  if b.mantissa = 0 then ⟨0, 0⟩
  else
    let d := Decimal.Extended.digits b
    let excess := Decimal.digitCount d.coefficient - 15
    Decimal.Scaled.strip ⟨(d.coefficient / 10 ^ (excess - 1) + 5) / 10, d.exponent + excess⟩

/-- the digits of an exponent, at least two -/
def exponentText (e : Int) : List Char :=
  let ds := Decimal.decimalDigits e.natAbs
  (if e < 0 then '-' else '+') :: (if ds.length < 2 then '0' :: ds else ds)

/-- a decimal with a point: positional from the fifth place behind the point to fifteen digits before it -/
def scaledText (d : Decimal.Scaled) : List Char :=
  if d.coefficient = 0 ∨ (-4 ≤ d.magnitude ∧ d.magnitude ≤ 14) then Decimal.writePositional true d
  else
    let ds := Decimal.decimalDigits d.coefficient
    ds.take 1 ++ '.' :: (if ds.length ≤ 1 then ['0'] else ds.drop 1) ++ 'e' :: exponentText d.magnitude

/-- the text that a real number becomes in a text column -/
def ofReal (x : Float) : String :=
  let bits := x.toBits.toNat
  match Decimal.double.decode (bits % 2 ^ 63) with
  | none => if 2 ^ 63 ≤ bits then "-Inf" else "Inf"
  | some b =>
    let ds := scaledText (fifteenDigits b)
    String.ofList (if 2 ^ 63 ≤ bits ∧ b.mantissa ≠ 0 then '-' :: ds else ds)

end Numeral

end FluentSql.Engine
