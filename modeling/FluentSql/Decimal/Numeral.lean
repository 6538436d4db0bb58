import FluentSql.Decimal.Binary
/-!
Reading numerals: whole numbers with an optional sign, and real numbers with point, exponent, or one of
the words for infinity and NaN.

A numeral is read whole or not at all; surrounding white space is not part of it. The value of a digit
string is `digitsValue`, apart from the readers, and the real readers round once, from the exact fraction.
-/

namespace FluentSql.Decimal

/-- the value of a string of decimal digits -/
def digitsValue (ds : List Char) : Nat := ds.foldl (fun v c => 10 * v + (c.toNat - 48)) 0

/-- digits only, and at least one -/
def isDigits (ds : List Char) : Bool := !ds.isEmpty && ds.all Char.isDigit

/-- an optional sign: whether it was minus, and what follows -/
def splitSign : List Char → Bool × List Char
  | '-' :: r => (true, r)
  | '+' :: r => (false, r)
  | r => (false, r)

/-- a whole number: an optional sign and digits -/
def readInt (s : List Char) : Option Int :=
  let (negative, ds) := splitSign s
  if isDigits ds then
    some (if negative then -(digitsValue ds : Int) else digitsValue ds)
  else none

/-! ## Real numbers -/

/-- digits around an optional point: the digits without it, and how many stand behind it -/
def splitPoint (s : List Char) : List Char × Nat × List Char :=
  let whole := s.takeWhile Char.isDigit
  match s.dropWhile Char.isDigit with
  | '.' :: r =>
    let part := r.takeWhile Char.isDigit
    (whole ++ part, part.length, r.dropWhile Char.isDigit)
  | r => (whole, 0, r)

/-- an optional exponent that ends the numeral -/
def readExponent : List Char → Option Int
  | [] => some 0
  | c :: r => if c = 'e' ∨ c = 'E' then readInt r else none

/-- the double nearest to `coefficient · 10 ^ exponent`, given how many digits the coefficient has; beyond
the range of the format there is no need to raise ten to the exponent -/
def scaledBits (coefficient digits : Nat) (exponent : Int) : Nat :=
  if coefficient = 0 then 0
  else if 400 < exponent + digits then double.infinity
  else if exponent + digits < -400 then 0
  else double.nearest (coefficient * 10 ^ exponent.toNat) (10 ^ (-exponent).toNat)

/-- the words for the numbers that are not finite, in any case of letters -/
def readWord (s : List Char) : Option Nat :=
  let w := String.ofList (s.map Char.toLower)
  if w = "inf" ∨ w = "infinity" then some double.infinity
  else if w = "nan" then some (double.infinity + 2 ^ 51)
  else none

/-- a real numeral without sign, as bits -/
def readMagnitude (s : List Char) : Option Nat :=
  let (ds, places, rest) := splitPoint s
  if ds.isEmpty then readWord s
  else
    match readExponent rest with
    | none => readWord s
    | some e =>
      let significant := ds.dropWhile (· == '0')
      some (scaledBits (digitsValue significant) significant.length (e - places))

/-- a real number: an optional sign and a numeral or word -/
def readFloat (s : List Char) : Option Float :=
  let (negative, r) := splitSign s
  (readMagnitude r).map fun bits =>
    Float.ofBits (UInt64.ofNat (bits + if negative then 2 ^ 63 else 0))

end FluentSql.Decimal
