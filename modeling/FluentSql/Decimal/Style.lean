import FluentSql.Decimal.Shortest
/-!
How a floating point number is written down: which exponents are positional, how whole numbers and
exponents look, and what stands for the numbers that are not finite. The digits themselves are always the
shortest ones that read back; of two equally near ones each style takes its own.
-/

namespace FluentSql.Decimal

/-- the decisions of a number format -/
structure Style where
  tie : Tie
  /-- the decimal exponents of the leading digit that are written positionally; none means all -/
  positional : Option (Int × Int)
  /-- a whole number in positional form ends in `.0` -/
  pointZero : Bool
  /-- a positive exponent has a sign -/
  plusSign : Bool
  infinity : String
  minusInfinity : String
  nan : String

/-- plain positional text: never an exponent, whole numbers without a point -/
def plain : Style := ⟨.away, none, false, false, "inf", "-inf", "NaN"⟩

/-- a number in an interchange text, double precision -/
def interchange : Style := ⟨.even, some (-5, 15), true, true, "null", "null", "null"⟩

/-- a number in an interchange text, single precision -/
def interchangeSingle : Style := ⟨.even, some (-6, 12), true, true, "null", "null", "null"⟩

/-! ## Digits -/

def zeros (n : Nat) : List Char := List.replicate n '0'

def decimalDigits (n : Nat) : List Char := Nat.toDigits 10 n

/-- the digits with the point at its place -/
def writePositional (pointZero : Bool) (d : Scaled) : List Char :=
  let ds := decimalDigits d.coefficient
  if 0 ≤ d.exponent then
    ds ++ zeros d.exponent.toNat ++ if pointZero then ['.', '0'] else []
  else
    let places := (-d.exponent).toNat
    let whole := if ds.length ≤ places then ['0'] else ds.take (ds.length - places)
    let part := zeros (places - ds.length) ++ ds.drop (ds.length - places)
    whole ++ '.' :: part

/-- one digit, the point, the others, and the exponent -/
def writeExponent (plusSign : Bool) (d : Scaled) : List Char :=
  let ds := decimalDigits d.coefficient
  let part := match ds.drop 1 with
    | [] => []
    | more => '.' :: more
  let e := d.magnitude
  let sign := if e < 0 then ['-'] else if plusSign then ['+'] else []
  ds.take 1 ++ part ++ 'e' :: sign ++ decimalDigits e.natAbs

/-- a decimal without sign -/
def Style.writeScaled (n : Style) (d : Scaled) : List Char :=
  let inside := match n.positional with
    | none => true
    | some (least, greatest) => d.coefficient = 0 || (least ≤ d.magnitude && d.magnitude ≤ greatest)
  if inside then writePositional n.pointZero d else writeExponent n.plusSign d

/-- a number of the format given by its bits, sign and all -/
def Style.write (n : Style) (f : Format) (negative isNan : Bool) (bits : Nat) : String :=
  if isNan then n.nan
  else match f.decode bits with
    | none => if negative then n.minusInfinity else n.infinity
    | some b =>
      String.ofList ((if negative then ['-'] else []) ++ n.writeScaled (f.shortest n.tie b))

/-- a double precision number -/
def Style.ofFloat (n : Style) (x : Float) : String :=
  n.write double (2 ^ 63 ≤ x.toBits.toNat) x.isNaN (x.toBits.toNat % 2 ^ 63)

/-- a single precision number -/
def Style.ofFloat32 (n : Style) (x : Float32) : String :=
  n.write single (2 ^ 31 ≤ x.toBits.toNat) x.isNaN (x.toBits.toNat % 2 ^ 31)

end FluentSql.Decimal
