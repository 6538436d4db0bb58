import FluentSql.Decimal.Shortest
/-!
Decimal scaling in extended precision.

A number is brought from one power of ten to another in steps of a hundred, ten and one decimal places, in
numbers with a mantissa of 64 binary digits. Every step rounds once, so what comes out need not be the number
nearest to the exact result; it is the same on every machine, because all steps are exact integer arithmetic
with one rounding (`Binary.rounded`).

`Extended.toDouble` takes a decimal to a double precision number, `Extended.digits` a double precision number
to its leading decimal digits.
-/

namespace FluentSql.Decimal

namespace Binary

/-- a number with a mantissa of at most so many binary digits, a tie going to the even one -/
def rounded (digits : Nat) (b : Binary) : Binary :=
  let excess := Nat.log2 b.mantissa + 1 - digits
  ⟨roundToEven b.mantissa (2 ^ excess), b.exponent + excess⟩

def less (a b : Binary) : Bool :=
  a.mantissa * 2 ^ (a.exponent - b.exponent).toNat < b.mantissa * 2 ^ (b.exponent - a.exponent).toNat

end Binary

namespace Extended

/-- binary digits of a mantissa -/
def precision : Nat := 64

def ofNat (n : Nat) : Binary := (⟨n, 0⟩ : Binary).rounded precision

/-- one divided by a number that is no power of two -/
def reciprocal (n : Nat) : Binary :=
  let shift := Nat.log2 n + precision
  ⟨roundToEven (2 ^ shift) n, -shift⟩

/-- ten to an exponent -/
def power (e : Int) : Binary := if 0 ≤ e then ofNat (10 ^ e.toNat) else reciprocal (10 ^ e.natAbs)

def times (a b : Binary) : Binary :=
  (⟨a.mantissa * b.mantissa, a.exponent + b.exponent⟩ : Binary).rounded precision

/-! ## From decimals -/

/-- a number scaled by ten to an exponent -/
def scale (b : Binary) (e : Int) : Binary :=
  let step (places : Nat) : Binary := power (if 0 ≤ e then places else -places)
  let hundreds := Nat.repeat (times · (step 100)) (e.natAbs / 100) b
  let tens := Nat.repeat (times · (step 10)) (e.natAbs % 100 / 10) hundreds
  Nat.repeat (times · (step 1)) (e.natAbs % 10) tens

/-- the greatest number in double precision -/
def greatest : Binary := ⟨2 ^ 53 - 1, 971⟩

/-- the bits of the nearest number in double precision; above the greatest one there is only infinity -/
def toBits (b : Binary) : Nat :=
  if greatest.less b then double.infinity
  else double.nearest (b.mantissa * 2 ^ b.exponent.toNat) (2 ^ (-b.exponent).toNat)

/-- moves powers of ten from the exponent into the coefficient as long as it stays below 64 binary digits -/
def raise : Nat → Nat → Nat × Nat
  | 0, n => (n, 0)
  | e + 1, n => if n < (2 ^ 64 - 2048) / 10 then raise e (10 * n) else (n, e + 1)

/-- moves trailing zeros of the coefficient into a negative exponent -/
def lower : Nat → Nat → Nat × Nat
  | 0, n => (n, 0)
  | e + 1, n => if n % 10 = 0 then lower e (n / 10) else (n, e + 1)

/-- the bits of a decimal in double precision -/
def toDouble (d : Scaled) : Nat :=
  if d.coefficient = 0 then 0
  else if 0 ≤ d.exponent then
    let (n, e) := raise d.exponent.toNat d.coefficient
    toBits (scale (ofNat n) e)
  else
    let (n, e) := lower d.exponent.natAbs d.coefficient
    toBits (scale (ofNat n) (-e))

/-! ## To decimals -/

/-- multiplies by ten to an exponent as long as a condition holds, ten times at most; answers how often -/
def scaleWhile (holds : Binary → Bool) (e : Int) : Nat → Binary → Binary × Nat
  | 0, b => (b, 0)
  | fuel + 1, b =>
    if holds b then
      let (c, count) := scaleWhile holds e fuel (times b (power e))
      (c, count + 1)
    else (b, 0)

/-- scales by hundreds, tens and ones, each as long as its condition holds; answers the exponent of the
scale -/
def scaleBy (holds : Nat → Binary → Bool) (sign : Int) (b : Binary) : Binary × Int :=
  let (hundreds, i) := scaleWhile (holds 100) (sign * 100) 10 b
  let (tens, j) := scaleWhile (holds 10) (sign * 10) 10 hundreds
  let (ones, k) := scaleWhile (holds 1) sign 10 tens
  (ones, sign * (100 * i + 10 * j + k : Nat))

/-- the leading digits of a positive number, eighteen or nineteen of them -/
def digits (b : Binary) : Scaled :=
  let large := !b.less (power 19)
  let (scaled, e) :=
    if large then
      scaleBy (fun step x => !x.less (power (if step = 100 then 119 else if step = 10 then 29 else 19))) (-1) b
    else
      scaleBy (fun step x => x.less (power (if step = 100 then -97 else if step = 10 then 7 else 17))) 1 b
  ⟨scaled.floor, -e⟩

end Extended

end FluentSql.Decimal
