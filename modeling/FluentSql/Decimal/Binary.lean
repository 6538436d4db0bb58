/-!
Binary floating point numbers as exact arithmetic sees them.

A finite number is `mantissa · 2 ^ exponent`; a format fixes how many binary digits a mantissa may have and
the least exponent. `nearest` finds the number of a format nearest to a positive fraction, a tie going to
the even mantissa, and gives it as a bit pattern without sign.
-/

namespace FluentSql.Decimal

/-- powers of natural numbers are those of the core library, whatever is imported beside -/
@[default_instance 20000]
instance (priority := 20000) powNat : Pow Nat Nat := instPowNat

/-- a binary interchange format -/
structure Format where
  /-- binary digits of a full mantissa -/
  precision : Nat
  /-- exponent of the last place of the smallest numbers -/
  leastExponent : Int
  /-- exponent of the last place of the largest numbers -/
  greatestExponent : Int

/-- double precision -/
def double : Format := ⟨53, -1074, 971⟩

/-- single precision -/
def single : Format := ⟨24, -149, 104⟩

/-- a finite number without sign -/
structure Binary where
  mantissa : Nat
  exponent : Int

/-- the whole part -/
def Binary.floor (b : Binary) : Nat := b.mantissa * 2 ^ b.exponent.toNat / 2 ^ (-b.exponent).toNat

/-- bit patterns by their biased exponent and trailing bits: the number, or nothing for infinities and NaN -/
def Format.decode (f : Format) (bits : Nat) : Option Binary :=
  let tail := f.precision - 1
  let biased := bits / 2 ^ tail
  let fraction := bits % 2 ^ tail
  if biased = 0 then some ⟨fraction, f.leastExponent⟩
  else if f.leastExponent + (biased : Int) - 1 > f.greatestExponent then none
  else some ⟨fraction + 2 ^ tail, f.leastExponent + (biased : Int) - 1⟩

/-- the bit pattern of infinity, without sign -/
def Format.infinity (f : Format) : Nat :=
  (f.greatestExponent - f.leastExponent + 2).toNat * 2 ^ (f.precision - 1)

/-- a fraction divided by a power of two, as numerator and denominator -/
def shiftDown (num den : Nat) (e : Int) : Nat × Nat := (num * 2 ^ (-e).toNat, den * 2 ^ e.toNat)

/-- the integer nearest to a fraction, a half going to the even neighbour -/
def roundToEven (num den : Nat) : Nat :=
  let low := num / den
  let twice := 2 * (num % den)
  if twice < den then low
  else if den < twice then low + 1
  else if low % 2 = 0 then low else low + 1

/-- the number of the format nearest to a positive fraction, as bits without sign -/
def Format.nearest (f : Format) (num den : Nat) : Nat :=
  let size : Int := (Nat.log2 num : Int) - Nat.log2 den
  let guess := max (size - f.precision) f.leastExponent
  let wide := shiftDown num den guess
  let exponent := if 2 ^ f.precision ≤ wide.1 / wide.2 then guess + 1 else guess
  let part := shiftDown num den exponent
  let bits := (exponent - f.leastExponent).toNat * 2 ^ (f.precision - 1) + roundToEven part.1 part.2
  if f.infinity < bits then f.infinity else bits

end FluentSql.Decimal
