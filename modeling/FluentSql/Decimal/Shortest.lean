import FluentSql.Decimal.Binary
/-!
The shortest decimal that reads back as a given binary number, and of the shortest ones the nearest. Two of
them can be equally near; a format says which of the two it takes (`Tie`).

The reals that round to `m · 2 ^ q` form an interval around it; its ends belong to it when `m` is even. For
one, two, three … digits the two neighbours of the number on the decimal grid of that many digits are
tested against the interval: the first grid with a hit gives the digits. All arithmetic is exact.
-/

namespace FluentSql.Decimal

/-- a decimal number without sign: `coefficient · 10 ^ exponent` -/
structure Scaled where
  coefficient : Nat
  exponent : Int
deriving DecidableEq, Repr

/-- which of two equally near decimals is taken -/
inductive Tie where
  /-- the one whose last digit is even -/
  | even
  /-- the one further from zero -/
  | away
deriving DecidableEq, Repr

/-- whether the lower one of two equally near neighbours is taken -/
def Tie.below (t : Tie) (below : Nat) : Bool :=
  match t with
  | even => below % 2 = 0
  | away => false

/-- the number of decimal digits -/
def digitCount (n : Nat) : Nat := (Nat.toDigits 10 n).length

/-- the decimal exponent of the leading digit of a positive fraction -/
def magnitude (num den : Nat) : Int :=
  let e : Int := (digitCount num : Int) - digitCount den
  if den * 10 ^ e.toNat ≤ num * 10 ^ (-e).toNat then e else e - 1

/-- moves trailing zeros of the coefficient into the exponent -/
def Scaled.strip (d : Scaled) : Scaled :=
  if h : d.coefficient ≠ 0 ∧ d.coefficient % 10 = 0 then
    Scaled.strip ⟨d.coefficient / 10, d.exponent + 1⟩
  else d
termination_by d.coefficient
decreasing_by omega

/-- the decimal exponent of the leading digit -/
def Scaled.magnitude (d : Scaled) : Int := (digitCount d.coefficient : Int) - 1 + d.exponent

/-- the interval of reals that round to a number, in quarters of its last place -/
structure Cell where
  low : Nat
  mid : Nat
  high : Nat
  /-- whether the ends belong to it -/
  closed : Bool

/-- the interval of a positive number of the format; below a power of two the lower gap is half as wide -/
def Format.cell (f : Format) (b : Binary) : Cell :=
  let narrow := b.mantissa = 2 ^ (f.precision - 1) ∧ f.leastExponent < b.exponent
  { low := 4 * b.mantissa - if narrow then 1 else 2
    mid := 4 * b.mantissa
    high := 4 * b.mantissa + 2
    closed := b.mantissa % 2 = 0 }

/-- whether grid point `n` lies in the interval, where one quarter is `unit / grid` grid steps -/
def Cell.holds (c : Cell) (unit grid n : Nat) : Bool :=
  if c.closed then c.low * unit ≤ n * grid && n * grid ≤ c.high * unit
  else c.low * unit < n * grid && n * grid < c.high * unit

/-- the neighbour of the number on a grid that reads back, the nearer one if both do -/
def Cell.hit (c : Cell) (tie : Tie) (unit grid : Nat) : Option Nat :=
  let below := c.mid * unit / grid
  let above := below + 1
  match c.holds unit grid below && decide (0 < below), c.holds unit grid above with
  | true, true =>
    let twice := 2 * (c.mid * unit % grid)
    if twice < grid || (twice = grid && tie.below below) then some below else some above
  | true, false => some below
  | false, true => some above
  | false, false => none

/-- the grids with `digits`, `digits + 1`, … digits, as many as `count`, from the coarsest on -/
def Cell.search (c : Cell) (tie : Tie) (quarter : Int) (top : Int) (digits : Nat) : Nat → Option Scaled
  | 0 => none
  | count + 1 =>
    let place := top - digits + 1
    let unit := 2 ^ quarter.toNat * 10 ^ (-place).toNat
    let grid := 2 ^ (-quarter).toNat * 10 ^ place.toNat
    match c.hit tie unit grid with
    | some n => some ⟨n, place⟩
    | none => c.search tie quarter top (digits + 1) count

/-- the shortest decimal of a number of the format; seventeen digits always suffice -/
def Format.shortest (f : Format) (tie : Tie) (b : Binary) : Scaled :=
  if b.mantissa = 0 then ⟨0, 0⟩
  else
    let c := f.cell b
    let quarter := b.exponent - 2
    let top := FluentSql.Decimal.magnitude (c.mid * 2 ^ quarter.toNat) (2 ^ (-quarter).toNat)
    ((c.search tie quarter top 1 17).getD ⟨0, 0⟩).strip

end FluentSql.Decimal
