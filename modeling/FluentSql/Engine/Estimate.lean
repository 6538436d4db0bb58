import FluentSql.Value
/-!
Rough measures of how many rows there are and how much work they make.

A measure is ten times the binary logarithm of what it stands for, so products are sums; the sum of two
measured amounts is read off the distance of their measures (`Estimate.plus`).
-/

namespace FluentSql.Engine

/-- ten times the binary logarithm of an amount -/
abbrev Estimate := Int

namespace Estimate

/-- how far an eighth of the way to the next power of two moves a measure -/
def eighths : List Nat := [0, 2, 3, 5, 6, 7, 8, 9]

/-- the measure of an amount, cut to its four leading bits; one and less have the measure zero -/
def ofAmount (n : Nat) : Estimate :=
  if n < 2 then 0
  else
    let power := Nat.log2 n
    let leading := n * 8 / 2 ^ power
    10 * (power : Int) + (eighths[leading % 8]?.getD 0 : Nat)

/-- what the smaller of two amounts adds to the larger one, by the distance of their measures -/
def gains : List Int :=
  [10, 10, 9, 9, 8, 8, 7, 7, 7, 6, 6, 6, 5, 5, 5, 4, 4, 4, 4, 3, 3, 3, 3, 3, 3, 2, 2, 2, 2, 2, 2, 2]

/-- the measure of the sum of two amounts -/
def plus (a b : Estimate) : Estimate :=
  let high := max a b
  let distance := (high - min a b).toNat
  if 49 < distance then high
  else if 31 < distance then high + 1
  else high + gains[distance]?.getD 0

/-- how many steps a search among an amount takes, the amount given by its measure -/
def steps (rows : Estimate) : Estimate := if rows ≤ 10 then 0 else ofAmount rows.toNat - 33

end Estimate

end FluentSql.Engine
