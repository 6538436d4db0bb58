import FluentSql.Engine.Affinity
import FluentSql.Text.Utf8
/-!
Arithmetic on stored values.

Operations are exact on whole numbers as long as the result fits, and real from there on; null makes null. A
sum stays whole while all its parts are whole (`Sum`); a real sum keeps apart what rounding has lost, and
takes it in at the end.
-/

namespace FluentSql.Engine

/-- operations on numbers -/
inductive Arithmetic where
  | add
  | subtract
  | multiply
  | divide
  | remainder
deriving DecidableEq, Repr

namespace Arithmetic

/-! ## Operands -/

/-- the number at the start of a text, zero if there is none -/
def leadingNumber (s : List Char) : Value := (Numeral.leading s).elim (.integer 0) Prod.fst

/-- the number that a value is taken for -/
def numberOf : Value → Value
  | .text s => leadingNumber s.toList
  | .blob b => leadingNumber (Text.fromBytesLenient b)
  | v => v

def floatOf : Value → Float
  | .integer i => i.toFloat
  | .real x => x
  | _ => 0

/-- the whole part of a number, held to the range of whole numbers -/
def wholeOf : Value → Int64
  | .integer i => i
  | .real x => x.toInt64
  | _ => 0

/-- a real result; one that is no number is null -/
def realOrNull (x : Float) : Value := if x.isNaN then .null else .real x

/-! ## Operations -/

def negate (v : Value) : Value :=
  match numberOf v with
  | .integer i => if i = Int64.minValue then .real 9223372036854775808.0 else .integer (-i)
  | .real x => .real (-x)
  | n => n

/-- the exact result of an operation on whole numbers, if there is one that fits -/
def whole (op : Arithmetic) (i j : Int) : Option Value :=
  match op with
  | add => (Value.fitInt64 (i + j)).map .integer
  | subtract => (Value.fitInt64 (i - j)).map .integer
  | multiply => (Value.fitInt64 (i * j)).map .integer
  | divide => if j = 0 then some .null else (Value.fitInt64 (i.tdiv j)).map .integer
  | remainder => if j = 0 then some .null else (Value.fitInt64 (i.tmod j)).map .integer

def real (op : Arithmetic) (a b : Value) : Value :=
  let x := floatOf a
  let y := floatOf b
  match op with
  | add => realOrNull (x + y)
  | subtract => realOrNull (x - y)
  | multiply => realOrNull (x * y)
  | divide => if y == 0 then .null else realOrNull (x / y)
  | remainder =>
    if wholeOf b = 0 then .null else realOrNull (Float.ofInt ((wholeOf a).toInt.tmod (wholeOf b).toInt))

/-- an operation on values: exact on whole numbers if the result fits, null on null -/
def apply (op : Arithmetic) (a b : Value) : Value :=
  match numberOf a, numberOf b with
  | .null, _ => .null
  | _, .null => .null
  | .integer i, .integer j => (op.whole i.toInt j.toInt).getD (op.real (.integer i) (.integer j))
  | x, y => op.real x y

end Arithmetic

/-! ## Sums -/

/-- a sum under way -/
inductive Sum where
  | whole (n : Int64)
  /-- a real sum with what rounding has lost; it overflowed if it is real only because it did not fit -/
  | real (sum lost : Float) (overflowed : Bool)

namespace Sum

/-- the number that a value adds: text that is no numeral adds what it starts with, as bytes do, and that
counts as real -/
def part : Value → Value
  | .text s => (Numeral.whole s.toList).getD (.real (Arithmetic.floatOf (Arithmetic.leadingNumber s.toList)))
  | .blob b => .real (Arithmetic.floatOf (Arithmetic.numberOf (.blob b)))
  | v => v

/-- adds a real number and notes what rounding loses -/
def addReal (sum lost x : Float) : Float × Float :=
  let t := sum + x
  (t, lost + if x.abs < sum.abs then (sum - t) + x else (x - t) + sum)

/-- a whole number in two parts that real numbers hold exactly; the first is zero unless the number is large -/
def split (i : Int64) : Float × Float :=
  if i.toInt.natAbs < 2 ^ 52 then (0, i.toFloat)
  else
    let small := i.toInt.tmod 16384
    (Float.ofInt (i.toInt - small), Float.ofInt small)

def addWhole (sum lost : Float) (i : Int64) : Float × Float :=
  let (big, small) := split i
  if big == 0 then addReal sum lost small
  else
    let (s, l) := addReal sum lost big
    addReal s l small

/-- a whole sum turned real -/
def ofWhole (n : Int64) : Float × Float :=
  let (big, small) := split n
  if big == 0 then (small, 0) else (big, small)

/-- adds a number -/
def add : Sum → Value → Sum
  | whole n, .integer i =>
    match Value.fitInt64 (n.toInt + i.toInt) with
    | some m => whole m
    | none =>
      let (s, l) := addWhole (ofWhole n).1 (ofWhole n).2 i
      real s l true
  | whole n, v =>
    let (s, l) := addReal (ofWhole n).1 (ofWhole n).2 (Arithmetic.floatOf v)
    real s l false
  | real s l o, .integer i =>
    let r := addWhole s l i
    real r.1 r.2 o
  | real s l _, v =>
    let r := addReal s l (Arithmetic.floatOf v)
    real r.1 r.2 false

/-- the sum of values, none of which is null -/
def of (vs : List Value) : Sum := (vs.map part).foldl add (whole 0)

def value : Sum → Value
  | whole n => .integer n
  | real s l _ => Arithmetic.realOrNull (if l.isFinite then s + l else s)

/-- a sum of whole numbers that did not fit and got no real part since -/
def isOverflow : Sum → Bool
  | whole _ => false
  | real _ _ o => o

end Sum

end FluentSql.Engine
