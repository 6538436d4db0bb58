import FluentSql.Engine.Affinity
/-!
The order of stored values: null, then numbers, then text, then bytes. Numbers are compared exactly, whole
with real ones too; text and bytes are compared byte by byte, which for text is the order of code points.

A comparison inside a condition first brings its sides to a common kind if one of them is a column
(`comparable`), and is unknown when a side is null.
-/

namespace FluentSql.Engine

/-! ## Order -/

def orderOf (less same : Bool) : Ordering := if less then .lt else if same then .eq else .gt

/-- a whole number and a real one that is not NaN -/
def compareIntReal (i : Int64) (x : Float) : Ordering :=
  if x < -9223372036854775808.0 then .gt
  else if 9223372036854775808.0 ≤ x then .lt
  else
    let j := x.toInt64
    if i < j then .lt
    else if j < i then .gt
    else orderOf (i.toFloat < x) (i.toFloat == x)

def compareBytes : List UInt8 → List UInt8 → Ordering
  | [], [] => .eq
  | [], _ :: _ => .lt
  | _ :: _, [] => .gt
  | a :: as, b :: bs => if a < b then .lt else if b < a then .gt else compareBytes as bs

/-- the rank of a kind of value -/
def rank : Value → Nat
  | .null => 0
  | .integer _ => 1
  | .real _ => 1
  | .boolean _ => 1
  | .text _ => 2
  | .blob _ => 3

/-- the order of stored values -/
def compareValues : Value → Value → Ordering
  | .integer a, .integer b => orderOf (a < b) (a == b)
  | .integer a, .real b => compareIntReal a b
  | .real a, .integer b => (compareIntReal b a).swap
  | .real a, .real b => orderOf (a < b) (a == b)
  | .text a, .text b => orderOf (a < b) (a == b)
  | .blob a, .blob b => compareBytes a b
  | a, b => orderOf (rank a < rank b) (rank a == rank b)

/-- the order of rows, cell by cell -/
def compareRows : List Value → List Value → Ordering
  | a :: as, b :: bs => (compareValues a b).then (compareRows as bs)
  | [], [] => .eq
  | [], _ :: _ => .lt
  | _ :: _, [] => .gt

/-! ## Conditions -/

/-- the ways to relate two values -/
inductive Relation where
  | equal
  | unequal
  | less
  | lessEqual
  | greater
  | greaterEqual
deriving DecidableEq, Repr

namespace Relation

def holds : Relation → Ordering → Bool
  | equal, o => o == .eq
  | unequal, o => o != .eq
  | less, o => o == .lt
  | lessEqual, o => o != .gt
  | greater, o => o == .gt
  | greaterEqual, o => o != .lt

end Relation

def isNumber (v : Value) : Bool := rank v == 1

/-- the kind that both sides of a comparison are brought to; a side that is no column has none -/
def commonKind : Option Affinity → Option Affinity → Option Affinity
  | some a, some b => if a.isNumeric || b.isNumeric then some .numeric else none
  | some a, none => some a
  | none, some b => some b
  | none, none => none

/-- both sides of a comparison brought to a common kind -/
def comparable (a b : Option Affinity) (x y : Value) : Value × Value :=
  match commonKind a b with
  | some .text => if x.isText || y.isText then (toText x, toText y) else (x, y)
  | some .blob => (x, y)
  | some _ => (toNumber x, toNumber y)
  | none => (x, y)

/-- a comparison, unknown when a side is null -/
def relate (r : Relation) (a b : Option Affinity) (x y : Value) : Option Bool :=
  if x.isNull || y.isNull then none
  else some (r.holds (compareValues (comparable a b x y).1 (comparable a b x y).2))

/-- whether two values are the same, null included -/
def same (a b : Option Affinity) (x y : Value) : Bool :=
  match x.isNull, y.isNull with
  | true, true => true
  | false, false => compareValues (comparable a b x y).1 (comparable a b x y).2 == .eq
  | _, _ => false

/-! ## Patterns -/

/-- whether a character of a pattern stands for a character; letters are compared without case -/
def standsFor (p c : Char) : Bool := p == '_' || p.toLower == c.toLower

/-- which beginnings of a text follow a pattern, from the empty one on, given those that follow the pattern
without its last character -/
def extendMatch (text : List Char) (p : Char) (before : List Bool) : List Bool :=
  if p = '%' then reachable false before
  else false :: List.zipWith (fun b c => b && standsFor p c) before text
where
  /-- everything from the first match on -/
  reachable (found : Bool) : List Bool → List Bool
    | [] => []
    | b :: r => (found || b) :: reachable (found || b) r

/-- whether a text follows a pattern, in which `%` stands for any text and `_` for any character -/
def likeChars (pattern text : List Char) : Bool :=
  let start := true :: text.map fun _ => false
  ((pattern.foldl (fun before p => extendMatch text p before) start).getLast?).getD false

/-- the text that stands for a value -/
def textOf : Value → List Char
  | .text s => s.toList
  | .blob bytes => Text.fromBytesLenient bytes
  | v => match toText v with
    | .text s => s.toList
    | _ => []

/-- a text up to its first NUL -/
def untilNul (s : List Char) : List Char := s.takeWhile fun c => c != '\x00'

/-- whether a value follows a pattern, unknown when one of them is null; both end at a NUL -/
def like (v pattern : Value) : Option Bool :=
  if v.isNull || pattern.isNull then none
  else some (likeChars (untilNul (textOf pattern)) (untilNul (textOf v)))

end FluentSql.Engine
