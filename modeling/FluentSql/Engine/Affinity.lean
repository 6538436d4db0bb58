import FluentSql.Engine.Numeral
/-!
What becomes of a value in a column: the preferred kind that the declared type gives a column, and the
conversions it brings about.

A conversion never loses a value: text that is no numeral stays text, and a real number becomes whole only
if it is whole. Truth is read off numbers, and of a text off the numeral it starts with.
-/

namespace FluentSql.Engine

/-- the kind of value that a column prefers -/
inductive Affinity where
  | text
  | numeric
  | integer
  | real
  | blob
deriving DecidableEq, Repr, Inhabited

/-! ## Conversions -/

/-- a real number that is whole and fits becomes an integer -/
def wholeIfExact (x : Float) : Value :=
  let i := x.toInt64
  if i.toFloat == x ∧ i ≠ Int64.minValue ∧ i ≠ Int64.maxValue then .integer i else .real x

/-- a number out of a text that holds one, else the value as it is -/
def toNumber : Value → Value
  | .text s => (Numeral.whole s.toList).getD (.text s)
  | v => v

/-- text out of a number, else the value as it is -/
def toText : Value → Value
  | .integer i => .text (Value.integerText i)
  | .real x => .text (Numeral.ofReal x)
  | v => v

/-- a number that is whole if it can be -/
def toWholeNumber (v : Value) : Value :=
  match toNumber v with
  | .real x => wholeIfExact x
  | n => n

/-- a real number out of any number; whole ones pass through the integers, where zero has no sign -/
def toRealNumber (v : Value) : Value :=
  match toWholeNumber v with
  | .integer i => .real i.toFloat
  | n => n

/-- a value as the engine keeps it: truth values are numbers, and NaN is null -/
def plainValue : Value → Value
  | .boolean b => .integer (if b then 1 else 0)
  | .real x => if x.isNaN then .null else .real x
  | v => v

namespace Affinity

def isNumeric : Affinity → Bool
  | numeric => true
  | integer => true
  | real => true
  | text => false
  | blob => false

/-- the value that a column stores -/
def store : Affinity → Value → Value
  | text, v => toText v
  | numeric, v => toWholeNumber v
  | integer, v => toWholeNumber v
  | real, v => toRealNumber v
  | blob, v => v

/-- whether a word occurs inside another -/
def occurs (word : List Char) : List Char → Bool
  | [] => word.isEmpty
  | c :: r => word.isPrefixOf (c :: r) || occurs word r

/-- the preferred kind by the words of a declared type -/
def ofTypeName (typeName : String) : Affinity :=
  let name := (Text.upperAscii typeName).toList
  let has (word : String) : Bool := occurs word.toList name
  if has "INT" then integer
  else if has "CHAR" || has "CLOB" || has "TEXT" then text
  else if has "BLOB" || name.isEmpty then blob
  else if has "REAL" || has "FLOA" || has "DOUB" then real
  else numeric

end Affinity

/-! ## Truth -/

/-- whether a value counts as true; null is neither true nor false -/
def truth : Value → Option Bool
  | .null => none
  | .integer i => some (i != 0)
  | .real x => some (x != 0)
  | .boolean b => some b
  | .text s => some (leadingIsTrue s.toList)
  | .blob bytes => some (leadingIsTrue (Text.fromBytesLenient bytes))
where
  /-- whether a text starts with a number other than zero -/
  leadingIsTrue (s : List Char) : Bool :=
    match Numeral.leading s with
    | some (.integer i, _) => i != 0
    | some (.real x, _) => x != 0
    | _ => false

/-- the number that stands for a truth value -/
def ofTruth : Option Bool → Value
  | none => .null
  | some b => .integer (if b then 1 else 0)

end FluentSql.Engine
