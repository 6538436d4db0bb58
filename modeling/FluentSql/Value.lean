import FluentSql.Text.Ascii
import FluentSql.Text.Quoted
import FluentSql.Text.Utf8
import FluentSql.Decimal.Numeral
import FluentSql.Decimal.Style
/-!
Column values: what a filter compares with, a row stores and a read returns.

A value is written as a literal inside a statement (`Value.literal`) and read back as text, whole number,
real number, truth value or bytes (`asText`, `asInt`, `asFloat`, `asBool`, `asBytes`). A reading is partial:
null has none, and bytes have no number.
-/

namespace FluentSql

/-- a column value -/
inductive Value where
  | null
  | integer (i : Int64)
  | real (x : Float)
  | text (s : String)
  | boolean (b : Bool)
  | blob (bytes : List UInt8)
deriving Inhabited

namespace Value

/-- equality of values of one kind; NaN differs from itself and the two zeros are equal -/
protected def beq : Value → Value → Bool
  | null, null => true
  | integer a, integer b => a == b
  | real a, real b => a == b
  | text a, text b => a == b
  | boolean a, boolean b => a == b
  | blob a, blob b => a == b
  | _, _ => false

instance : BEq Value := ⟨Value.beq⟩

def isNull : Value → Bool
  | null => true
  | _ => false

def isText : Value → Bool
  | text _ => true
  | _ => false

/-! ## Literals -/

/-- the hexadecimal literal of a byte string -/
def blobLiteral (bytes : List UInt8) : String :=
  String.ofList ('X' :: '\'' :: bytes.flatMap Text.hexByte ++ ['\''])

/-- a real number in a statement: NaN is null, and an infinity is a numeral that overflows -/
def realLiteral (x : Float) : String :=
  if x.isNaN then "NULL"
  else if x.isInf then if 0 < x then "9e999" else "-9e999"
  else Decimal.plain.ofFloat x

/-- decimal digits with a minus sign where needed -/
def integerText (i : Int64) : String := toString i.toInt

/-- the value inside a statement; quotes within a text are left as they are -/
def literal : Value → String
  | null => "NULL"
  | integer i => integerText i
  | real x => realLiteral x
  | text s => "'" ++ s ++ "'"
  | boolean b => if b then "1" else "0"
  | blob bytes => blobLiteral bytes

/-! ## Readings -/

/-- whole numbers that fit in 64 bits -/
def fitInt64 (i : Int) : Option Int64 :=
  if Int64.minValue.toInt ≤ i ∧ i ≤ Int64.maxValue.toInt then some (Int64.ofInt i) else none

/-- the text form, for reads as text -/
def asText : Value → Option String
  | null => none
  | integer i => some (integerText i)
  | real x => some (Decimal.plain.ofFloat x)
  | text s => some s
  | boolean b => some (if b then "1" else "0")
  | blob bytes => some (String.ofList (Text.fromBytesLenient bytes))

/-- the 64-bit number nearest to a whole number -/
def clampInt64 (i : Int) : Int64 :=
  if i < Int64.minValue.toInt then Int64.minValue
  else if Int64.maxValue.toInt < i then Int64.maxValue
  else Int64.ofInt i

/-- a real number cut towards zero and clamped to 64 bits; NaN becomes zero -/
def cutInt64 (x : Float) : Int64 :=
  let bits := x.toBits.toNat
  match Decimal.double.decode (bits % 2 ^ 63) with
  | some b => clampInt64 (if 2 ^ 63 ≤ bits then -(b.floor : Int) else b.floor)
  | none =>
    if x.isNaN then 0 else if 2 ^ 63 ≤ bits then Int64.minValue else Int64.maxValue

/-- a whole number, or else a real one cut towards zero and clamped to 64 bits -/
def readInteger (s : List Char) : Option Int64 :=
  match (Decimal.readInt s).bind fitInt64 with
  | some i => some i
  | none => (Decimal.readFloat s).map cutInt64

def asInt : Value → Option Int64
  | integer i => some i
  | real x => some (cutInt64 x)
  | boolean b => some (if b then 1 else 0)
  | text s => readInteger (Text.trimChars s.toList)
  | null => none
  | blob _ => none

def asFloat : Value → Option Float
  | integer i => some i.toFloat
  | real x => some x
  | boolean b => some (if b then 1.0 else 0.0)
  | text s => Decimal.readFloat (Text.trimChars s.toList)
  | null => none
  | blob _ => none

/-- the words for truth values, in any case of letters -/
def readBool (s : String) : Option Bool :=
  let word := Text.lowerAscii (Text.trim s)
  if word = "1" ∨ word = "true" then some true
  else if word = "0" ∨ word = "false" then some false
  else none

def asBool : Value → Option Bool
  | boolean b => some b
  | integer i => some (i != 0)
  | real x => some (x != 0)
  | text s => readBool s
  | null => none
  | blob _ => none

/-- the bytes of a blob or of a text -/
def asBytes : Value → Option (List UInt8)
  | blob bytes => some bytes
  | text s => some (Text.toBytes s)
  | _ => none

/-! ## Descriptions -/

/-- real numbers in messages -/
def descriptionStyle : Decimal.Style := ⟨.away, some (-4, 15), true, false, "inf", "-inf", "NaN"⟩

/-- the value with its kind, for messages -/
def describe : Value → String
  | null => "Null"
  | integer i => "Integer(" ++ integerText i ++ ")"
  | real x => "Real(" ++ descriptionStyle.ofFloat x ++ ")"
  | text s => "Text(" ++ Text.quote s ++ ")"
  | boolean b => "Boolean(" ++ (if b then "true" else "false") ++ ")"
  | blob bytes => "Blob([" ++ ", ".intercalate (bytes.map fun b => toString b.toNat) ++ "])"

end Value

end FluentSql
