import FluentSql.Error
/-!
A single value read from the first row of a result, converted to the type the caller asked for. A null cell
is an absent scalar, and a cell that has no value of that type is an error that names the column.
-/

namespace FluentSql

/-- a converted cell -/
inductive Scalar where
  | text (s : String)
  | int (i : Int64)
  | float (x : Float32)
  | double (x : Float)
deriving Inhabited

namespace Scalar

/-- the reading that belongs to each kind -/
def ofValue? : ScalarKind → Value → Option Scalar
  | .text, v => v.asText.map .text
  | .int, v => v.asInt.map .int
  | .float, v => v.asFloat.map fun x => .float x.toFloat32
  | .double, v => v.asFloat.map .double

/-- converts a cell; null is absent rather than an error -/
def convert (column : String) (kind : ScalarKind) (v : Value) : Except DbError (Option Scalar) :=
  if v.isNull then .ok none
  else match ofValue? kind v with
    | some s => .ok (some s)
    | none => .error (.conversion column (.cannotRead v kind))

def asText : Scalar → Option String
  | text s => some s
  | _ => none

def asInt : Scalar → Option Int64
  | int i => some i
  | _ => none

def asFloat : Scalar → Option Float32
  | float x => some x
  | _ => none

/-- either kind of real number, widened -/
def asDouble : Scalar → Option Float
  | double x => some x
  | float x => some x.toFloat
  | _ => none

end Scalar

end FluentSql
