import FluentSql.Record
import FluentSql.Scalar
/-!
Values and records as JSON text: compact, fields in record order, bytes as arrays of numbers, and null for
numbers that are not finite.
-/

namespace FluentSql.Interchange

/-- what stands for one character inside a JSON string -/
def escapeChar (c : Char) : List Char :=
  match c with
  | '"' => ['\\', '"']
  | '\\' => ['\\', '\\']
  | '\x08' => ['\\', 'b']
  | '\x0c' => ['\\', 'f']
  | '\n' => ['\\', 'n']
  | '\r' => ['\\', 'r']
  | '\t' => ['\\', 't']
  | c =>
    if c.toNat < 0x20 then
      ['\\', 'u', '0', '0', Nat.digitChar (c.toNat / 16), Nat.digitChar (c.toNat % 16)]
    else [c]

def ofText (s : String) : String := String.ofList ('"' :: s.toList.flatMap escapeChar ++ ['"'])

def ofList (items : List String) : String := "[" ++ ",".intercalate items ++ "]"

/-- names with the texts of their values -/
def ofFields (fields : List (String × String)) : String :=
  let inner := fields.map fun f => ofText f.1 ++ ":" ++ f.2
  String.ofList ['{'] ++ ",".intercalate inner ++ String.ofList ['}']

def ofValue : Value → String
  | .null => "null"
  | .integer i => Value.integerText i
  | .real x => Decimal.interchange.ofFloat x
  | .text s => ofText s
  | .boolean b => if b then "true" else "false"
  | .blob bytes => ofList (bytes.map fun b => toString b.toNat)

def ofScalar : Scalar → String
  | .text s => ofText s
  | .int i => Value.integerText i
  | .float x => Decimal.interchangeSingle.ofFloat32 x
  | .double x => Decimal.interchange.ofFloat x

def ofRecord (r : Record) : String := ofFields (r.cells.map fun cell => (cell.1, ofValue cell.2))

def ofRecords (rs : RecordSet) : String := ofList (rs.map ofRecord)

end FluentSql.Interchange
