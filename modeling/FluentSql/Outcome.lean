import FluentSql.Rows
import FluentSql.Scalar
/-!
What running one statement hands back, and the partial views callers take of it.
-/

namespace FluentSql

/-- the result of one unit of work -/
inductive Outcome where
  /-- there was no statement to run -/
  | nothing
  | rows (rows : Rows)
  | records (records : RecordSet)
  /-- absent when the read gave no row or a null cell -/
  | scalar (value : Option Scalar)
  | rowId (id : Int64)
  | rowIds (ids : List Int64)
  /-- how many rows an update or delete touched -/
  | affected (count : Nat)
deriving Inhabited

namespace Outcome

def isNothing : Outcome → Bool
  | nothing => true
  | _ => false

def rows? : Outcome → Option Rows
  | rows r => some r
  | _ => none

def records? : Outcome → Option RecordSet
  | records r => some r
  | _ => none

def scalar? : Outcome → Option Scalar
  | scalar s => s
  | _ => none

/-- the id of the row inserted last -/
def rowId? : Outcome → Option Int64
  | rowId id => some id
  | rowIds ids => ids.getLast?
  | _ => none

def rowIds? : Outcome → Option (List Int64)
  | rowId id => some [id]
  | rowIds ids => some ids
  | _ => none

def affected? : Outcome → Option Nat
  | affected n => some n
  | _ => none

end Outcome

end FluentSql
