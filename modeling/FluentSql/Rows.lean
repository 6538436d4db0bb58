import FluentSql.Record
/-!
The raw result of a read: column names and rows of cells. Every row has exactly as many cells as there are
columns (`length_fit`), and a row materializes into a record, in which a column name that occurs twice keeps
its first place and its last cell.
-/

namespace FluentSql

/-- the raw result of a read -/
structure Rows where
  columns : List String
  cells : List (List Value)
deriving Inhabited

namespace Rows

/-- the first `n` cells, filled up with null -/
def fit : Nat → List Value → List Value
  | 0, _ => []
  | n + 1, [] => .null :: fit n []
  | n + 1, v :: rest => v :: fit n rest

def ofColumns (columns : List String) : Rows := ⟨columns, []⟩

/-- adds a row, cut or filled up to the number of columns -/
def push (rows : Rows) (cells : List Value) : Rows :=
  { rows with cells := rows.cells ++ [fit rows.columns.length cells] }

def columnCount (rows : Rows) : Nat := rows.columns.length

def size (rows : Rows) : Nat := rows.cells.length

def isEmpty (rows : Rows) : Bool := rows.cells.isEmpty

/-- the place of the first column with a name -/
def columnIndex? (rows : Rows) (name : String) : Option Nat := rows.columns.findIdx? (· == name)

def row? (rows : Rows) (i : Nat) : Option (List Value) := rows.cells[i]?

/-- the cell of a row under the first column with a name -/
def cellNamed? (rows : Rows) (row : List Value) (name : String) : Option Value :=
  (rows.columnIndex? name).bind fun i => row[i]?

/-- a row as a record -/
def record (rows : Rows) (row : List Value) : Record := Record.ofList (rows.columns.zip row)

/-- every row as a record, in order -/
def toRecords (rows : Rows) : RecordSet := rows.cells.map rows.record

/-- the cell in the first row and first column -/
def firstCell? (rows : Rows) : Option Value := (rows.row? 0).bind fun row => row[0]?

theorem length_fit (n : Nat) (row : List Value) : (fit n row).length = n := by
  induction n generalizing row with
  | zero => rfl
  | succ n ih => cases row <;> simp [fit, ih]

end Rows

end FluentSql
