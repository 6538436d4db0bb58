import FluentSql.Engine.Term
/-!
Databases of the embedded engine: tables with their rows in the order of row ids, and a version number.

The view of a database is `table?`, one table by name. Two tables are there without being created: the
catalogue, which lists the others, is computed, and the table of sequences is an ordinary one that appears
with the first table that needs it.
-/

namespace FluentSql.Engine

/-! ## Tables -/

structure TableColumn where
  name : String
  affinity : Affinity
  /-- how wide a cell is taken to be, in units of a number -/
  width : Nat
  notNull : Bool
  default : Value
deriving Inhabited

/-- a row under its id -/
structure Row where
  id : Int64
  cells : List Value
deriving Inhabited

/-- a column of a group that is unique; the group keeps the rows in an order of its own -/
structure GroupColumn where
  /-- the number of the column in its table -/
  index : Nat
  descending : Bool
deriving DecidableEq, Repr, Inhabited

/-- a reference from the rows of a table to those of another one, or of the same -/
structure ForeignKey where
  /-- the numbers of the columns that refer -/
  columns : List Nat
  parent : String
  /-- the columns they refer to; none stand for the primary key -/
  parentColumns : Option (List String)
  onDelete : Reaction
  onUpdate : Reaction
  deferred : Bool
  /-- defined along with a column -/
  ofColumn : Bool
deriving DecidableEq, Repr, Inhabited

structure StoredTable where
  name : String
  columns : List TableColumn
  /-- the column that is the row id -/
  rowIdColumn : Option Nat
  /-- row ids are never given twice -/
  autoIncrement : Bool
  /-- the columns of the primary key -/
  primaryKey : List Nat
  /-- groups of columns in which no two rows agree -/
  uniques : List (List GroupColumn)
  /-- conditions that no row may violate -/
  checks : List Term
  /-- in the order of their definitions -/
  references : List ForeignKey
  /-- the text of the definition -/
  text : String
  /-- how many characters of it there are up to the end of the last column -/
  columnsEnd : Nat
  /-- in ascending order of ids -/
  rows : List Row
deriving Inhabited

namespace StoredTable

/-- the place of a column in a row, which has its id at place zero -/
def placeOf (t : StoredTable) (index : Nat) : Nat := if t.rowIdColumn = some index then 0 else index + 1

/-- the columns in sight when the table has a number and a name to go by, the row id first -/
def scope (t : StoredTable) (number : Nat) (goesBy : String) : Scope :=
  let rowIdName := ((t.rowIdColumn.bind fun i => t.columns[i]?).map TableColumn.name).getD "rowid"
  ⟨goesBy, rowIdName, number, 0, .integer, true⟩
    :: t.columns.zipIdx.map fun c => ⟨goesBy, c.1.name, number, t.placeOf c.2, c.1.affinity, false⟩

/-- the cells of a row, its id first -/
def visibleCells (r : Row) : List Value := .integer r.id :: r.cells

/-- the kind of the cell at a place -/
def affinityAt (t : StoredTable) : Nat → Affinity
  | 0 => .integer
  | place + 1 => (t.columns[place]?).elim .blob TableColumn.affinity

/-- the place of a column by its name -/
def columnIndex? (t : StoredTable) (name : String) : Option Nat :=
  t.columns.findIdx? fun c => Text.sameLetters c.name name

/-- the greatest row id -/
def lastId? (t : StoredTable) : Option Int64 := t.rows.getLast?.map Row.id

def hasId (t : StoredTable) (id : Int64) : Bool := t.rows.any fun r => r.id == id

/-- puts a row at its place -/
def insertRow (r : Row) : List Row → List Row
  | [] => [r]
  | s :: rest => if r.id < s.id then r :: s :: rest else s :: insertRow r rest

end StoredTable

/-! ## Databases -/

structure Database where
  /-- in the order in which they were created -/
  tables : List StoredTable
  version : Int
  /-- how many deferred references lead nowhere -/
  unmet : Int
deriving Inhabited

namespace Database

def empty : Database := ⟨[], 0, 0⟩

/-- the table of sequences: the greatest id ever given in each table that counts on -/
def sequenceTable : String := "sqlite_sequence"

/-- the names under which the catalogue can be read -/
def catalogueNames : List String := ["sqlite_master", "sqlite_schema"]

def isCatalogue (name : String) : Bool := catalogueNames.contains (Text.lowerAscii name)

/-- names that only the engine gives -/
def isReservedName (name : String) : Bool := "sqlite_".toList.isPrefixOf (Text.lowerAscii name).toList

def named (name : String) (t : StoredTable) : Bool := Text.sameLetters t.name name

def table? (db : Database) (name : String) : Option StoredTable := db.tables.find? (named name)

/-- changes the table with a name -/
def setTable (db : Database) (t : StoredTable) : Database :=
  { db with tables := db.tables.map fun s => if named t.name s then t else s }

/-! ## The catalogue -/

def plainColumn (name : String) (affinity : Affinity) : TableColumn := ⟨name, affinity, 1, false, .null⟩

/-- the catalogue entries of a table: itself, and the index of each unique group -/
def catalogueCells (t : StoredTable) : List (List Value) :=
  [.text "table", .text t.name, .text t.name, .null, .text ("CREATE TABLE " ++ t.text)]
    :: t.uniques.zipIdx.map fun u =>
      [.text "index", .text ("sqlite_autoindex_" ++ t.name ++ "_" ++ toString (u.2 + 1)), .text t.name,
        .null, .null]

/-- the catalogue as a table -/
def catalogue (db : Database) : StoredTable where
  name := "sqlite_master"
  columns := [plainColumn "type" .text, plainColumn "name" .text, plainColumn "tbl_name" .text,
    plainColumn "rootpage" .integer, plainColumn "sql" .text]
  rowIdColumn := none
  autoIncrement := false
  primaryKey := []
  uniques := []
  checks := []
  references := []
  text := ""
  columnsEnd := 0
  rows := ((db.tables.flatMap catalogueCells).zipIdx).map fun e =>
    ⟨Int64.ofNat (e.2 + 1), e.1.set 3 (.integer (Int64.ofNat (e.2 + 2)))⟩

/-- a table to read from -/
def readable (db : Database) (name : String) : Except EngineFault StoredTable :=
  if isCatalogue name then .ok db.catalogue
  else (db.table? name).elim (.error (.noTable name)) .ok

/-- a table to write to -/
def writable (db : Database) (name : String) : Except EngineFault StoredTable :=
  if isCatalogue name then .error (.badStatement ("table " ++ name ++ " may not be modified"))
  else (db.table? name).elim (.error (.noTable name)) .ok

/-! ## Sequences -/

/-- the table of sequences before anything is in it -/
def emptySequences : StoredTable where
  name := sequenceTable
  columns := [plainColumn "name" .blob, plainColumn "seq" .blob]
  rowIdColumn := none
  autoIncrement := false
  primaryKey := []
  uniques := []
  checks := []
  references := []
  text := sequenceTable ++ "(name,seq)"
  columnsEnd := 0
  rows := []

/-- whether a row of the table of sequences is about a table -/
def isSequenceOf (name : String) (r : Row) : Bool := r.cells.head?.any fun v => v == .text name

/-- the greatest id ever given in a table -/
def sequence? (db : Database) (name : String) : Option Int64 := do
  let t ← db.table? sequenceTable
  let r ← t.rows.find? (isSequenceOf name)
  let v ← r.cells[1]?
  v.asInt

/-- notes that an id was given in a table -/
def setSequence (db : Database) (name : String) (id : Int64) : Database :=
  match db.table? sequenceTable with
  | none => db
  | some t =>
    let cells : List Value := [.text name, .integer id]
    let rows :=
      if t.rows.any (isSequenceOf name) then
        t.rows.map fun r => if isSequenceOf name r then { r with cells := cells } else r
      else t.rows ++ [⟨(t.lastId?.getD 0) + 1, cells⟩]
    db.setTable { t with rows := rows }

/-- forgets the ids of a table -/
def dropSequence (db : Database) (name : String) : Database :=
  match db.table? sequenceTable with
  | none => db
  | some t => db.setTable { t with rows := t.rows.filter fun r => !isSequenceOf name r }

end Database

end FluentSql.Engine
