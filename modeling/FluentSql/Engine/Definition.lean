import FluentSql.Engine.Reading
import FluentSql.Engine.Writing
/-!
Definitions of tables, and what every command on the data does to a database (`Database.apply`).

A definition is checked as a whole before its table exists. The id of the rows is the one column that is
declared INTEGER and is the primary key by itself; any other primary key is a unique group.
-/

namespace FluentSql.Engine

/-! ## Columns -/

namespace ColumnSource

/-- how wide a cell of a declared type is taken to be, in units of a number -/
def widthOf (typeName : String) : Nat :=
  let name := (Text.upperAscii typeName).toList
  match Affinity.ofTypeName typeName with
  | .text => if Affinity.occurs "CHAR".toList name then sized name else 5
  | .blob => if name.isEmpty then 1 else 5
  | _ => 1
where
  /-- a quarter of the size that a type names -/
  sized (name : List Char) : Nat :=
    let digits := (name.dropWhile (!Char.isDigit ·)).takeWhile Char.isDigit
    min 255 (Decimal.digitsValue digits / 4 + 1)

/-- the default that counts, the last one of several -/
def lastDefault? (rules : List ColumnRule) : Option Expr :=
  (rules.filterMap fun r => match r with
    | .default e => some e
    | _ => none).getLast?

/-- a default that is written down as a value -/
def isPlainDefault : Expr → Bool
  | .literal _ => true
  | .negate e => isPlainDefault e
  | .plus e => isPlainDefault e
  | .name none _ false => true
  | _ => false

/-- the value of a default, which may name no column -/
def defaultOf (rules : List ColumnRule) : Except EngineFault Value := do
  match lastDefault? rules with
  | none => return .null
  | some e => return (← e.resolve [] [] false).eval [] [] []

def isNotNull (rules : List ColumnRule) : Bool :=
  rules.any fun r => match r with
    | .notNull => true
    | _ => false

def compile (c : ColumnSource) : Except EngineFault TableColumn := do
  let value ← defaultOf c.rules
  return ⟨c.name, Affinity.ofTypeName c.typeName, widthOf c.typeName, isNotNull c.rules, value⟩

/-- the conditions of a column -/
def checks (c : ColumnSource) : List Expr :=
  c.rules.filterMap fun r => match r with
    | .check e => some e
    | _ => none

end ColumnSource

/-! ## Tables -/

/-- a primary key: its columns, whether it descends, and whether it counts on -/
structure PrimaryKey where
  columns : List GroupColumn
  /-- a column of whole numbers becomes the row id -/
  mayBeRowId : Bool
  autoIncrement : Bool

/-- a constraint that makes columns unique -/
inductive KeyRule where
  | primary (k : PrimaryKey)
  | unique (columns : List GroupColumn)

def KeyRule.columns : KeyRule → List GroupColumn
  | primary k => k.columns
  | unique columns => columns

/-- the most columns of a table or of a key -/
def mostColumns : Nat := 2000

namespace ForeignKey

/-- a reference from some columns -/
def ofSource (columns : List Nat) (ofColumn : Bool) (r : ReferenceSource) : Except EngineFault ForeignKey :=
  if r.columns.any fun names => names.length != columns.length then
    .error (.badDefinition "number of columns in foreign key does not match")
  else .ok ⟨columns, r.parent, r.columns, r.onDelete, r.onUpdate, r.deferred, ofColumn⟩

/-- adds what a rule of a column says about references; a deferral is about the latest one -/
def addRule (known : List ForeignKey) (e : ColumnRule × Nat) : Except EngineFault (List ForeignKey) :=
  match e.1 with
  | .references r => do return known ++ [← ofSource [e.2] true r]
  | .defer deferred => .ok (known.modify (known.length - 1) fun k => { k with deferred := deferred })
  | _ => .ok known

end ForeignKey

namespace TableSource

def indexOf (s : TableSource) (name : String) : Except EngineFault Nat :=
  (s.columns.findIdx? fun c => Text.sameLetters c.name name).elim (.error (.noColumn name)) .ok

/-- the keys of the columns in their order, then those of the table -/
def keyRules (s : TableSource) : Except EngineFault (List KeyRule) := do
  let ofColumns := s.columns.zipIdx.flatMap fun e => e.1.rules.filterMap fun r => match r with
    | .primaryKey d a => some (KeyRule.primary ⟨[⟨e.2, d⟩], !d, a⟩)
    | .unique => some (KeyRule.unique [⟨e.2, false⟩])
    | _ => none
  let column (c : String × Bool) : Except EngineFault GroupColumn := do return ⟨← s.indexOf c.1, c.2⟩
  let ofTable ← s.rules.filterMapM fun r => match r with
    | .primaryKey names auto => do
      let columns ← names.mapM column
      return some (KeyRule.primary ⟨columns, true, auto⟩)
    | .unique names => do
      let columns ← names.mapM column
      return some (KeyRule.unique columns)
    | _ => return none
  return ofColumns ++ ofTable

/-- the column that a primary key makes the row id -/
def rowIdOf (s : TableSource) (k : PrimaryKey) : Option Nat :=
  match k.columns with
  | [c] =>
    let whole := s.columns[c.index]?.any fun d => Text.upperAscii d.typeName == "INTEGER"
    if whole && k.mayBeRowId then some c.index else none
  | _ => none

/-- the unique groups that keys make, each once in whatever directions -/
def groupsOf (s : TableSource) (rules : List KeyRule) : List (List GroupColumn) :=
  let groups := rules.filterMap fun r => match r with
    | .primary k => if (s.rowIdOf k).isSome then none else some k.columns
    | .unique columns => some columns
  let same (g h : List GroupColumn) : Bool := g.map GroupColumn.index == h.map GroupColumn.index
  groups.foldl (fun known g => if known.any (same g) then known else known ++ [g]) []

def hasRepeatedName : List ColumnSource → Bool
  | [] => false
  | c :: rest => (rest.any fun d => Text.sameLetters c.name d.name) || hasRepeatedName rest

/-- the conditions of the columns, then those of the table -/
def checks (s : TableSource) : List Expr :=
  s.columns.flatMap ColumnSource.checks ++ s.rules.filterMap fun r => match r with
    | .check e => some e
    | _ => none

/-- the references of the columns, then those of the table -/
def foreignKeys (s : TableSource) : Except EngineFault (List ForeignKey) := do
  let rules := s.columns.zipIdx.flatMap fun c => c.1.rules.map fun r => (r, c.2)
  let ofColumns ← rules.foldlM ForeignKey.addRule []
  let ofTable ← s.rules.filterMapM fun r => match r with
    | .references names r => do
      let columns ← names.mapM s.indexOf
      return some (← ForeignKey.ofSource columns false r)
    | _ => return none
  return ofColumns ++ ofTable

/-- a table without rows, if its definition is sound -/
def compile (s : TableSource) : Except EngineFault StoredTable := do
  if mostColumns < s.columns.length then throw (.badDefinition "too many columns")
  if hasRepeatedName s.columns then throw (.badDefinition "duplicate column name")
  let columns ← s.columns.mapM ColumnSource.compile
  let rules ← s.keyRules
  if rules.any fun r => mostColumns < r.columns.length then throw (.badDefinition "too many columns in index")
  let primaries := rules.filterMap fun r => match r with
    | .primary k => some k
    | .unique _ => none
  if 1 < primaries.length then throw (.badDefinition "more than one primary key")
  let rowId := primaries.head?.bind s.rowIdOf
  let counts := primaries.any PrimaryKey.autoIncrement
  if counts && rowId.isNone then
    throw (.badDefinition "AUTOINCREMENT is only allowed on an INTEGER PRIMARY KEY")
  let primary := (primaries.head?.map fun k => k.columns.map GroupColumn.index).getD []
  let references ← s.foreignKeys
  let bare : StoredTable :=
    ⟨s.name, columns, rowId, counts, primary, s.groupsOf rules, [], references, s.text,
      s.columnsEnd, []⟩
  let checks ← s.checks.mapM (·.resolve (bare.scope 0 s.name) [] false)
  return { bare with checks := checks }

end TableSource

/-! ## Commands -/

/-- what a command answers: the database after it, rows if it has any, and what it changed -/
structure Reply where
  db : Database
  rows : Option Rows
  count : Nat
  lastId : Option Int64

namespace Reply

/-- a command without rows -/
def changed (db : Database) : Reply := ⟨db, none, 0, none⟩

def ofWritten (w : Written) : Reply := ⟨w.db, none, w.count, w.lastId⟩

end Reply

namespace Database

def createTable (db : Database) (ifMissing : Bool) (source : TableSource) : Except EngineFault Database := do
  if isReservedName source.name then throw (.badDefinition "object name reserved for internal use")
  if (db.table? source.name).isSome then
    if ifMissing then return db else throw (.tableExists source.name)
  else
    let t ← source.compile
    let added := { db with tables := db.tables ++ [t] }
    if t.autoIncrement && (db.table? sequenceTable).isNone then
      return { added with tables := added.tables ++ [emptySequences] }
    else return added

def dropTable (db : Database) (ifThere : Bool) (name : String) : Except EngineFault Database :=
  match db.table? name with
  | none =>
    if ifThere && !isCatalogue name then .ok db
    else if isCatalogue name then .error (.badStatement "table may not be dropped")
    else .error (.noTable name)
  | some t =>
    if isReservedName t.name then .error (.badStatement "table may not be dropped")
    else do
      let emptied ← db.emptyForDrop t
      let rest := { emptied with tables := emptied.tables.filter fun s => !named name s }
      return if t.autoIncrement then rest.dropSequence t.name else rest

/-- the text of a definition with one more column behind the last one -/
def extendedText (t : StoredTable) (column : String) : String :=
  String.ofList (t.text.toList.take t.columnsEnd) ++ ", " ++ column
    ++ String.ofList (t.text.toList.drop t.columnsEnd)

/-- whether the parenthesis at the end of a definition closes it, rather than being part of a comment -/
def isClosed (text : String) : Bool :=
  (Token.all text.toList).getLast?.any fun t => t.stop == text.length

/-- a column that may be added to a table that has rows -/
def checkAddable (t : StoredTable) (c : ColumnSource) (column : TableColumn) : Except EngineFault Unit := do
  if (t.columnIndex? c.name).isSome then throw (.badDefinition "duplicate column name")
  if c.rules.any fun r => match r with
    | .primaryKey _ _ => true
    | .unique => true
    | _ => false then throw (.badDefinition "cannot add a unique column")
  if column.notNull && column.default.isNull && !t.rows.isEmpty then
    throw (.badDefinition "cannot add a NOT NULL column with default value NULL")
  if (ColumnSource.lastDefault? c.rules).any (!ColumnSource.isPlainDefault ·) && !t.rows.isEmpty then
    throw (.badDefinition "cannot add a column with non-constant default")

def addColumn (db : Database) (table : String) (c : ColumnSource) (text : String) :
    Except EngineFault Database := do
  let t ← db.writable table
  if isReservedName t.name then throw (.badStatement "table may not be altered")
  let column ← c.compile
  checkAddable t c column
  if mostColumns ≤ t.columns.length then throw (.badDefinition "too many columns")
  let references ← (c.rules.map fun r => (r, t.columns.length)).foldlM ForeignKey.addRule []
  if !references.isEmpty && !column.default.isNull && !t.rows.isEmpty then
    throw (.badDefinition "cannot add a REFERENCES column with non-NULL default value")
  let extended : StoredTable :=
    { t with
      columns := t.columns ++ [column]
      references := t.references.filter ForeignKey.ofColumn ++ references
        ++ t.references.filter fun k => !k.ofColumn
      text := extendedText t text
      columnsEnd := t.columnsEnd + 2 + text.length
      rows := t.rows.map fun r => { r with cells := r.cells ++ [column.affinity.store column.default] } }
  if !isClosed extended.text then throw (.badDefinition "incomplete input")
  let checks ← c.checks.mapM (·.resolve (extended.scope 0 t.name) [] false)
  extended.rows.forM ({ extended with checks := checks }).checkConditions
  return db.setTable { extended with checks := t.checks ++ checks }

/-- a version that does not fit in 32 bits is zero -/
def fitVersion (n : Int) : Int :=
  if Int32.minValue.toInt ≤ n ∧ n ≤ Int32.maxValue.toInt then n else 0

/-- what a command on the data does; a command that fails answers no database -/
def apply (db : Database) (args : List Value) : DataCommand → Except EngineFault Reply
  | .read r => (r.run db args).map fun rows => ⟨db, some rows, 0, none⟩
  | .insert t columns rows => (db.insert args t columns rows).map Reply.ofWritten
  | .update t sets condition => (db.update args t sets condition).map Reply.ofWritten
  | .delete t condition => (db.delete args t condition).map Reply.ofWritten
  | .createTable ifMissing source => (db.createTable ifMissing source).map Reply.changed
  | .dropTable ifThere t => (db.dropTable ifThere t).map Reply.changed
  | .addColumn t c text => (db.addColumn t c text).map Reply.changed
  | .readVersion =>
    .ok ⟨db, some ⟨["user_version"], [[.integer (Int64.ofInt db.version)]]⟩, 0, none⟩
  | .writeVersion n => .ok (Reply.changed { db with version := fitVersion n })

end Database

end FluentSql.Engine
