import FluentSql.Session.Tables
/-!
Entity tables: one table of one database with an `id` column, and the row operations on it.

Each operation opens the database, runs, and closes it again unless the session had that very database open.
No error leaves an operation: a failure is reported as an event and answered with `false`.
-/

namespace FluentSql

/-- a table with an `id` column in a database -/
structure Entity where
  dbName : String
  schema : Table
  /-- who it is in events -/
  tag : String
  /-- the id of the row created last, zero before the first -/
  lastCreatedId : Int64

namespace Entity

def ofTable (dbName : String) (schema : Table) : Entity := ⟨dbName, schema, schema.name, 0⟩

def withTag (e : Entity) (tag : String) : Entity := { e with tag := tag }

def table (e : Entity) : String := e.schema.name

/-- the column that tells rows apart -/
def idColumn : String := "id"

variable {W H P α : Type} [Reporting W]

/-- an action on the session of an entity -/
abbrev inSession (t : Task (Session H P × W) α) : Task (Entity × Session H P × W) α := Task.lift t

/-- an action on the table definition of an entity -/
def onSchema (t : Task (Table × Session H P × W) α) : Task (Entity × Session H P × W) α :=
  Task.within (fun p => (p.1.schema, p.2)) (fun q p => ({ p.1 with schema := q.1 }, q.2)) t

/-- names and opens the database of the entity -/
def enter (b : Backend W H P) (e : Entity) : Task (Session H P × W) Unit := do
  Session.setDb b e.dbName
  Session.openDb b

/-- the session has the database of the entity open -/
def isEntered (b : Backend W H P) (p : Entity × Session H P × W) : Bool :=
  Session.isOpen b p.2 && p.2.1.dbName == some p.1.dbName

/-- runs an action with the database open, and closes it afterwards unless it was open before -/
def inDatabase (b : Backend W H P) (action : Task (Entity × Session H P × W) α) :
    Task (Entity × Session H P × W) α := do
  let wasOpen ← Task.read (isEntered b)
  let e ← Task.read Prod.fst
  let outcome ← Task.attempt do
    inSession (enter b e)
    action
  if !wasOpen then inSession (Session.closeDb b)
  Task.ofExcept outcome

def failed (e : Entity) (op : String) (why : DbError) : Event :=
  .warn "entity operation failed"
    [("tag", e.tag), ("table", e.table), ("op", op), ("error", why.message)]

/-- answers nothing for a failure, which is reported -/
def reported (op : String) (action : Task (Entity × Session H P × W) α) :
    Task (Entity × Session H P × W) (Option α) := do
  match ← Task.attempt action with
  | .ok a => pure (some a)
  | .error why =>
    let e ← Task.read Prod.fst
    report (e.failed op why)
    pure none

/-! ## Operations -/

/-- creates the table, dropping it first if asked to; the definition is frozen then -/
def createSchema (b : Backend W H P) (dropFirst : Bool) : Task (Entity × Session H P × W) Bool := do
  let answer ← reported "create schema" <| inDatabase b <| onSchema <|
    if dropFirst then Session.createNewTable b else Session.createTable b
  pure (answer.getD false)

/-- the id of the row that an insert made -/
def insertRow (b : Backend W H P) (table : String) (r : Record) : Task (Session H P × W) Int64 := do
  Session.chain (.insert r)
  Session.chain (.intoTable table)
  let outcome ← Session.run b
  match outcome.rowId? with
  | some id => pure id
  | none => Task.fail (.execution .rowIdMissing)

/-- inserts a row and remembers its id; answers whether the id is positive -/
def create (b : Backend W H P) (r : Record) : Task (Entity × Session H P × W) Bool := do
  let e ← Task.read Prod.fst
  match ← reported "create" (inDatabase b (inSession (insertRow b e.table r))) with
  | some id =>
    Task.change fun p => ({ p.1 with lastCreatedId := id }, p.2)
    pure (decide (0 < id))
  | none => pure false

/-- whether a statement touched any row -/
def affectedAny (outcome : Option Outcome) : Bool := (outcome.bind Outcome.affected?).any (0 < ·)

/-- runs one unit of work in the database -/
def runUnit (b : Backend W H P) (op : String) (steps : Entity → List Step) :
    Task (Entity × Session H P × W) (Option Outcome) := do
  let e ← Task.read Prod.fst
  reported op <| inDatabase b <| inSession do
    (steps e).forM Session.chain
    Session.run b

/-- changes the row with an id -/
def update (b : Backend W H P) (id : Int64) (r : Record) : Task (Entity × Session H P × W) Bool := do
  let outcome ← runUnit b "update" fun e =>
    [.update e.table, .values r, .compare .equals idColumn (.integer id)]
  pure (affectedAny outcome)

/-- deletes the rows whose field has a value -/
def deleteWhere (b : Backend W H P) (field : String) (v : Value) :
    Task (Entity × Session H P × W) Bool := do
  let outcome ← runUnit b "delete" fun e => [.deleteFrom e.table, .compare .equals field v]
  pure (affectedAny outcome)

/-- deletes the row with an id -/
def delete (b : Backend W H P) (id : Int64) : Task (Entity × Session H P × W) Bool :=
  deleteWhere b idColumn (.integer id)

/-- one equality for each cell, joined by AND -/
def matchSteps (cells : List (String × Value)) : List Step :=
  cells.flatMap fun cell => [.compare .equals cell.1 cell.2, .connect .and]

/-- deletes the rows that agree with a record in all its fields; an empty record matches nothing -/
def deleteMatching (b : Backend W H P) (r : Record) : Task (Entity × Session H P × W) Bool := do
  if r.isEmpty then
    let refused : Task (Entity × Session H P × W) Outcome := Task.fail (.validation .emptyMatch)
    let outcome ← reported "delete" (inDatabase b refused)
    pure (affectedAny outcome)
  else
    let outcome ← runUnit b "delete" fun e => .deleteFrom e.table :: matchSteps r.cells
    pure (affectedAny outcome)

/-- whether the table has a row -/
def hasItems (b : Backend W H P) : Task (Entity × Session H P × W) Bool := do
  let outcome ← runUnit b "has items" fun e => [.get [idColumn], .fromTable e.table, .limit 1]
  pure ((outcome.bind Outcome.records?).any fun rs => !rs.isEmpty)

end Entity

end FluentSql
