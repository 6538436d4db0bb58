import FluentSql.Schema.Table
import FluentSql.Session.Databases
/-!
Tables of the bound database. A table that cannot be looked up does not exist, and a table that cannot be
created is reported as such: only the lack of a database is an error.

Creating a table also freezes its definition, so these operations act on the definition together with the
session.
-/

namespace FluentSql.Session

variable {W H P α : Type} [Reporting W]

def lookupFailed (table : String) (e : DbError) : Event :=
  .debug "table lookup failed" [("table", table), ("error", e.message)]

/-- whether the rows of a table can be counted -/
def tableExists (b : Backend W H P) (table : String) : Task (Session H P × W) Bool :=
  withHandle b fun h => do
    match ← Task.attempt (Task.lift ((b.channel h).countRows table)) with
    | .ok _ => pure true
    | .error e =>
      report (lookupFailed table e)
      pure false

def countFailed (table : String) (e : DbError) : Event :=
  .warn "row count failed" [("table", table), ("error", e.message)]

/-- whether an existing table has no rows -/
def tableIsEmpty (b : Backend W H P) (table : String) : Task (Session H P × W) Bool := do
  if ← tableExists b table then
    withHandle b fun h => do
      match ← Task.attempt (Task.lift ((b.channel h).countRows table)) with
      | .ok n => pure (decide (n < 1))
      | .error e =>
        report (countFailed table e)
        pure false
  else Task.fail (.tableNotFound table)

def createFailed (e : DbError) : Event := .warn "create table failed" [("error", e.message)]

/-- executes a CREATE statement -/
def createTableSql (b : Backend W H P) (sql : String) : Task (Session H P × W) Bool := do
  match ← Task.attempt (exec b sql) with
  | .ok () => pure true
  | .error .noDatabaseBound => Task.fail .noDatabaseBound
  | .error e =>
    report (createFailed e)
    pure false

def dropTable (b : Backend W H P) (table : String) : Task (Session H P × W) Unit :=
  exec b (Table.dropSqlOf table)

/-- freezes a definition and creates its table -/
def createTable (b : Backend W H P) : Task (Table × Session H P × W) Bool := fun p =>
  Task.lift (createTableSql b p.1.build.text) (p.1.build, p.2)

/-- drops a table if it exists and creates it anew -/
def createNewTable (b : Backend W H P) : Task (Table × Session H P × W) Bool := do
  let name ← Task.read fun p => p.1.name
  Task.lift (dropTable b name)
  createTable b

/-- creates tables in order up to the first that cannot be created -/
def createEach (b : Backend W H P) :
    List Table → Session H P × W → Except DbError Bool × List Table × Session H P × W
  | [], p => (.ok true, [], p)
  | t :: ts, p =>
    match createTable b (t, p) with
    | (.ok true, t', p') =>
      let rest := createEach b ts p'
      (rest.1, t' :: rest.2.1, rest.2.2)
    | (other, t', p') => (other, t' :: ts, p')

/-- opens a database and creates tables in it; answers whether all were created -/
def createDbWithTables (b : Backend W H P) (name : String) : Task (List Table × Session H P × W) Bool := do
  Task.lift (createDb b name)
  fun p => createEach b p.1 p.2

end FluentSql.Session
