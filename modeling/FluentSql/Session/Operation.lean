import FluentSql.Session.Tables
/-!
Operations of a session as data, so that the history of a session is a list of them.

An errand is an operation on the bound handle, which is open for the length of the errand only. All other
operations bind, open, close, let go of or name databases, or change the units that wait. What an operation answers
is told apart as success or failure; a table definition that it freezes is its own.
-/

namespace FluentSql

namespace Task

variable {W V α : Type}

/-- forgets the answer -/
def dropAnswer (t : Task W α) : Task W Unit := t >>= fun _ => pure ()

/-- an action that also acts on something of its own -/
def beside (v : V) (t : Task (V × W) α) : Task W α := fun w => ((t (v, w)).1, (t (v, w)).2.2)

theorem dropAnswer_eq (t : Task W α) (w : W) : t.dropAnswer w = ((t w).1.map fun _ => (), (t w).2) :=
  bind_pure_eq t _ w

end Task

namespace Session

variable {W H P : Type} [Reporting W]

/-- an operation on the bound handle -/
inductive Errand where
  | run
  | exec (sql : String)
  | tableExists (table : String)
  | tableIsEmpty (table : String)
  | createTable (definition : Table)
  | createTableSql (sql : String)
  | createNewTable (definition : Table)
  | dropTable (table : String)

def Errand.perform (b : Backend W H P) : Errand → Task (Session H P × W) Unit
  | run => (Session.run b).dropAnswer
  | exec sql => Session.exec b sql
  | tableExists table => (Session.tableExists b table).dropAnswer
  | tableIsEmpty table => (Session.tableIsEmpty b table).dropAnswer
  | createTable definition => (Task.beside definition (Session.createTable b)).dropAnswer
  | createTableSql sql => (Session.createTableSql b sql).dropAnswer
  | createNewTable definition => (Task.beside definition (Session.createNewTable b)).dropAnswer
  | dropTable table => Session.dropTable b table

/-- anything that can be asked of a session -/
inductive Operation (H : Type) where
  | bind (h : H)
  | setVersion (version : Int)
  | setDb (name : String)
  | createDb (name : String)
  | createDbWithHooks (name : String) (hooks : Hooks)
  | createDbWithTables (name : String) (definitions : List Table)
  | openDb
  | closeDb
  | dbExists (name : String)
  | dropDb (name : String)
  | destroy
  | chain (step : Step)
  | errand (e : Errand)

def Operation.perform (b : Backend W H P) : Operation H → Task (Session H P × W) Unit
  | bind h => Session.bind b h
  | setVersion version => Session.setVersion version
  | setDb name => Session.setDb b name
  | createDb name => Session.createDb b name
  | createDbWithHooks name hooks => Session.createDbWithHooks b name hooks
  | createDbWithTables name definitions => (Task.beside definitions (Session.createDbWithTables b name)).dropAnswer
  | openDb => Session.openDb b
  | closeDb => Session.closeDb b
  | dbExists name => (Session.dbExists b name).dropAnswer
  | dropDb name => (Session.dropDb b name).dropAnswer
  | destroy => Session.destroy b
  | chain step => Session.chain step
  | errand e => e.perform b

/-- the session and the world after operations, one after the other -/
def after (b : Backend W H P) (ops : List (Operation H)) (start : Session H P × W) : Session H P × W :=
  ops.foldl (fun p op => (op.perform b p).2) start

/-! ## Lemmas -/

theorem after_concat (b : Backend W H P) (ops : List (Operation H)) (op : Operation H) (start : Session H P × W) :
    after b (ops ++ [op]) start = (op.perform b (after b ops start)).2 := by
  simp [after, List.foldl_append]

theorem beside_createTable (b : Backend W H P) (definition : Table) :
    Task.beside definition (createTable b) = createTableSql b definition.build.text := rfl

/-- creating a table anew is dropping it and then creating it -/
theorem beside_createNewTable (b : Backend W H P) (definition : Table) :
    Task.beside definition (createNewTable b) =
      (dropTable b definition.name >>= fun _ => createTableSql b definition.build.text) := by
  funext p
  simp only [Task.beside, createNewTable, Task.bind_eq, Task.read, Task.lift, Task.within]
  rcases dropTable b definition.name p with ⟨e | _, q⟩ <;> rfl

/-- opening a database with tables is opening it and then creating the tables -/
theorem beside_createDbWithTables (b : Backend W H P) (name : String) (definitions : List Table)
    (p : Session H P × W) :
    Task.beside definitions (createDbWithTables b name) p = match createDb b name p with
      | (.ok _, q) => ((createEach b definitions q).1, (createEach b definitions q).2.2)
      | (.error e, q) => (.error e, q) := by
  have hrun := Task.bind_eq (Task.lift (createDb b name)) (fun _ q => createEach b q.1 q.2) (definitions, p)
  have hopen : Task.lift (createDb b name) (definitions, p) =
      ((createDb b name p).1, definitions, (createDb b name p).2) := rfl
  rw [hopen] at hrun
  simp only [Task.beside, createDbWithTables]
  rw [hrun]
  rcases createDb b name p with ⟨e | _, q⟩ <;> rfl

end Session

end FluentSql
