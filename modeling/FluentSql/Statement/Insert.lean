import FluentSql.Statement.Select
/-!
Inserts under construction: one row of values, or a record set that takes their place.

A record set goes in between a savepoint and its release. If a row is refused, the store goes back to the
savepoint and the answer is the error of that row, whatever becomes of the way back.
-/

namespace FluentSql

/-- an insert under construction -/
structure Insert where
  table : String
  values : Record
  /-- rows that are inserted instead of the values -/
  records : Option RecordSet
deriving Inhabited

namespace Insert

def empty : Insert := ⟨"", .empty, none⟩

/-! ## Parts -/

def intoTable (s : Insert) (table : String) : Insert := { s with table := table }

def set (s : Insert) (column : String) (v : Value) : Insert := { s with values := s.values.set column v }

def withValues (s : Insert) (values : Record) : Insert := { s with values := s.values.extend values }

def withRecords (s : Insert) (records : RecordSet) : Insert := { s with records := some records }

/-- nothing has been set -/
def isEmpty (s : Insert) : Bool := s.table.isEmpty && s.values.isEmpty && s.records.isNone

/-! ## Running -/

/-- the statement for the first row -/
def sql (s : Insert) : String :=
  match s.records.bind List.head? with
  | some first => SqlText.insert s.table first
  | none => SqlText.insert s.table s.values

def validate (s : Insert) : Except DbError Unit := requireTable .insert s.table

/-- the name of the savepoint around a record set -/
def savepoint : String := "dbtool_record_set"

def savepointSql : String := "SAVEPOINT " ++ savepoint

def releaseSql : String := "RELEASE SAVEPOINT " ++ savepoint

def rollbackSql : String := "ROLLBACK TO SAVEPOINT " ++ savepoint

variable {W : Type}

/-- inserts rows in order up to the first that is refused; answers their ids -/
def insertEach (c : Channel W) (table : String) : RecordSet → Task W (List Int64)
  | [] => pure []
  | r :: rs => do
    let id ← c.insert table r
    let ids ← insertEach c table rs
    pure (id :: ids)

/-- goes back to the savepoint and gives it up -/
def undo (c : Channel W) : Task W Unit := do
  c.execute rollbackSql
  c.execute releaseSql

def undoFailed (table : String) (e : DbError) : Event :=
  .warn "rollback of record set insert failed" [("table", table), ("error", e.message)]

/-- inserts rows between a savepoint and its release; a row that is refused takes all of them back -/
def insertAll [Reporting W] (c : Channel W) (table : String) (records : RecordSet) :
    Task W (List Int64) := do
  c.execute savepointSql
  match ← Task.attempt (insertEach c table records) with
  | .ok ids =>
    c.execute releaseSql
    pure ids
  | .error e =>
    match ← Task.attempt (undo c) with
    | .ok () => Task.fail e
    | .error why =>
      report (undoFailed table why)
      Task.fail e

def execute [Reporting W] (c : Channel W) (s : Insert) : Task W (List Int64) :=
  match s.records with
  | some records => insertAll c s.table records
  | none => do
    let id ← c.insert s.table s.values
    pure [id]

/-- checks the statement and carries it out; answers the ids of the new rows -/
def run [Reporting W] (c : Channel W) (s : Insert) : Task W (List Int64) := do
  Task.ofExcept s.validate
  s.execute c

/-- carries the statement out and starts a new one in its place, also after a failure -/
def runThenReset [Reporting W] (c : Channel W) : Task (Insert × W) (List Int64) := Task.usingUp (run c) fun _ => empty

end Insert

end FluentSql
