import FluentSql.Statement.Select
/-!
Updates under construction: a table, the values to set, and a condition.
-/

namespace FluentSql

/-- an update under construction -/
structure Update where
  table : String
  values : Record
  filter : Filter
deriving Inhabited

namespace Update

def empty : Update := ⟨"", .empty, .empty⟩

def ofTable (s : Update) (table : String) : Update := { s with table := table }

def ofTables (s : Update) (tables : List String) : Update := { s with table := NameList.join tables }

def set (s : Update) (column : String) (v : Value) : Update := { s with values := s.values.set column v }

def withValues (s : Update) (values : Record) : Update := { s with values := s.values.extend values }

/-- changes the condition -/
def onFilter (change : Filter → Filter) (s : Update) : Update := { s with filter := change s.filter }

/-- nothing has been set -/
def isEmpty (s : Update) : Bool := s.table.isEmpty && s.values.isEmpty && s.filter == .empty

def sql (s : Update) : String := SqlText.update s.table s.values s.filter.clause?

def validate (s : Update) : Except DbError Unit := requireTable .update s.table

variable {W : Type}

def execute (c : Channel W) (s : Update) : Task W Nat :=
  c.update s.table s.values s.filter.clause? s.filter.args

/-- checks the statement and carries it out; answers how many rows it touched -/
def run (c : Channel W) (s : Update) : Task W Nat := do
  Task.ofExcept s.validate
  s.execute c

/-- carries the statement out and starts a new one in its place, also after a failure -/
def runThenReset (c : Channel W) : Task (Update × W) Nat := Task.usingUp (run c) fun _ => empty

end Update

end FluentSql
