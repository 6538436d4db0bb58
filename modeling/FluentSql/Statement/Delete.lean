import FluentSql.Statement.Select
/-!
Deletes under construction: a table and a condition.
-/

namespace FluentSql

/-- a delete under construction -/
structure Delete where
  table : String
  filter : Filter
deriving DecidableEq, Repr, Inhabited

namespace Delete

def empty : Delete := ⟨"", .empty⟩

def fromTable (s : Delete) (table : String) : Delete := { s with table := table }

def fromTables (s : Delete) (tables : List String) : Delete := { s with table := NameList.join tables }

/-- changes the condition -/
def onFilter (change : Filter → Filter) (s : Delete) : Delete := { s with filter := change s.filter }

def sql (s : Delete) : String := SqlText.delete s.table s.filter.clause?

def validate (s : Delete) : Except DbError Unit := requireTable .delete s.table

variable {W : Type}

def execute (c : Channel W) (s : Delete) : Task W Nat :=
  c.delete s.table s.filter.clause? s.filter.args

/-- checks the statement and carries it out; answers how many rows it touched -/
def run (c : Channel W) (s : Delete) : Task W Nat := do
  Task.ofExcept s.validate
  s.execute c

/-- carries the statement out and starts a new one in its place, also after a failure -/
def runThenReset (c : Channel W) : Task (Delete × W) Nat := Task.usingUp (run c) fun _ => empty

end Delete

end FluentSql
