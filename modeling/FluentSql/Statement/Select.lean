import FluentSql.Backend
import FluentSql.Filter
import FluentSql.NameList
/-!
Reads under construction. The parts may be set in any order, and the last setting of a part counts. A limit
decides the shape of the read: without one the distinct flag is not sent.
-/

namespace FluentSql

/-- refuses a statement that names no table -/
def requireTable (verb : Verb) (table : String) : Except DbError Unit :=
  if Text.blank table then .error (.validation (.missingTable verb)) else .ok ()

/-- a read under construction -/
structure Select where
  table : String
  /-- none for every column -/
  columns : Option (List String)
  filter : Filter
  distinct : Bool
  groupBy : Option String
  having : Option String
  orderBy : Option String
  limit : Option String
deriving DecidableEq, Repr, Inhabited

/-- what a read sends besides its condition and order -/
inductive ReadShape where
  | base
  | limited
  | distinctLimited
deriving DecidableEq, Repr

namespace ReadShape

def name : ReadShape → String
  | base => "Base"
  | limited => "Limited"
  | distinctLimited => "DistinctLimited"

end ReadShape

namespace Select

def empty : Select := ⟨"", none, .empty, false, none, none, none, none⟩

/-! ## Parts -/

def fromTable (s : Select) (table : String) : Select := { s with table := table }

def fromTables (s : Select) (tables : List String) : Select := { s with table := NameList.join tables }

/-- an empty list reads every column -/
def ofColumns (s : Select) (columns : List String) : Select :=
  { s with columns := if columns.isEmpty then none else some columns }

def allColumns (s : Select) : Select := { s with columns := none }

def withDistinct (s : Select) (distinct : Bool) : Select := { s with distinct := distinct }

def withGroupBy (s : Select) (body : String) : Select := { s with groupBy := some body }

def withHaving (s : Select) (body : String) : Select := { s with having := some body }

def withOrderBy (s : Select) (body : String) : Select := { s with orderBy := some body }

def withLimit (s : Select) (count : Nat) : Select := { s with limit := some (toString count) }

def withLimitOffset (s : Select) (count offset : Nat) : Select :=
  { s with limit := some (toString count ++ " OFFSET " ++ toString offset) }

/-- changes the condition -/
def onFilter (change : Filter → Filter) (s : Select) : Select := { s with filter := change s.filter }

/-! ## Running -/

def shape (s : Select) : ReadShape :=
  match s.limit.isSome, s.distinct with
  | true, true => .distinctLimited
  | true, false => .limited
  | false, _ => .base

/-- the read as it is sent -/
def query (s : Select) : Query where
  distinct := s.shape == .distinctLimited
  table := s.table
  columns := s.columns
  selection := s.filter.clause?
  args := s.filter.args
  groupBy := s.groupBy
  having := s.having
  orderBy := s.orderBy
  limit := if s.shape == .base then none else s.limit

def sql (s : Select) : String := SqlText.select s.query

def validate (s : Select) : Except DbError Unit := requireTable .select s.table

variable {W : Type}

def execute (c : Channel W) (s : Select) : Task W Rows := c.query s.query

/-- checks the statement and carries it out -/
def run (c : Channel W) (s : Select) : Task W Rows := do
  Task.ofExcept s.validate
  s.execute c

/-- carries the statement out and starts a new one in its place, also after a failure -/
def runThenReset (c : Channel W) : Task (Select × W) Rows := Task.usingUp (run c) fun _ => empty

end Select

end FluentSql
