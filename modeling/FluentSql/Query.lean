import FluentSql.Record
/-!
Reads as data, and the text of the four statements.

`Query` holds everything a read can say. Its text has the clauses in their fixed order and leaves out those
with a blank body. The write statements have one placeholder per value, in record order, so the k-th value
goes under the k-th column.
-/

namespace FluentSql

/-- everything a read can say -/
structure Query where
  distinct : Bool
  table : String
  /-- no list, or an empty one, reads every column -/
  columns : Option (List String)
  /-- the condition, without its keyword -/
  selection : Option String
  /-- the arguments of the placeholders in the condition -/
  args : List String
  groupBy : Option String
  having : Option String
  orderBy : Option String
  limit : Option String
deriving DecidableEq, Repr, Inhabited

namespace Query

/-- reads every column and row of a table -/
def all (table : String) : Query := ⟨false, table, none, none, [], none, none, none, none⟩

/-- counts the rows of a table -/
def count (table : String) : Query := { all table with columns := some ["COUNT(*)"] }

end Query

namespace SqlText

/-- a keyword with its body, or nothing for a blank body -/
def clauseText (keyword : String) : Option String → String
  | some body => if Text.blank body then "" else " " ++ keyword ++ " " ++ body
  | none => ""

def columnText : Option (List String) → String
  | some (c :: cs) => ", ".intercalate (c :: cs)
  | _ => "*"

/-- the text of a read -/
def select (q : Query) : String :=
  "SELECT " ++ (if q.distinct then "DISTINCT " else "") ++ columnText q.columns ++ " FROM " ++ q.table
    ++ clauseText "WHERE" q.selection ++ clauseText "GROUP BY" q.groupBy ++ clauseText "HAVING" q.having
    ++ clauseText "ORDER BY" q.orderBy ++ clauseText "LIMIT" q.limit

/-- the text of an insert, one placeholder per column -/
def insert (table : String) (values : Record) : String :=
  if values.isEmpty then "INSERT INTO " ++ table ++ " DEFAULT VALUES"
  else
    "INSERT INTO " ++ table ++ " (" ++ ", ".intercalate values.names ++ ") VALUES ("
      ++ ", ".intercalate (values.names.map fun _ => "?") ++ ")"

/-- the text of an update, one placeholder per column -/
def update (table : String) (values : Record) (condition : Option String) : String :=
  "UPDATE " ++ table ++ " SET " ++ ", ".intercalate (values.names.map fun c => c ++ " = ?")
    ++ clauseText "WHERE" condition

/-- the text of a delete -/
def delete (table : String) (condition : Option String) : String :=
  "DELETE FROM " ++ table ++ clauseText "WHERE" condition

end SqlText

end FluentSql
