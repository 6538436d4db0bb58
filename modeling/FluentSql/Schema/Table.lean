import FluentSql.Schema.Column
/-!
Table definitions: a name and the definitions of columns and constraints in the order they were added. The
first build freezes the CREATE statement; definitions added later are kept but no longer change it.
-/

namespace FluentSql

/-- a table definition under construction -/
structure Table where
  name : String
  definitions : List String
  /-- the statement frozen by the first build -/
  built? : Option String
deriving DecidableEq, Repr

namespace Table

def named (name : String) : Table := ⟨name, [], none⟩

/-- adds a definition; blank ones are ignored -/
def define (t : Table) (definition : String) : Table :=
  if Text.blank definition then t else { t with definitions := t.definitions ++ [definition] }

/-- adds a column with the text it was frozen to, or its text at this moment -/
def column (t : Table) (c : Column) : Table := t.define c.build.text

def createSql (t : Table) : String :=
  "CREATE TABLE IF NOT EXISTS " ++ t.name ++ "( " ++ ", ".intercalate t.definitions ++ ");"

/-- freezes the CREATE statement, unless it is frozen already -/
def build (t : Table) : Table := if t.built?.isNone then { t with built? := some t.createSql } else t

/-- the frozen statement, empty before the first build -/
def text (t : Table) : String := t.built?.getD ""

def isBuilt (t : Table) : Bool := t.built?.isSome

/-- the statement that drops a table of a given name -/
def dropSqlOf (name : String) : String := "DROP TABLE IF EXISTS " ++ name

def dropSql (t : Table) : String := dropSqlOf t.name

end Table

end FluentSql
