import FluentSql.Value
/-!
Column definitions. A column collects its type, constraints, default and references in any order; the text
puts them into one fixed order. The first build freezes the text, and later changes no longer show. A column
without a name has no text and is never frozen.
-/

namespace FluentSql

/-- declared column types -/
inductive ColumnType where
  | integer
  | text
  | float
  | blob
  | null
deriving DecidableEq, Repr

namespace ColumnType

def keyword : ColumnType → String
  | integer => "INTEGER"
  | text => "TEXT"
  | float => "FLOAT"
  | blob => "BLOB"
  | null => "NULL"

end ColumnType

/-- a column definition under construction -/
structure Column where
  name : String
  /-- INTEGER if none was given -/
  type? : Option ColumnType
  primaryKey : Bool
  autoIncrement : Bool
  unique : Bool
  notNull : Bool
  /-- the text after DEFAULT -/
  default? : Option String
  /-- the condition inside CHECK -/
  check? : Option String
  /-- tables with their columns, in the order they were named -/
  references : List String
  /-- the text frozen by the first build -/
  built? : Option String
deriving DecidableEq, Repr

namespace Column

def named (name : String) : Column :=
  ⟨name, none, false, false, false, false, none, none, [], none⟩

/-! ## Parts -/

def ofType (c : Column) (t : ColumnType) : Column := { c with type? := some t }

def asPrimaryKey (c : Column) : Column := { c with primaryKey := true }

def withAutoIncrement (c : Column) : Column := { c with autoIncrement := true }

def asUnique (c : Column) : Column := { c with unique := true }

def asNotNull (c : Column) : Column := { c with notNull := true }

/-- a default written as a literal; quotes within a text are left as they are -/
def withDefault (c : Column) (v : Value) : Column := { c with default? := some v.literal }

/-- a text between single quotes, with every quote inside it doubled -/
def quotedText (s : String) : String :=
  String.ofList ('\'' :: s.toList.flatMap (fun c => if c = '\'' then ['\'', '\''] else [c]) ++ ['\''])

/-- a default text that reads back exactly, whatever quotes it holds -/
def withQuotedDefault (c : Column) (s : String) : Column := { c with default? := some (quotedText s) }

def withCheck (c : Column) (condition : String) : Column := { c with check? := some condition }

def withReference (c : Column) (table columns : String) : Column :=
  { c with references := c.references ++ [table ++ "(" ++ columns ++ ")"] }

/-! ## Text -/

/-- the parts in their fixed order -/
def parts (c : Column) : List String :=
  [c.name, (c.type?.getD .integer).keyword]
    ++ (if c.primaryKey then ["PRIMARY KEY"] else [])
    ++ (if c.autoIncrement then ["AUTOINCREMENT"] else [])
    ++ (if c.unique then ["UNIQUE"] else [])
    ++ (c.default?.toList.map fun d => "DEFAULT " ++ d)
    ++ (if c.references.isEmpty then [] else ["REFERENCES " ++ ", ".intercalate c.references])
    ++ (c.check?.toList.map fun e => "CHECK (" ++ e ++ ")")
    ++ (if c.notNull then ["NOT NULL"] else [])

def render (c : Column) : String := " ".intercalate c.parts

/-- freezes the text, unless it is frozen already or the column has no name -/
def build (c : Column) : Column :=
  if c.built?.isNone && !c.name.isEmpty then { c with built? := some c.render } else c

/-- the frozen text, empty before the first build -/
def text (c : Column) : String := c.built?.getD ""

def isBuilt (c : Column) : Bool := c.built?.isSome

end Column

end FluentSql
