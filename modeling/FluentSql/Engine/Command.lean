import FluentSql.Engine.Arithmetic
import FluentSql.Engine.Order
import FluentSql.Engine.Token
/-!
Commands of the embedded engine, as read from SQL text but before any name in them is looked up.

A command either works on the data (`Command.data`) or controls the transaction (`Command.control`); the two
are kept apart because a transaction encloses the former and is moved by the latter.
-/

namespace FluentSql.Engine

/-! ## Expressions -/

/-- functions of a group of rows -/
inductive Aggregate where
  | count
  | least
  | greatest
  | sum
deriving DecidableEq, Repr

/-- expressions with the names as they were written -/
inductive Expr where
  | literal (v : Value)
  /-- a column, by its name alone or behind the name of its table; a name in double quotes that is no column
  is a text -/
  | name (table : Option String) (column : String) (doubleQuoted : Bool)
  /-- a placeholder, counted from one -/
  | param (place : Nat)
  | negate (e : Expr)
  | plus (e : Expr)
  | not (e : Expr)
  | isNull (e : Expr)
  | notNull (e : Expr)
  /-- equality that counts null as a value -/
  | same (a b : Expr)
  | relate (r : Relation) (a b : Expr)
  | between (e low high : Expr)
  /-- equality with one of several choices, where only the left side decides the kind -/
  | oneOf (e : Expr) (choices : List Expr)
  | and (a b : Expr)
  | or (a b : Expr)
  | like (a b : Expr)
  | compute (op : Arithmetic) (a b : Expr)
  /-- two texts in one -/
  | append (a b : Expr)
  | countAll
  | aggregate (f : Aggregate) (e : Expr)
deriving Inhabited

/-- whether an expression needs no row; a name may be that of a column -/
def Expr.isConstant : Expr → Bool
  | .literal _ => true
  | .param _ => true
  | .name none c quoted => !quoted && (Text.sameLetters c "true" || Text.sameLetters c "false")
  | .negate e => e.isConstant
  | .plus e => e.isConstant
  | .not e => e.isConstant
  | .isNull e => e.isConstant
  | .notNull e => e.isConstant
  | .same a b => a.isConstant && b.isConstant
  | .relate _ a b => a.isConstant && b.isConstant
  | .between e low high => e.isConstant && low.isConstant && high.isConstant
  | .and a b => a.isConstant && b.isConstant
  | .or a b => a.isConstant && b.isConstant
  | .compute _ a b => a.isConstant && b.isConstant
  | .append a b => a.isConstant && b.isConstant
  | _ => false

mutual

/-- how many operations lie one inside the other, literals and names counting as one; the sign of a number is an
operation -/
def Expr.depth : Expr → Nat
  | .literal (.integer i) => if i < 0 then 2 else 1
  | .literal (.real x) => if x < 0 then 2 else 1
  | .literal _ => 1
  | .name _ _ _ => 1
  | .param _ => 1
  | .countAll => 1
  | .negate e => e.depth + 1
  | .plus e => e.depth + 1
  | .not e => e.depth + 1
  | .isNull e => e.depth + 1
  | .notNull e => e.depth + 1
  | .aggregate _ e => e.depth + 1
  | .same a b => max a.depth b.depth + 1
  | .relate _ a b => max a.depth b.depth + 1
  | .and a b => max a.depth b.depth + 1
  | .or a b => max a.depth b.depth + 1
  | .like a b => max a.depth b.depth + 1
  | .compute _ a b => max a.depth b.depth + 1
  | .append a b => max a.depth b.depth + 1
  | .between e low high => max e.depth (max low.depth high.depth) + 1
  | .oneOf e choices => max e.depth (Expr.depthOfAll choices) + 1

/-- the depth of the deepest expression -/
def Expr.depthOfAll : List Expr → Nat
  | [] => 0
  | e :: rest => max e.depth (Expr.depthOfAll rest)

end

/-- the most that an expression may be deep -/
def Expr.mostDepth : Nat := 1000

/-- one output column of a read -/
inductive Output where
  /-- every column, or every column of one table -/
  | all (table : Option String)
  /-- an expression with its new name, if it got one, and its text -/
  | expr (e : Expr) (alias? : Option String) (text : String)
deriving Inhabited

/-- a key to sort by -/
structure SortKey where
  expr : Expr
  descending : Bool
  /-- whether null comes first, if that was said -/
  nullsFirst : Option Bool
deriving Inhabited

/-- a read -/
structure Reading where
  distinct : Bool
  outputs : List Output
  /-- the tables with the names they go by -/
  tables : List (String × String)
  condition : Option Expr
  groupBy : List Expr
  having : Option Expr
  orderBy : List SortKey
  limit : Option Expr
  offset : Option Expr
deriving Inhabited

/-! ## Definitions of tables -/

/-- what happens to the rows that refer to a row which goes away or gets another key -/
inductive Reaction where
  /-- nothing; they may refer to nothing for a moment -/
  | wait
  | restrict
  | setNull
  | setDefault
  | cascade
deriving DecidableEq, Repr, Inhabited

/-- a reference to the rows of a table -/
structure ReferenceSource where
  parent : String
  /-- no columns stand for the primary key -/
  columns : Option (List String)
  onDelete : Reaction
  onUpdate : Reaction
  /-- it may lead nowhere until the transaction ends -/
  deferred : Bool
deriving Inhabited

/-- a constraint in the definition of a column -/
inductive ColumnRule where
  | primaryKey (descending autoIncrement : Bool)
  | unique
  | notNull
  | default (e : Expr)
  | check (e : Expr)
  | references (r : ReferenceSource)
  /-- whether the latest reference is deferred -/
  | defer (deferred : Bool)
  /-- a constraint that restricts nothing -/
  | free
deriving Inhabited

structure ColumnSource where
  name : String
  typeName : String
  rules : List ColumnRule
deriving Inhabited

/-- a constraint in the definition of a table -/
inductive TableRule where
  /-- each column with whether it descends -/
  | primaryKey (columns : List (String × Bool)) (autoIncrement : Bool)
  | unique (columns : List (String × Bool))
  | check (e : Expr)
  | references (columns : List String) (r : ReferenceSource)
deriving Inhabited

structure TableSource where
  name : String
  columns : List ColumnSource
  rules : List TableRule
  /-- the text of the definition, from the name on -/
  text : String
  /-- how many characters of it there are up to the end of the last column -/
  columnsEnd : Nat
deriving Inhabited

/-! ## Commands -/

/-- the rows of an insert -/
inductive NewRows where
  | defaults
  | values (rows : List (List Expr))
deriving Inhabited

/-- whether an insert brings exactly one row -/
def NewRows.isSingle : NewRows → Bool
  | .defaults => true
  | .values rows => rows.length == 1

/-- commands on the data of one database -/
inductive DataCommand where
  | read (r : Reading)
  /-- no columns stand for all of them -/
  | insert (table : String) (columns : Option (List String)) (rows : NewRows)
  | update (table : String) (assignments : List (String × Expr)) (condition : Option Expr)
  | delete (table : String) (condition : Option Expr)
  | createTable (ifMissing : Bool) (source : TableSource)
  | dropTable (ifThere : Bool) (table : String)
  /-- the text is that of the column -/
  | addColumn (table : String) (column : ColumnSource) (text : String)
  | readVersion
  | writeVersion (version : Int)
deriving Inhabited

/-- how much a transaction takes hold of when it begins -/
inductive Beginning where
  /-- nothing until it is needed -/
  | deferred
  /-- the right to write -/
  | immediate
  /-- everything -/
  | exclusive
deriving DecidableEq, Repr, Inhabited

/-- commands that move the transaction -/
inductive Control where
  | begin (how : Beginning)
  | commit
  | rollback
  | savepoint (name : String)
  | release (name : String)
  | rollbackTo (name : String)
deriving DecidableEq, Repr, Inhabited

inductive Command where
  | data (c : DataCommand)
  | control (c : Control)
deriving Inhabited

namespace DataCommand

/-- whether the command changes the database -/
def writes : DataCommand → Bool
  | read _ => false
  | readVersion => false
  | _ => true

end DataCommand

end FluentSql.Engine
