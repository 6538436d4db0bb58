import FluentSql.Value
/-!
What can go wrong, by cause. Each cause is a constructor, and the wording of all of them is in the
`message` functions. `stated` stands for a cause that somebody outside the library worded.
-/

namespace FluentSql

/-- the type a single cell is read as -/
inductive ScalarKind where
  | text
  | int
  | float
  | double
deriving DecidableEq, Repr

namespace ScalarKind

def name : ScalarKind → String
  | text => "Text"
  | int => "Int"
  | float => "Float"
  | double => "Double"

end ScalarKind

/-- the four kinds of statement -/
inductive Verb where
  | select
  | insert
  | update
  | delete
deriving DecidableEq, Repr

namespace Verb

def keyword : Verb → String
  | select => "SELECT"
  | insert => "INSERT"
  | update => "UPDATE"
  | delete => "DELETE"

def name : Verb → String
  | select => "Select"
  | insert => "Insert"
  | update => "Update"
  | delete => "Delete"

end Verb

/-! ## Causes -/

/-- a statement or handle that was refused before anything was executed -/
inductive Invalid where
  | missingTable (verb : Verb)
  | scalarWidth (columns : Nat)
  | emptyUpdate (table : String)
  | versionTooLow (version : Int)
  | downgrade (database : String) (current requested : Int)
  | blankDatabaseName
  | emptyMatch
  | stated (text : String)
deriving DecidableEq, Repr

namespace Invalid

def message : Invalid → String
  | missingTable verb => verb.keyword ++ " requires a table"
  | scalarWidth columns => "scalar read needs exactly one column, got " ++ toString columns
  | emptyUpdate table => "UPDATE " ++ table ++ " has no values to set"
  | versionTooLow version => "version must be at least 1, got " ++ toString version
  | downgrade database current requested =>
    "cannot downgrade database " ++ database ++ " from version " ++ toString current ++ " to "
      ++ toString requested
  | blankDatabaseName => "database name must not be empty"
  | emptyMatch => "refusing to delete with an empty record"
  | stated text => text

end Invalid

/-- a statement that a handle could not carry out -/
inductive ExecutionFault where
  | countMissing (table : String)
  | rowIdMissing
  | stated (text : String)
deriving DecidableEq, Repr

namespace ExecutionFault

def message : ExecutionFault → String
  | countMissing table => "COUNT(*) on " ++ table ++ " returned no rows"
  | rowIdMissing => "insert returned no row id"
  | stated text => text

end ExecutionFault

/-- a failure of the embedded engine -/
inductive EngineFault where
  | badSyntax (near : String)
  | noTable (name : String)
  | tableExists (name : String)
  | noColumn (name : String)
  | ambiguousColumn (name : String)
  | badDefinition (why : String)
  | badStatement (why : String)
  | notUnique (columns : String)
  | missingValue (column : String)
  | checkFailed (what : String)
  | brokenReference
  | referenceMismatch (table parent : String)
  | reactionsTooDeep
  | kindMismatch
  | argumentCount (given needed : Nat)
  | overflow
  | rowsReturned
  | noTransaction
  | nestedTransaction
  | noSavepoint (name : String)
  | locked
  | readOnly
  | ioFailed
  | full
  | cannotOpen (path : String)
  | notADatabase
  | stated (text : String)
deriving DecidableEq, Repr

namespace EngineFault

def message : EngineFault → String
  | badSyntax near => if near.isEmpty then "incomplete input" else "near " ++ near ++ ": syntax error"
  | noTable name => "no such table: " ++ name
  | tableExists name => "table " ++ name ++ " already exists"
  | noColumn name => "no such column: " ++ name
  | ambiguousColumn name => "ambiguous column name: " ++ name
  | badDefinition why => why
  | badStatement why => why
  | notUnique columns => "UNIQUE constraint failed: " ++ columns
  | missingValue column => "NOT NULL constraint failed: " ++ column
  | checkFailed what => "CHECK constraint failed: " ++ what
  | brokenReference => "FOREIGN KEY constraint failed"
  | referenceMismatch table parent =>
    "foreign key mismatch - " ++ Text.quote table ++ " referencing " ++ Text.quote parent
  | reactionsTooDeep => "too many levels of trigger recursion"
  | kindMismatch => "datatype mismatch"
  | argumentCount given needed =>
    "wrong number of arguments passed to query: got " ++ toString given ++ ", needed " ++ toString needed
  | overflow => "integer overflow"
  | rowsReturned => "execute returned results"
  | noTransaction => "no transaction is active"
  | nestedTransaction => "cannot start a transaction within a transaction"
  | noSavepoint name => "no such savepoint: " ++ name
  | locked => "database is locked"
  | readOnly => "attempt to write a readonly database"
  | ioFailed => "disk I/O error"
  | full => "database or disk is full"
  | cannotOpen path => "unable to open database file: " ++ path
  | notADatabase => "file is not a database"
  | stated text => text

/-- whether a fault arises only when rows are at hand, and not from the text of a command -/
def isLate : EngineFault → Bool
  | notUnique _ => true
  | missingValue _ => true
  | checkFailed _ => true
  | brokenReference => true
  | reactionsTooDeep => true
  | kindMismatch => true
  | overflow => true
  | full => true
  | _ => false

end EngineFault

/-- a cell that has no value of the requested kind -/
inductive ConversionFault where
  | cannotRead (value : Value) (kind : ScalarKind)
  | stated (text : String)

namespace ConversionFault

def message : ConversionFault → String
  | cannotRead value kind => "cannot read " ++ value.describe ++ " as " ++ kind.name
  | stated text => text

end ConversionFault

/-- a setting that is missing, unreadable or out of range -/
inductive ConfigFault where
  | noProvider
  | versionTooLow (version : Int)
  /-- the text of a settings file does not follow its grammar or has a setting of the wrong kind -/
  | malformed (why : String)
  | unreadable (path : String) (why : String)
  | inFile (path : String) (fault : ConfigFault)
  | stated (text : String)
deriving DecidableEq, Repr

namespace ConfigFault

def message : ConfigFault → String
  | noProvider => "no database provider configured"
  | versionTooLow version => "version must be at least 1, got " ++ toString version
  | malformed why => why
  | unreadable path why => "failed to read config file " ++ path ++ ": " ++ why
  | inFile path fault => "failed to parse config file " ++ path ++ ": Config error: " ++ fault.message
  | stated text => text

/-- the wording comes from outside: from a file's grammar or from the file system -/
def isForeign : ConfigFault → Bool
  | malformed _ => true
  | unreadable _ _ => true
  | inFile _ fault => fault.isForeign
  | _ => false

end ConfigFault

/-- a failure of the file system -/
inductive IoFault where
  | system (code : Nat) (text : String)
  | stated (text : String)
deriving DecidableEq, Repr

namespace IoFault

def message : IoFault → String
  | system code text => text ++ " (os error " ++ toString code ++ ")"
  | stated text => text

end IoFault

/-! ## The error of an operation -/

/-- why an operation failed -/
inductive DbError where
  | noDatabaseBound
  | tableNotFound (table : String)
  | execution (fault : ExecutionFault)
  | engine (fault : EngineFault)
  | notOpen (database : String)
  | validation (fault : Invalid)
  | conversion (column : String) (fault : ConversionFault)
  | config (fault : ConfigFault)
  | io (fault : IoFault)

namespace DbError

def message : DbError → String
  | noDatabaseBound => "No database is bound to this session"
  | tableNotFound table => "Table not found: " ++ table
  | execution fault => "Execution error: " ++ fault.message
  | engine fault => "SQLite error: " ++ fault.message
  | notOpen database => "Database '" ++ database ++ "' is not open"
  | validation fault => "Validation error: " ++ fault.message
  | conversion column fault => "Conversion error on column '" ++ column ++ "': " ++ fault.message
  | config fault => "Config error: " ++ fault.message
  | io fault => "I/O error: " ++ fault.message

/-- the wording is that of an outside component -/
def isForeign : DbError → Bool
  | engine _ => true
  | io (.system _ _) => true
  | config fault => fault.isForeign
  | _ => false

/-- the statement itself failed -/
def isExecution : DbError → Bool
  | execution _ => true
  | engine _ => true
  | _ => false

def isTableNotFound : DbError → Bool
  | tableNotFound _ => true
  | _ => false

def isNoDatabase : DbError → Bool
  | noDatabaseBound => true
  | _ => false

end DbError

end FluentSql
