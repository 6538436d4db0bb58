import FluentSql.Error
import FluentSql.Rows
import FluentSql.Text.Path
import FluentSql.Text.Quoted
/-!
What handles and providers ask of the engine and of the file system around it.

Neither is part of this library, so they are a record of functions (`Library`) over the type `C` of connections and
the type `S` of everything that the engine and the file system keep. Nothing is assumed about the functions: each may
fail at any call, and change all that is kept.
-/

namespace FluentSql.Embedded

/-! ## Locations -/

/-- where the database of a handle is -/
inductive Location where
  | file (path : String)
  /-- in memory, for this handle alone -/
  | own
  /-- in memory, for everybody who connects to the same address -/
  | shared (address : String)
deriving DecidableEq, Repr

namespace Location

/-- the address that a provider gives to a key -/
def address (provider : Nat) (key : String) : String :=
  "file:dbtool-" ++ toString provider ++ "-" ++ key ++ "?mode=memory&cache=shared"

def describe : Location → String
  | file path => "File(" ++ Text.quote path ++ ")"
  | own => "Memory"
  | shared address => "Shared(" ++ Text.quote address ++ ")"

end Location

/-! ## Requests -/

/-- what is asked of a connection, with the type of the answer -/
inductive Request : Type → Type where
  /-- all statements of a text, whatever rows they answer -/
  | batch (sql : String) : Request Unit
  /-- one statement, for its rows -/
  | query (sql : String) (args : List Value) : Request Rows
  /-- one statement that answers no rows, for how many rows it touched -/
  | change (sql : String) (args : List Value) : Request Nat
  /-- the version that is stored with the database -/
  | readVersion : Request Int
  | writeVersion (version : Int) : Request Unit

namespace Request

variable {α : Type}

/-- the text of a statement -/
def text? : Request α → Option String
  | batch sql => some sql
  | query sql _ => some sql
  | change sql _ => some sql
  | readVersion => none
  | writeVersion _ => none

end Request

/-- the greatest number that the engine stores as a version -/
def greatestVersion : Int := 2147483647

/-! ## The library -/

/-- the engine, with the part of the file system that handles and providers use themselves -/
structure Library (C S : Type) where
  perform : {α : Type} → Request α → C → S → Except EngineFault α × C × S
  /-- the id of the row that a connection inserted last -/
  lastId : C → S → Int64
  /-- connects to a database by its path, creating the file if needed -/
  openFile : String → S → Except EngineFault C × S
  /-- connects to a new database in memory that nobody else can connect to -/
  openMemory : S → Except EngineFault C × S
  /-- connects to the database at an address -/
  openAddress : String → S → Except EngineFault C × S
  /-- ends a connection for good, whatever comes of it -/
  close : C → S → Except EngineFault Unit × S
  /-- makes a directory and all above it -/
  makeDirectories : String → S → Except IoFault Unit × S
  isFile : String → S → Bool
  isDirectory : String → S → Bool
  /-- the names of the files in a directory -/
  filesIn : String → S → Except IoFault (List String)
  removeFile : String → S → Except IoFault Unit × S

namespace Library

variable {C S : Type}

/-- connects to the database at a location -/
def openAt (L : Library C S) : Location → S → Except EngineFault C × S
  | .file path => L.openFile path
  | .own => L.openMemory
  | .shared address => L.openAddress address

end Library

/-! ## Files beside a database -/

/-- the endings of files that belong to a database next to them -/
def sidecarEndings : List String := ["-journal", "-wal", "-shm"]

def isSidecar (name : String) : Bool :=
  sidecarEndings.any fun e => e.toList.reverse.isPrefixOf name.toList.reverse

end FluentSql.Embedded
