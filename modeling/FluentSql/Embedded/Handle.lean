import FluentSql.Backend
import FluentSql.Embedded.Library
/-!
Handles of the embedded engine: a named database with a version and lifecycle hooks, opened and closed around
each operation.

Opening compares the version that the database has with the one that is asked for. A new database, which has
version zero, runs the creation hook, an older one the upgrade hook, and the opening hook runs last. The first
two share a transaction with the change of the version, so a failure leaves the database as it was; whatever
fails, the handle is closed again. The hooks get the handle, so they are not in it while they run.

A database that belongs to its handle alone keeps its connection while the handle is closed, so that its rows
survive.
-/

namespace FluentSql.Embedded

structure Handle (C : Type) where
  name : String
  location : Location
  connection : Option C
  isOpen : Bool
  /-- the version to open with -/
  version : Int
  hooks : Hooks
  log : StatementLog

namespace Handle

variable {C S W α : Type}

def atLocation (name : String) (location : Location) : Handle C :=
  ⟨name, location, none, false, 1, Hooks.none, .standard⟩

def ofFile (name path : String) : Handle C := atLocation name (.file path)

def inMemory (name : String) : Handle C := atLocation name .own

def withOptions (h : Handle C) (o : OpenOptions) : Handle C := { h with version := o.version, hooks := o.hooks }

def withStatementLog (h : Handle C) (log : StatementLog) : Handle C := { h with log := log }

def path? (h : Handle C) : Option String :=
  match h.location with
  | .file path => some path
  | _ => none

/-- the handle in messages -/
def describe (h : Handle C) : String :=
  "SqliteHandle \x7b name: " ++ Text.quote h.name ++ ", location: " ++ h.location.describe ++ ", open: "
    ++ (if h.isOpen then "true" else "false") ++ ", version: " ++ toString h.version ++ " \x7d"

/-! ## Statements -/

variable [Reporting W] (L : Library C S)

/-- an action on a handle, on what the engine keeps, and on what is outside -/
abbrev Act (C S W α : Type) := Task (Handle C × S × W) α

def engineOutcome : Except EngineFault α → Except DbError α
  | .ok a => .ok a
  | .error e => .error (.engine e)

/-- asks something of the connection of an open handle -/
def request (r : Request α) : Act C S W α := fun p =>
  match p.1.connection, p.1.isOpen with
  | some c, true =>
    let x := L.perform r c p.2.1
    (engineOutcome x.1, { p.1 with connection := some x.2.1 }, x.2.2, p.2.2)
  | _, _ => (.error (.notOpen p.1.name), p)

/-- the id of the row that the connection of an open handle inserted last -/
def lastId : Act C S W Int64 := fun p =>
  match p.1.connection, p.1.isOpen with
  | some c, true => (.ok (L.lastId c p.2.1), p)
  | _, _ => (.error (.notOpen p.1.name), p)

/-- reports a statement -/
def logged (sql : String) (parameters : Nat) : Act C S W Unit := fun p =>
  match p.1.log.report? p.1.name sql parameters with
  | some e => report e p
  | none => (.ok (), p)

def execute (sql : String) : Act C S W Unit := do
  logged sql 0
  request L (.batch sql)

def query (q : Query) : Act C S W Rows := do
  logged (SqlText.select q) q.args.length
  request L (.query (SqlText.select q) (q.args.map .text))

/-- inserts a row; answers the id of the row that the connection inserted last -/
def insert (table : String) (values : Record) : Act C S W Int64 := do
  logged (SqlText.insert table values) values.size
  let _ ← request L (.change (SqlText.insert table values) values.values)
  lastId L

def update (table : String) (values : Record) (condition : Option String) (args : List String) :
    Act C S W Nat := do
  if values.isEmpty then Task.fail (.validation (.emptyUpdate table))
  else
    let given := values.values ++ args.map .text
    logged (SqlText.update table values condition) given.length
    request L (.change (SqlText.update table values condition) given)

def delete (table : String) (condition : Option String) (args : List String) : Act C S W Nat := do
  logged (SqlText.delete table condition) args.length
  request L (.change (SqlText.delete table condition) (args.map .text))

def channel : Channel (Handle C × S × W) :=
  ⟨execute L, query L, insert L, update L, delete L⟩

/-- the version that the database has -/
def storedVersion : Act C S W Int := request L .readVersion

/-! ## Opening -/

/-- runs a hook on the handle -/
def runHook (hook : Hook) : Act C S W Unit := fun p =>
  hook.run (channel L) p.1.name (fun (q : Handle C × S × W) => q.1.isOpen) p

def creating (name : String) (version : Int) : Event :=
  .debug "creating schema" [("database", name), ("version", toString version)]

def upgrading (name : String) (current version : Int) : Event :=
  .debug "upgrading schema" [("database", name), ("from", toString current), ("to", toString version)]

/-- runs the hook that the stored version asks for, and writes the new version -/
def migrate (name : String) (hooks : Hooks) (current version : Int) : Act C S W Unit := do
  if current = 0 then
    match hooks.onCreate with
    | some hook =>
      report (creating name version)
      runHook L hook
    | none => pure ()
  else
    match hooks.onUpgrade with
    | some hook =>
      report (upgrading name current version)
      runHook L (hook current version)
    | none => pure ()
  request L (.writeVersion version)

def rollbackFailed (name : String) (e : DbError) : Event :=
  .warn "rollback after failed migration failed" [("database", name), ("error", e.message)]

/-- migrates inside a transaction; a failure rolls back and is the answer -/
def migrateOrUndo (name : String) (hooks : Hooks) (current version : Int) : Act C S W Unit := do
  execute L "BEGIN"
  match ← Task.attempt (migrate L name hooks current version) with
  | .ok () => execute L "COMMIT"
  | .error e =>
    match ← Task.attempt (execute L "ROLLBACK" : Act C S W Unit) with
    | .ok () => Task.fail e
    | .error why =>
      report (rollbackFailed name why)
      Task.fail e

/-- runs the hook after opening, if there is one -/
def afterOpening (hooks : Hooks) : Act C S W Unit :=
  match hooks.onOpen with
  | some hook => runHook L hook
  | none => pure ()

/-- migrates a database that is older than the version, and runs the opening hook -/
def applyHooks (name : String) (hooks : Hooks) (current version : Int) : Act C S W Unit := do
  (if current < version then migrateOrUndo L name hooks current version else pure ())
  afterOpening L hooks

/-- takes the hooks out of the handle, works with them, and puts them back whatever came of it -/
def withHooksOut (action : Hooks → Act C S W α) : Act C S W α := do
  let hooks ← Task.read fun p => p.1.hooks
  Task.change fun p => ({ p.1 with hooks := Hooks.none }, p.2)
  let outcome ← Task.attempt (action hooks)
  Task.change fun p => ({ p.1 with hooks := hooks }, p.2)
  Task.ofExcept outcome

/-- brings the database to the version that the handle asks for, and runs the opening hook -/
def runLifecycle : Act C S W Unit := do
  let h ← Task.read Prod.fst
  if h.version < 1 then Task.fail (.validation (.versionTooLow h.version))
  else
    let current ← storedVersion L
    if h.version < current then Task.fail (.validation (.downgrade h.name current h.version))
    else withHooksOut fun hooks => applyHooks L h.name hooks current h.version

/-- makes the directory of a file, unless it is the working directory or the path ends nowhere -/
def makeParent (path : String) (s : S) : Except IoFault Unit × S :=
  match (Text.Path.parent? path).filter fun dir => !dir.isEmpty with
  | some dir => L.makeDirectories dir s
  | none => (.ok (), s)

/-- what is done before a location is connected to -/
def prepare (location : Location) (s : S) : Except IoFault Unit × S :=
  match location with
  | .file path => makeParent L path s
  | _ => (.ok (), s)

/-- a new connection to a location; the directory of a file is made even if the file cannot be opened -/
def connect (location : Location) (s : S) : Except DbError C × S :=
  match prepare L location s with
  | (.error e, made) => (.error (.io e), made)
  | (.ok (), made) => (engineOutcome (L.openAt location made).1, (L.openAt location made).2)

/-- connects the handle, unless it still has a connection -/
def connected : Act C S W Unit := fun p =>
  match p.1.connection with
  | some _ => (.ok (), p)
  | none =>
    match connect L p.1.location p.2.1 with
    | (.ok c, s) => (.ok (), { p.1 with connection := some c }, s, p.2.2)
    | (.error e, s) => (.error e, p.1, s, p.2.2)

def closeFailed (name : String) (e : EngineFault) : Event :=
  .warn "close failed" [("database", name), ("error", e.message)]

/-- closes the handle; only a database of its own keeps the connection -/
def close (p : Handle C × S × W) : Handle C × S × W :=
  let shut := { p.1 with isOpen := false }
  match p.1.location, p.1.connection with
  | .own, _ => (shut, p.2)
  | _, none => (shut, p.2)
  | _, some c =>
    let ended := ({ shut with connection := none }, (L.close c p.2.1).2, p.2.2)
    match (L.close c p.2.1).1 with
    | .ok () => ended
    | .error e => Reporting.emit (closeFailed p.1.name e) ended

/-- lets go of the handle: its connection ends in any case -/
def release (p : Handle C × S × W) : Handle C × S × W :=
  match p.1.connection with
  | some c => ({ p.1 with isOpen := false, connection := none }, (L.close c p.2.1).2, p.2.2)
  | none => ({ p.1 with isOpen := false }, p.2)

/-- opens the handle, or leaves it closed -/
def start : Act C S W Unit := do
  connected L
  Task.change fun p => ({ p.1 with isOpen := true }, p.2)
  match ← Task.attempt (runLifecycle L) with
  | .ok () => pure ()
  | .error e =>
    Task.change (close L)
    Task.fail e

/-- opens a closed handle; an open one stays as it is -/
def openUp : Act C S W Unit := do
  if (← Task.read Prod.fst).isOpen then pure () else start L

/-! ## Names -/

/-- the files in a directory, without those that belong to another, in ascending order; none if there is no such
directory -/
def listFiles (dir : String) (s : S) : Except DbError (List String) :=
  if L.isDirectory dir s then
    match L.filesIn dir s with
    | .ok names => .ok (((names.filter fun n => !isSidecar n).eraseDups).mergeSort fun a b => decide (a ≤ b))
    | .error e => .error (.io e)
  else .ok []

/-- the names of the databases next to this one -/
def siblings : Act C S W (List String) := fun p =>
  match p.1.location with
  | .file path => (listFiles L ((Text.Path.parent? path).getD ".") p.2.1, p)
  | _ => (.ok [p.1.name], p)

end Handle

end FluentSql.Embedded
