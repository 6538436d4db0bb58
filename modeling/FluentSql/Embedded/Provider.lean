import FluentSql.Embedded.Handle
import FluentSql.Settings
/-!
Providers of the embedded engine: databases as files in one directory, or in memory.

In memory a name stands for a key, in which everything but plain letters, digits and three signs is an
underscore: names with the same key share a database. A name is kept from its first opening until it is
dropped, by a connection that nobody uses (`Depot.keepers`).
-/

namespace FluentSql.Embedded

/-- where a provider has its databases -/
inductive Shelf where
  | directory (path : String)
  /-- in memory, under the number of the provider -/
  | memory (number : Nat)
deriving DecidableEq, Repr

structure Provider where
  shelf : Shelf
  log : StatementLog

/-- what the engine keeps, and the connections that keep names in memory alive, by provider and name -/
structure Depot (C S : Type) where
  engine : S
  keepers : List ((Nat × String) × C)

namespace Depot

variable {C S : Type}

def keeper? (d : Depot C S) (number : Nat) (name : String) : Option C :=
  (d.keepers.find? fun k => k.1 == (number, name)).map Prod.snd

/-- the names that a provider keeps, in ascending order -/
def keptNames (d : Depot C S) (number : Nat) : List String :=
  ((d.keepers.filter fun k => k.1.1 == number).map fun k => k.1.2).mergeSort fun a b => decide (a ≤ b)

end Depot

namespace Provider

def ofDirectory (path : String) : Provider := ⟨.directory path, .standard⟩

def inMemory (number : Nat) : Provider := ⟨.memory number, .standard⟩

/-- the provider that settings describe -/
def ofSettings (s : Settings) : Provider := ⟨.directory s.dataDir, s.statementLog⟩

def directory? (p : Provider) : Option String :=
  match p.shelf with
  | .directory path => some path
  | .memory _ => none

/-- the file of a database -/
def path? (p : Provider) (name : String) : Option String :=
  p.directory?.map fun dir => Text.Path.join dir name

/-- the characters that a key keeps -/
def isKeyChar (c : Char) : Bool := c.isAlphanum || c == '.' || c == '_' || c == '-'

/-- the key of a name in memory -/
def keyOf (name : String) : String := String.ofList (name.toList.map fun c => if isKeyChar c then c else '_')

variable {C S W : Type} [Reporting W] (L : Library C S)

/-- where the database of a name is -/
def locationOf (p : Provider) (name : String) : Location :=
  match p.shelf with
  | .directory path => .file (Text.Path.join path name)
  | .memory number => .shared (Location.address number (keyOf name))

/-- keeps a name in memory alive, from its first opening on -/
def acquire (p : Provider) (name : String) : Task (Depot C S × W) Unit := fun q =>
  match p.shelf with
  | .directory _ => (.ok (), q)
  | .memory number =>
    match q.1.keeper? number name with
    | some _ => (.ok (), q)
    | none =>
      match L.openAddress (Location.address number (keyOf name)) q.1.engine with
      | (.ok c, s) => (.ok (), ⟨s, q.1.keepers ++ [((number, name), c)]⟩, q.2)
      | (.error e, s) => (.error (.engine e), { q.1 with engine := s }, q.2)

def opening (name : String) (version : Int) : Event :=
  .debug "opening database" [("database", name), ("version", toString version)]

/-- an action on a new handle, which is the answer -/
def onNewHandle (h : Handle C) (action : Handle.Act C S W Unit) : Task (Depot C S × W) (Handle C) := fun q =>
  let r := action (h, q.1.engine, q.2)
  (r.1.map fun _ => r.2.1, { q.1 with engine := r.2.2.1 }, r.2.2.2)

/-- opens a database by name -/
def openDatabase (p : Provider) (name : String) (o : OpenOptions) : Task (Depot C S × W) (Handle C) := do
  if Text.blank name then Task.fail (.validation .blankDatabaseName)
  else
    acquire L p name
    let h := ((Handle.atLocation name (p.locationOf name)).withOptions o).withStatementLog p.log
    onNewHandle h do
      report (opening name h.version)
      Handle.openUp L

/-- the names of all databases, in ascending order -/
def listNames (p : Provider) : Task (Depot C S × W) (List String) := fun q =>
  match p.shelf with
  | .directory path => (Handle.listFiles L path q.1.engine, q)
  | .memory number => (.ok (q.1.keptNames number), q)

/-- removes files as far as they are there, up to the first that cannot be removed -/
def removeThose : List String → S → Except IoFault Unit × S
  | [], s => (.ok (), s)
  | path :: rest, s =>
    if L.isFile path s then
      match L.removeFile path s with
      | (.ok (), s') => removeThose rest s'
      | (.error e, s') => (.error e, s')
    else removeThose rest s

def dropped (name : String) : Event := .debug "dropped database" [("database", name)]

/-- removes the file of a database and what belongs to it; answers whether there was one -/
def removeDatabase (dir name : String) : Task (Depot C S × W) Bool := fun q =>
  let path := Text.Path.join dir name
  if L.isFile path q.1.engine then
    match L.removeFile path q.1.engine with
    | (.error e, s) => (.error (.io e), { q.1 with engine := s }, q.2)
    | (.ok (), s) =>
      match removeThose L (sidecarEndings.map fun e => Text.Path.join dir (name ++ e)) s with
      | (.error e, s') => (.error (.io e), { q.1 with engine := s' }, q.2)
      | (.ok (), s') => (.ok true, { q.1 with engine := s' }, Reporting.emit (dropped name) q.2)
  else (.ok false, q)

/-- keeps a name no longer; its database stays as long as others are connected to it -/
def letGo (number : Nat) (name : String) : Task (Depot C S × W) Bool := fun q =>
  match q.1.keeper? number name with
  | none => (.ok false, q)
  | some c =>
    let rest := q.1.keepers.filter fun k => k.1 != (number, name)
    (.ok true, ⟨(L.close c q.1.engine).2, rest⟩, q.2)

/-- removes a database; answers whether there was one -/
def dropDatabase (p : Provider) (name : String) : Task (Depot C S × W) Bool :=
  match p.shelf with
  | .directory dir => removeDatabase L dir name
  | .memory number => letGo L number name

end Provider

end FluentSql.Embedded
