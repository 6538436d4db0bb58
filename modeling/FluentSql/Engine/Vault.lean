import FluentSql.Engine.Definition
/-!
A database that several connections use, and who of them may do what at a time.

One connection at a time holds changes that are not committed (`Vault.writer`); the committed database stays as it
is until they are. Connections in a transaction are noted with what they hold (`Vault.holds`) until the
transaction ends, and what they hold keeps others away in one of two ways (`Sharing`). Where the cache is shared, a
table can be read by many or changed by one; where every connection has a cache of its own, changes are made
public only when nobody else is reading.

None of the steps here touches the committed database, not even holding tables or leaving: `claim_db`, `leave_db`.
-/

namespace FluentSql.Engine

/-- how connections share a database -/
inductive Sharing where
  /-- one cache for all of them; tables are held one by one -/
  | cache
  /-- the file only; it is held as a whole -/
  | file
deriving DecidableEq, Repr

/-- what a connection holds during a transaction: tables by name, and whether for a change -/
structure Hold where
  owner : Nat
  tables : List (String × Bool)

/-- the connection that holds changes which are not committed -/
structure Writer where
  id : Nat
  /-- the database with the changes -/
  work : Database
  /-- whether anything was changed since it became the writer -/
  changed : Bool
  /-- nobody else may even read -/
  exclusive : Bool

structure Vault where
  /-- as it was last committed -/
  db : Database
  writer : Option Writer
  holds : List Hold
  /-- the writer waits for others to end: nobody may begin -/
  waiting : Bool
  /-- how often changes were committed -/
  commits : Nat

/-- what a command needs: the tables by name, and whether to change them; a command that changes anything needs to
be the writer -/
structure Demand where
  tables : List (String × Bool)
  writes : Bool

/-! ## Demands -/

namespace Demand

/-- the name that stands for the catalogue -/
def catalogueName : String := "sqlite_master"

/-- the name that a table is held by -/
def holdName (name : String) : String :=
  if Database.isCatalogue name then catalogueName else Text.lowerAscii name

def reading (name : String) : String × Bool := (holdName name, false)

def changing (name : String) : String × Bool := (holdName name, true)

/-- the tables that references make a step look at -/
def ofReferences (db : Database) (s : Database.Step) : List (String × Bool) :=
  match db.table? s.table with
  | none => []
  | some t =>
    if db.concern t s.places = .none then []
    else (Database.ownReferences t s.places).map (fun k => reading k.parent)
      ++ (db.othersReferences t s.places).map fun e => reading e.1.name

/-- the tables that a step changes or looks at, with all that it can cause -/
def ofStep (db : Database) (s : Database.Step) : List (String × Bool) :=
  (s :: db.reach s).flatMap fun x => changing x.table :: ofReferences db x

/-- the table of sequences is changed along with a table that counts on -/
def ofSequence (db : Database) (table : String) : List (String × Bool) :=
  if (db.table? table).any StoredTable.autoIncrement then [changing Database.sequenceTable] else []

/-- the tables that an insert needs -/
def ofInsert (db : Database) (table : String) (single : Bool) : List (String × Bool) :=
  match db.table? table with
  | none => []
  | some t =>
    let others := (db.othersReferences t none).filter fun e => !single || e.2.deferred
    changing table :: (Database.ownReferences t none).map (fun k => reading k.parent)
      ++ others.map (fun e => reading e.1.name) ++ ofSequence db table

/-- the tables that dropping a table needs -/
def ofDrop (db : Database) (table : String) : List (String × Bool) :=
  let emptied := !(db.referencesTo table).isEmpty
    || (db.table? table).any fun t => t.references.any ForeignKey.deferred
  changing catalogueName :: ofSequence db table ++ if emptied then ofStep db ⟨table, none⟩ else []

/-- what a command needs; a read of no table needs nothing -/
def of? (db : Database) : DataCommand → Option Demand
  | .read r => if r.tables.isEmpty then none else some ⟨r.tables.map fun t => reading t.1, false⟩
  | .insert t _ rows => some ⟨ofInsert db t rows.isSingle, true⟩
  | .update t sets _ =>
    let places := (db.table? t).map fun s => Database.assignedPlaces s (sets.map Prod.fst)
    some ⟨ofStep db ⟨t, some (places.getD [])⟩, true⟩
  | .delete t _ => some ⟨ofStep db ⟨t, none⟩, true⟩
  | .createTable _ source =>
    if (db.table? source.name).isSome then some ⟨[], false⟩ else some ⟨[changing catalogueName], true⟩
  | .dropTable _ t => if (db.table? t).isNone then some ⟨[], false⟩ else some ⟨ofDrop db t, true⟩
  | .addColumn _ _ _ => some ⟨[changing catalogueName], true⟩
  | .readVersion => some ⟨[], false⟩
  | .writeVersion _ => some ⟨[], true⟩

end Demand

namespace Vault

def empty : Vault := ⟨Database.empty, none, [], false, 0⟩

/-- nothing was ever committed -/
def isBlank (v : Vault) : Bool := v.db.tables.isEmpty && v.db.version == 0

/-- the writer has changed something -/
def isChanging (v : Vault) : Bool := v.writer.any Writer.changed

/-! ## Who is there -/

def isWriter (v : Vault) (id : Nat) : Bool := v.writer.any fun w => w.id == id

/-- whether a connection is in a transaction that has begun in earnest -/
def isActive (v : Vault) (id : Nat) : Bool := v.holds.any fun h => h.owner == id

def hasOthers (v : Vault) (id : Nat) : Bool := v.holds.any fun h => h.owner != id

/-- another connection changes the catalogue, or has everything for itself: in a shared cache not even a
statement can be read -/
def isShutOut (v : Vault) (id : Nat) : Bool :=
  (v.writer.any fun w => w.id != id && w.exclusive)
    || v.holds.any fun h => h.owner != id && h.tables.contains (Demand.catalogueName, true)

/-! ## Beginning -/

/-- whether a connection may begin to read, or to write -/
def admits (v : Vault) (sharing : Sharing) (id : Nat) (writes exclusive : Bool) : Bool :=
  let othersWrite := v.writer.any fun w => w.id != id
  let alone := !(exclusive && v.hasOthers id)
  match sharing with
  | .cache => !(writes && othersWrite) && !v.waiting && alone
  | .file =>
    (v.isActive id || !(v.waiting || v.writer.any Writer.exclusive)) && !(writes && othersWrite) && alone

/-- begins a transaction in earnest, or makes its connection the writer; fails if others are in the way -/
def enter (v : Vault) (sharing : Sharing) (id : Nat) (writes exclusive : Bool) : Option Vault :=
  if v.isWriter id || (v.isActive id && !writes) then some v
  else if v.admits sharing id writes exclusive then
    some { v with
      holds := if v.isActive id then v.holds else v.holds ++ [⟨id, [(Demand.catalogueName, false)]⟩]
      writer := if writes then some ⟨id, v.db, false, exclusive⟩ else v.writer }
  else none

/-- whether others hold a table in a way that is in conflict -/
def conflicts (v : Vault) (id : Nat) (table : String × Bool) : Bool :=
  v.holds.any fun h => h.owner != id && h.tables.any fun t => t.1 == table.1 && t.2 != table.2

/-- holds one table more -/
def hold (v : Vault) (id : Nat) (table : String × Bool) : Vault :=
  { v with holds := v.holds.map fun h => if h.owner == id then { h with tables := table :: h.tables } else h }

/-- holds tables one after the other; answers whether that worked. A writer that fails makes others wait. -/
def claim (id : Nat) : List (String × Bool) → Vault → Bool × Vault
  | [], v => (true, v)
  | t :: rest, v =>
    if v.conflicts id t then (false, { v with waiting := v.waiting || t.2 }) else claim id rest (v.hold id t)

/-! ## Ending -/

/-- ends a transaction; whether it is kept was settled before -/
def leave (v : Vault) (sharing : Sharing) (id : Nat) : Vault :=
  let last := sharing = .cache && v.isActive id && v.holds.length = 2
  { v with
    writer := if v.isWriter id then none else v.writer
    holds := v.holds.filter fun h => h.owner != id
    waiting := v.waiting && !v.isWriter id && !last }

/-- the database with the changes of the writer -/
def setWork (v : Vault) (work : Database) (changed : Bool) : Vault :=
  { v with writer := v.writer.map fun w => { w with work := work, changed := w.changed || changed } }

/-! ## Lemmas -/

theorem claim_db (id : Nat) (tables : List (String × Bool)) (v : Vault) : (claim id tables v).2.db = v.db := by
  induction tables generalizing v with
  | nil => rfl
  | cons t rest ih =>
    unfold claim
    split
    · rfl
    · exact ih _

theorem leave_db (v : Vault) (sharing : Sharing) (id : Nat) : (v.leave sharing id).db = v.db := rfl

end Vault

end FluentSql.Engine
