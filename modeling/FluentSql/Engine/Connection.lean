import FluentSql.Engine.Vault
import FluentSql.Engine.Grammar
/-!
Connections to a database, and their transactions.

Outside a transaction every command commits by itself; inside one the changes stay with the writer of the vault,
so a rollback only forgets them. What a command needs is taken hold of before it runs and kept to the end of
the transaction, whether the command succeeds or fails on the rows that it finds.
-/

namespace FluentSql.Engine

structure Transaction where
  /-- begun by itself rather than by its first savepoint -/
  explicit : Bool
  /-- the savepoints, the latest first, with the work at that moment if there was any -/
  savepoints : List (String × Option Database)

/-- what a connection leads to -/
inductive Target where
  /-- a vault in memory, by its number -/
  | memory (number : Nat)
  /-- a vault in the file at a path -/
  | file (number : Nat) (path : List String)
deriving DecidableEq, Repr

/-- the number of the vault -/
def Target.number : Target → Nat
  | memory n => n
  | file n _ => n

/-- how far the file of a connection can be used -/
inductive FileCondition where
  | sound
  /-- no journal can be opened beside it, so nothing can be changed -/
  | sealed
  /-- it is no longer at its place: nothing can be changed, nor can changes be kept -/
  | gone
  /-- something else is in it; nobody can begin to read -/
  | foreign
  /-- something else is where its journal belongs; an attempt to begin to read ends the transaction -/
  | unreadable
deriving DecidableEq, Repr

structure Connection where
  id : Nat
  target : Target
  sharing : Sharing
  condition : FileCondition
  /-- it was opened to read only -/
  readOnly : Bool
  transaction : Option Transaction
  lastId : Int64

/-- what a command answers to the connection -/
structure Answer where
  rows : Option Rows
  /-- how many rows it touched -/
  count : Nat

namespace Connection

def opened (id : Nat) (target : Target) (sharing : Sharing) : Connection :=
  ⟨id, target, sharing, .sound, false, none, 0⟩

/-- the database as the connection sees it; a shared cache shows the changes of the writer to everybody, as far as
the tables may be read -/
def view (c : Connection) (v : Vault) : Database :=
  match v.writer with
  | some w => if w.id = c.id || c.sharing = .cache then w.work else v.db
  | none => v.db

/-- not even a statement can be read -/
def isShutOut (c : Connection) (v : Vault) : Bool := c.sharing = .cache && v.isShutOut c.id

/-- references that lead nowhere may not be committed -/
def mayCommit (db : Database) : Bool := db.unmet ≤ 0

/-- the changes cannot be made public while others are reading -/
def isObstructed (c : Connection) (v : Vault) : Bool :=
  c.sharing = .file && v.hasOthers c.id && v.isWriter c.id

/-- the first change of a transaction needs a journal beside the file -/
def isSealed (c : Connection) (v : Vault) : Bool :=
  (c.readOnly || (c.condition != .sound && c.condition != .foreign))
    && !v.writer.any fun w => w.id == c.id && w.changed

/-- why a connection that holds nothing yet cannot begin to read -/
def obstacle (c : Connection) (v : Vault) : Option EngineFault :=
  if v.isActive c.id then none
  else match c.condition with
    | .foreign => some .notADatabase
    | .unreadable => some .ioFailed
    | _ => none

/-! ## Commands on the data -/

/-- takes hold of what a command needs; answers whether that worked -/
def secure (c : Connection) (v : Vault) : Option Demand → Bool × Vault
  | none => (true, v)
  | some d =>
    match v.enter c.sharing c.id d.writes false with
    | none => (false, v)
    | some entered =>
      match c.sharing with
      | .cache => Vault.claim c.id d.tables entered
      | .file => (true, entered)

/-- the end of a command that failed: outside a transaction nothing is held any more -/
def afterFailure (c : Connection) (v : Vault) : Vault :=
  if c.transaction.isSome then v else v.leave c.sharing c.id

/-- ends the transaction of the vault and keeps its changes, or keeps everything as it is -/
def publish (c : Connection) (v : Vault) : Except EngineFault Vault :=
  let work := c.view v
  if !v.isWriter c.id then .ok (v.leave c.sharing c.id)
  else if !mayCommit work then .error .brokenReference
  else if c.isObstructed v then .error .locked
  else if c.condition = .gone && v.writer.any Writer.changed then .error .ioFailed
  else .ok (Vault.leave { v with
    db := { work with unmet := 0 }
    commits := v.commits + if v.isChanging then 1 else 0 } c.sharing c.id)

/-- whether a command that succeeded has changed anything. A table that is emptied as a whole counts as changed,
and so does a row that gets the key that it had. -/
def hasChanged (before after : Database) (cmd : DataCommand) (count : Nat) : Bool :=
  match cmd with
  | .update t sets _ =>
    let places := (before.table? t).elim [] fun s => Database.assignedPlaces s (sets.map Prod.fst)
    let cells (db : Database) : List (List Value) :=
      (db.table? t).elim [] fun s => s.rows.map StoredTable.visibleCells
    let inKey := (before.table? t).any fun s => places.contains 0 || before.concern s (some places) = .deep
      || s.uniques.any fun g => g.any fun c => places.contains (s.placeOf c.index)
    count != 0 && (inKey || cells before != cells after)
  | .delete t condition =>
    count != 0 || (condition.isNone && (after.table? t).any fun s => after.concern s none = .none)
  | c => (Demand.of? before c).any Demand.writes

/-- the end of a command that succeeded: outside a transaction it commits -/
def afterSuccess (c : Connection) (v : Vault) (cmd : DataCommand) (reply : Reply) :
    Except EngineFault Answer × Connection × Vault :=
  let changed := v.isWriter c.id && hasChanged (c.view v) reply.db cmd reply.count
  let noted := { c with lastId := reply.lastId.getD c.lastId }
  let worked := if v.isWriter c.id then v.setWork reply.db changed else v
  let answer : Answer := ⟨reply.rows, reply.count⟩
  if changed && c.isSealed v then (.error .readOnly, c, c.afterFailure v)
  else if c.transaction.isSome then (.ok answer, noted, worked)
  else match c.publish worked with
    | .ok left => (.ok answer, noted, left)
    | .error e => (.error e, noted, worked.leave c.sharing c.id)

/-- what a command leaves behind when it fails on the rows that it finds -/
def leftover (db : Database) (args : List Value) : DataCommand → Int
  | .insert t columns rows => if rows.isSingle then db.countBeforeRefusal args t columns rows else 0
  | _ => 0

def performData (args : List Value) (cmd : DataCommand) (c : Connection) (v : Vault) :
    Except EngineFault Answer × Connection × Vault :=
  if c.isShutOut v then (.error .locked, c, v)
  else
    let db := c.view v
    let result := db.apply args cmd
    let demand := Demand.of? db cmd
    match result, demand.bind fun _ => c.obstacle v with
    | _, some e => (.error e, { c with transaction := if e == .ioFailed then none else c.transaction }, v)
    | .error e, none =>
      if !e.isLate then (.error e, c, v)
      else match c.secure v demand with
        | (false, held) => (.error .locked, c, c.afterFailure held)
        | (true, held) =>
          let left := { db with unmet := db.unmet + leftover db args cmd }
          let noted := if held.isWriter c.id then held.setWork left (db.changesBeforeRefusal args cmd) else held
          (.error e, c, c.afterFailure noted)
    | .ok reply, none =>
      match c.secure v demand with
      | (false, held) => (.error .locked, c, c.afterFailure held)
      | (true, held) => c.afterSuccess held cmd reply

/-! ## Transactions -/

/-- ends the transaction and keeps its changes; if others are in the way it stays open, and nobody may begin until it
ends. If the changes cannot be kept at all they are forgotten. -/
def commit (c : Connection) (v : Vault) : Except EngineFault Unit × Connection × Vault :=
  match c.publish v with
  | .ok left => (.ok (), { c with transaction := none }, left)
  | .error .ioFailed => (.error .ioFailed, { c with transaction := none }, v.leave c.sharing c.id)
  | .error e => (.error e, c, { v with waiting := v.waiting || e == .locked })

/-- ends the transaction and forgets its changes -/
def rollback (c : Connection) (v : Vault) : Connection × Vault :=
  ({ c with transaction := none }, v.leave c.sharing c.id)

/-- the savepoints from the latest one with a name on, that one first -/
def savepointsFrom (name : String) (savepoints : List (String × Option Database)) :
    List (String × Option Database) :=
  savepoints.dropWhile fun s => !Text.sameLetters s.1 name

/-- opens a transaction, or a savepoint inside the one that is open -/
def savepoint (name : String) (c : Connection) (v : Vault) : Connection :=
  match c.transaction with
  | none => { c with transaction := some ⟨false, [(name, none)]⟩ }
  | some t =>
    let work := if v.isWriter c.id then some (c.view v) else none
    { c with transaction := some { t with savepoints := (name, work) :: t.savepoints } }

/-- gives a savepoint up; the first savepoint of a transaction that it opened commits -/
def release (name : String) (t : Transaction) (c : Connection) (v : Vault) :
    Except EngineFault Unit × Connection × Vault :=
  match savepointsFrom name t.savepoints with
  | [] => (.error (.noSavepoint name), c, v)
  | _ :: older =>
    if older.isEmpty && !t.explicit then c.commit v
    else (.ok (), { c with transaction := some { t with savepoints := older } }, v)

/-- goes back to a savepoint, which stays, as does everything that is held -/
def rollbackTo (name : String) (t : Transaction) (c : Connection) (v : Vault) :
    Except EngineFault Unit × Connection × Vault :=
  match savepointsFrom name t.savepoints with
  | [] => (.error (.noSavepoint name), c, v)
  | s :: older =>
    let back := { c with transaction := some { t with savepoints := s :: older } }
    (.ok (), back, if v.isWriter c.id then v.setWork (s.2.getD v.db) false else v)

/-- begins a transaction; what it is to take hold of at once is held even if a transaction is open already -/
def begin (how : Beginning) (c : Connection) (v : Vault) : Except EngineFault Unit × Connection × Vault :=
  let entered := if how = .deferred then some v else v.enter c.sharing c.id true (how = .exclusive)
  let blocked := if how = .deferred then none else c.obstacle v
  match blocked.elim entered fun _ => none, c.transaction with
  | none, _ => (.error (blocked.getD .locked), c, v)
  | some u, some _ => (.error .nestedTransaction, c, u)
  | some u, none => (.ok (), { c with transaction := some ⟨true, []⟩ }, u)

def performControl (cmd : Control) (c : Connection) (v : Vault) :
    Except EngineFault Unit × Connection × Vault :=
  if c.isShutOut v then (.error .locked, c, v)
  else match cmd, c.transaction with
    | .begin how, _ => c.begin how v
    | .commit, some _ => c.commit v
    | .rollback, some _ => (.ok (), c.rollback v)
    | .savepoint name, _ => (.ok (), c.savepoint name v, v)
    | .release name, some t => c.release name t v
    | .rollbackTo name, some t => c.rollbackTo name t v
    | .commit, none => (.error .noTransaction, c, v)
    | .rollback, none => (.error .noTransaction, c, v)
    | .release name, none => (.error (.noSavepoint name), c, v)
    | .rollbackTo name, none => (.error (.noSavepoint name), c, v)

/-! ## Statements -/

def perform (args : List Value) (cmd : Command) (c : Connection) (v : Vault) :
    Except EngineFault Answer × Connection × Vault :=
  match cmd with
  | .data d => performData args d c v
  | .control k =>
    let r := performControl k c v
    (r.1.map fun _ => ⟨none, 0⟩, r.2)

/-- commands one after the other up to the first that fails -/
def batch : List (Except EngineFault Grammar.Prepared) → Connection → Vault →
    Except EngineFault Unit × Connection × Vault
  | [], c, v => (.ok (), c, v)
  | .error e :: _, c, v => (.error e, c, v)
  | .ok p :: rest, c, v =>
    match perform [] p.command c v with
    | (.error e, c', v') => (.error e, c', v')
    | (.ok _, c', v') => batch rest c' v'

/-- all commands of a text, whatever rows they answer -/
def execute (sql : String) (c : Connection) (v : Vault) : Except EngineFault Unit × Connection × Vault :=
  batch (Grammar.commands sql) c v

/-- the first command of a text, with an argument for every placeholder -/
def run (sql : String) (args : List Value) (c : Connection) (v : Vault) :
    Except EngineFault Answer × Connection × Vault :=
  match Grammar.commands sql with
  | [] => (.ok ⟨none, 0⟩, c, v)
  | .error e :: _ => (.error e, c, v)
  | .ok p :: _ =>
    if p.params = args.length then perform (args.map plainValue) p.command c v
    else (.error (.argumentCount args.length p.params), c, v)

/-- a command that answers rows -/
def query (sql : String) (args : List Value) (c : Connection) (v : Vault) :
    Except EngineFault Rows × Connection × Vault :=
  let r := run sql args c v
  (r.1.map fun a => a.rows.getD (Rows.ofColumns []), r.2)

/-- a command that answers no rows; answers how many rows it touched -/
def change (sql : String) (args : List Value) (c : Connection) (v : Vault) :
    Except EngineFault Nat × Connection × Vault :=
  match run sql args c v with
  | (.ok a, c', v') =>
    if a.rows.any fun r => !r.cells.isEmpty then (.error .rowsReturned, c', v') else (.ok a.count, c', v')
  | (.error e, c', v') => (.error e, c', v')

end Connection

end FluentSql.Engine
