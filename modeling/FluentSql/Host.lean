import FluentSql.Embedded.Provider
import FluentSql.Rehearsal
import FluentSql.Storage.Library
/-!
A world with both kinds of databases: those of the embedded engine and rehearsed ones. Its handles are known
by a number and a name, so a session holds a reference and the world holds the state (`Host.backend`).

The world also keeps what happened: the events that were reported, and the calls that rehearsed handles got.
-/

namespace FluentSql

open Engine Rehearsal

/-- handles of the embedded engine with the connections of this library -/
abbrev EngineHandle : Type := Embedded.Handle Connection

/-- a handle as the world keeps it -/
inductive Seat where
  | rehearsed (isOpen : Bool)
  | embedded (h : EngineHandle)
  /-- nobody holds the handle any more -/
  | vacant

/-- a reference to a handle -/
structure HandleRef where
  id : Nat
  name : String
deriving DecidableEq, Repr, Inhabited

/-- a provider: the script, or one of the embedded engine -/
inductive Source where
  | script
  | embedded (p : Embedded.Provider)

structure Host where
  /-- the latest event first -/
  events : List Event
  stage : Stage
  /-- handles by their numbers -/
  seats : List Seat
  storage : Storage
  /-- the connections that keep names in memory alive -/
  keepers : List ((Nat × String) × Connection)

namespace Host

/-- actions on a handle of the embedded engine in this world -/
abbrev Act (α : Type) : Type := Embedded.Handle.Act Connection Storage Host α

def ofStage (stage : Stage) : Host := ⟨[], stage, [], Storage.empty, []⟩

instance : Reporting Host where
  emit e w := { w with events := e :: w.events }
  note n w := { w with stage := w.stage.heard (.note n) }

variable {α : Type}

/-! ## Parts -/

def onStage (t : Task Stage α) : Task Host α := Task.within Host.stage (fun s w => { w with stage := s }) t

/-- an action on what providers of the embedded engine work with, and on the world around it -/
def onDepot (t : Task (Embedded.Depot Connection Storage × Host) α) : Task Host α := fun w =>
  let r := t (⟨w.storage, w.keepers⟩, w)
  (r.1, { r.2.2 with storage := r.2.1.engine, keepers := r.2.1.keepers })

/-- a change of the files that may fail -/
def onFiles (f : Storage.Files → Except IoFault Storage.Files) : Task Host Unit := fun w =>
  match f w.storage.files with
  | .ok files => (.ok (), { w with storage := { w.storage with files := files } })
  | .error e => (.error (.io e), w)

/-- forgets the events and the calls so far -/
def quiet (w : Host) : Host := { w with events := [], stage := { w.stage with calls := [] } }

def seat (w : Host) (h : HandleRef) : Seat := w.seats[h.id]?.getD .vacant

def setSeat (w : Host) (h : HandleRef) (s : Seat) : Host := { w with seats := w.seats.set h.id s }

/-- the handle of the embedded engine behind a reference -/
def embedded? (w : Host) (ref : HandleRef) : Option EngineHandle :=
  match w.seat ref with
  | .embedded h => some h
  | _ => none

/-- a new handle -/
def seatNew (name : String) (s : Seat) : Task Host HandleRef := fun w =>
  (.ok ⟨w.seats.length, name⟩, { w with seats := w.seats ++ [s] })

/-- a closed rehearsed handle -/
def newRehearsed (name : String) : Task Host HandleRef := seatNew name (.rehearsed false)

/-- a closed handle of the embedded engine -/
def newEmbedded (h : EngineHandle) : Task Host HandleRef := seatNew h.name (.embedded h)

/-- a provider that keeps its databases in memory -/
def newMemorySource : Task Host Source := fun w =>
  (.ok (.embedded (.inMemory w.storage.next)),
    { w with storage := { w.storage with next := w.storage.next + 1 } })

/-- an action on a handle of the embedded engine -/
def onEmbedded (ref : HandleRef) (h : EngineHandle) (t : Act α) : Task Host α :=
  fun w =>
    let r := t (h, w.storage, w)
    (r.1, { r.2.2.2 with storage := r.2.2.1 }.setSeat ref (.embedded r.2.1))

/-- an action of a handle by its kind -/
def dispatch (ref : HandleRef) (rehearsed : Task Host α) (embedded : Act α) : Task Host α := fun w =>
  match w.seat ref with
  | .rehearsed _ => rehearsed w
  | .embedded h => onEmbedded ref h embedded w
  | .vacant => (.error (.notOpen ref.name), w)

/-! ## Handles -/

/-- the version that the database of a handle has -/
def storedVersion : Act Int := Embedded.Handle.storedVersion Storage.library

def isOpen (ref : HandleRef) (w : Host) : Bool :=
  match w.seat ref with
  | .rehearsed isOpen => isOpen
  | .embedded h => h.isOpen
  | .vacant => false

def openHandle (ref : HandleRef) : Task Host Unit :=
  dispatch ref
    (do
      onStage (Stage.openHandle ref.name)
      Task.change fun w => w.setSeat ref (.rehearsed true))
    (Embedded.Handle.openUp Storage.library)

/-- changes a handle of the embedded engine together with the storage -/
def changeEmbedded (f : EngineHandle × Storage × Host → EngineHandle × Storage × Host) (ref : HandleRef) (h : EngineHandle) (w : Host) :
    Host :=
  let r := f (h, w.storage, w)
  { r.2.2 with storage := r.2.1 }.setSeat ref (.embedded r.1)

def closeHandle (ref : HandleRef) (w : Host) : Host :=
  match w.seat ref with
  | .rehearsed _ =>
    { w with stage := w.stage.heard (.closeHandle ref.name) }.setSeat ref (.rehearsed false)
  | .embedded h => changeEmbedded (Embedded.Handle.close Storage.library) ref h w
  | .vacant => w

/-- lets go of a handle; a rehearsed one does not notice -/
def release (ref : HandleRef) (w : Host) : Host :=
  match w.seat ref with
  | .embedded h => (changeEmbedded (Embedded.Handle.release Storage.library) ref h w).setSeat ref .vacant
  | _ => w.setSeat ref .vacant

def channel (ref : HandleRef) : Channel Host :=
  let r := Stage.channel ref.name
  let e : Channel (EngineHandle × Storage × Host) := Embedded.Handle.channel Storage.library
  { execute := fun sql => dispatch ref (onStage (r.execute sql)) (e.execute sql)
    query := fun q => dispatch ref (onStage (r.query q)) (e.query q)
    insert := fun t v => dispatch ref (onStage (r.insert t v)) (e.insert t v)
    update := fun t v c a => dispatch ref (onStage (r.update t v c a)) (e.update t v c a)
    delete := fun t c a => dispatch ref (onStage (r.delete t c a)) (e.delete t c a) }

def siblings (ref : HandleRef) : Task Host (List String) :=
  dispatch ref (onStage (Stage.siblings ref.name)) (Embedded.Handle.siblings Storage.library)

/-! ## Providers -/

def openDatabase (source : Source) (name : String) (o : OpenOptions) : Task Host HandleRef :=
  match source with
  | .script => do
    onStage (Stage.openDatabase name o)
    seatNew name (.rehearsed true)
  | .embedded p => do
    let h ← onDepot (p.openDatabase Storage.library name o)
    newEmbedded h

def listNames (source : Source) : Task Host (List String) :=
  match source with
  | .script => onStage Stage.listNames
  | .embedded p => onDepot (p.listNames Storage.library)

def dropDatabase (source : Source) (name : String) : Task Host Bool :=
  match source with
  | .script => onStage (Stage.dropDatabase name)
  | .embedded p => onDepot (p.dropDatabase Storage.library name)

/-- the world as sessions see it -/
def backend : Backend Host HandleRef Source where
  name := HandleRef.name
  isOpen := isOpen
  openHandle := openHandle
  closeHandle := closeHandle
  release := release
  channel := channel
  siblings := siblings
  openDatabase := openDatabase
  listNames := listNames
  dropDatabase := dropDatabase

end Host

end FluentSql
