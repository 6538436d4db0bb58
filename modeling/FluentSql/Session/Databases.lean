import FluentSql.Session.Basic
/-!
Databases of a session: binding handles, opening databases by name through the provider, closing, listing
and dropping them.

A new database is opened before the bound handle is closed, so a failure leaves that handle bound.
-/

namespace FluentSql.Session

variable {W H P α : Type} [Reporting W]

/-- binds a handle and takes over its name; the handle bound before is let go as it is -/
def bind (b : Backend W H P) (h : H) : Task (Session H P × W) Unit := Task.change fun p =>
  let w := p.1.handle.elim p.2 fun old => b.release old p.2
  ({ p.1 with dbName := some (b.name h), handle := some h }, w)

/-- a session bound to a handle -/
def ofHandle (b : Backend W H P) (h : H) : Session H P :=
  { (empty : Session H P) with dbName := some (b.name h), handle := some h }

def setVersion (version : Int) : Task (Session H P × W) Unit := edit fun s => { s with dbVersion := version }

/-- binds a handle that was just opened by name, closing the one bound before -/
def rebind (b : Backend W H P) (name : String) (h : H) (p : Session H P × W) : Session H P × W :=
  let w := p.1.handle.elim p.2 fun old => b.release old (b.closeHandle old p.2)
  ({ p.1 with dbName := some name, handle := some h }, w)

/-- opens a database through the provider and binds it -/
def createOrOpen (b : Backend W H P) (name : String) (hooks : Hooks) : Task (Session H P × W) Unit := fun p =>
  match p.1.provider with
  | none => (.error (.config .noProvider), p)
  | some provider =>
    (do
      let h ← Task.lift (b.openDatabase provider name ⟨p.1.dbVersion, hooks⟩)
      Task.change (rebind b name h)) p

/-- opens a database without hooks -/
def createDb (b : Backend W H P) (name : String) : Task (Session H P × W) Unit :=
  createOrOpen b name Hooks.none

/-- opens a database with lifecycle hooks -/
def createDbWithHooks (b : Backend W H P) (name : String) (hooks : Hooks) : Task (Session H P × W) Unit :=
  createOrOpen b name hooks

def repointed (name : String) : Event := .debug "re-pointing session handle" [("database", name)]

/-- names the database to work with; a handle bound to another one is replaced at once -/
def setDb (b : Backend W H P) (name : String) : Task (Session H P × W) Unit := do
  edit fun s => { s with dbName := some name }
  if ← Task.read fun p => p.1.handle.any fun h => b.name h != name then
    report (repointed name)
    createDb b name

/-- opens the bound database, or the named one through the provider -/
def openDb (b : Backend W H P) : Task (Session H P × W) Unit := fun p =>
  match p.1.handle, p.1.dbName with
  | some h, some name =>
    if b.name h != name then createDb b name p else Task.lift (b.openHandle h) p
  | some h, none => Task.lift (b.openHandle h) p
  | none, some name =>
    if p.1.provider.isSome then createDb b name p else (.error .noDatabaseBound, p)
  | none, none => (.error .noDatabaseBound, p)

/-- closes the bound handle if it is open -/
def closeOpen (b : Backend W H P) (p : Session H P × W) : W :=
  match p.1.handle with
  | some h => if b.isOpen h p.2 then b.closeHandle h p.2 else p.2
  | none => p.2

def closeDb (b : Backend W H P) : Task (Session H P × W) Unit := Task.change fun p => (p.1, closeOpen b p)

/-- whether the provider, or else the bound handle, knows a database of that name -/
def dbExists (b : Backend W H P) (name : String) : Task (Session H P × W) Bool := fun p =>
  match p.1.provider, p.1.handle with
  | some provider, _ => Task.lift ((·.contains name) <$> b.listNames provider) p
  | none, some h => Task.lift ((·.contains name) <$> b.siblings h) p
  | none, none => (.error .noDatabaseBound, p)

/-- closes and lets go of the bound handle -/
def unbind (b : Backend W H P) (p : Session H P × W) : Session H P × W :=
  ({ p.1 with handle := none }, p.1.handle.elim p.2 fun h => b.release h (b.closeHandle h p.2))

def dropFailed (name : String) (e : DbError) : Event :=
  .warn "drop database failed" [("database", name), ("error", e.message)]

/-- removes a database through the provider -/
def dropThrough (b : Backend W H P) (name : String) : Task (Session H P × W) Bool := fun p =>
  match p.1.provider with
  | none => (.error (.config .noProvider), p)
  | some provider => Task.lift (b.dropDatabase provider name) p

/-- removes a database, letting go of its handle first; a failure counts as not removed -/
def dropDb (b : Backend W H P) (name : String) : Task (Session H P × W) Bool := do
  if ← Task.read fun p => p.1.handle.any fun h => b.name h == name then
    Task.change (unbind b)
  match ← Task.attempt (dropThrough b name) with
  | .ok dropped => pure dropped
  | .error e =>
    report (dropFailed name e)
    pure false

/-- closes and lets go of the handle and discards all units -/
def destroy (b : Backend W H P) : Task (Session H P × W) Unit := Task.change fun p =>
  let w := closeOpen b p
  ({ p.1 with handle := none, stack := [] }, p.1.handle.elim w fun h => b.release h w)

end FluentSql.Session
