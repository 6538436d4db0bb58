import FluentSql.Backend
import FluentSql.Settings
import FluentSql.WorkUnit
/-!
Sessions: at most one database handle, the name and version to work with, and a stack of units of work.

A verb puts a new unit on the stack, every other chained step changes the unit on top, and running takes the
top unit off once the database is open. The handle is opened around each operation and closed again if it
was closed before.

All operations are actions on the session together with the outside world. `run_of_empty` and
`run_of_unbound` say when running touches nothing.
-/

namespace FluentSql

/-- a session over handles `H` and providers `P` -/
structure Session (H P : Type) where
  provider : Option P
  handle : Option H
  dbName : Option String
  /-- the version for the next database that is opened by name -/
  dbVersion : Int
  /-- units that have not run, the top one first -/
  stack : List WorkUnit
deriving Inhabited

namespace Session

variable {W H P α : Type}

def empty : Session H P := ⟨none, none, none, 1, []⟩

def ofProvider (p : P) : Session H P := { (empty : Session H P) with provider := some p }

/-- a session with checked settings -/
def ofSettings (s : Settings) (p : P) : Except DbError (Session H P) :=
  s.validate.map fun _ => { (ofProvider p : Session H P) with dbVersion := s.version }

def pending (s : Session H P) : Nat := s.stack.length

def isOpen (b : Backend W H P) (p : Session H P × W) : Bool := p.1.handle.any fun h => b.isOpen h p.2

/-- the session in messages -/
def describe (s : Session H P) : String :=
  let flag (x : Bool) : String := if x then "true" else "false"
  let name := match s.dbName with
    | some n => "Some(" ++ Text.quote n ++ ")"
    | none => "None"
  "Session \x7b db_name: " ++ name ++ ", db_version: " ++ toString s.dbVersion ++ ", has_provider: "
    ++ flag s.provider.isSome ++ ", bound: " ++ flag s.handle.isSome ++ ", pending_units: "
    ++ toString s.pending ++ " \x7d"

/-- changes the session and leaves the world -/
def edit (f : Session H P → Session H P) : Task (Session H P × W) Unit := Task.change fun p => (f p.1, p.2)

/-! ## The stack -/

def pushed (u : WorkUnit) (depth : Nat) : Event :=
  .debug "push unit" [("action", u.verbText), ("depth", toString depth)]

def popped (u : WorkUnit) (depth : Nat) : Event :=
  .debug "pop unit" [("action", u.verbText), ("depth", toString depth)]

/-- puts a unit on top of the stack -/
def push [Reporting W] (u : WorkUnit) : Task (Session H P × W) Unit := do
  let depth ← Task.read fun p => p.1.pending
  report (pushed u (depth + 1))
  edit fun s => { s with stack := u :: s.stack }

/-- changes the top unit, if there is one -/
def onTop (f : WorkUnit → WorkUnit) (s : Session H P) : Session H P :=
  match s.stack with
  | [] => s
  | u :: rest => { s with stack := f u :: rest }

/-- a chained step: a verb pushes, anything else goes to the top unit -/
def chain [Reporting W] (step : Step) : Task (Session H P × W) Unit :=
  if step.isVerb then push (WorkUnit.empty.apply step) else edit (onTop (·.apply step))

/-! ## Operations on the bound handle -/

/-- runs an action with a handle open -/
def whileOpen (b : Backend W H P) (h : H) (action : Task (Session H P × W) α) :
    Task (Session H P × W) α :=
  Task.whileOpen (fun p => b.isOpen h p.2) (Task.lift (b.openHandle h))
    (fun p => (p.1, b.closeHandle h p.2)) action

/-- runs an action on the bound handle with that handle open -/
def withHandle (b : Backend W H P) (action : H → Task (Session H P × W) α) :
    Task (Session H P × W) α := fun p =>
  match p.1.handle with
  | none => (.error .noDatabaseBound, p)
  | some h => whileOpen b h (action h) p

/-- takes the top unit off and carries it out -/
def popAndRun [Reporting W] (b : Backend W H P) (h : H) : Task (Session H P × W) Outcome := fun p =>
  match p.1.stack with
  | [] => (.ok .nothing, p)
  | u :: rest =>
    (do
      edit fun s => { s with stack := rest }
      report (popped u rest.length)
      Task.lift (u.run (b.channel h))) p

/-- carries out the top unit; without one there is nothing to do -/
def run [Reporting W] (b : Backend W H P) : Task (Session H P × W) Outcome := fun p =>
  match p.1.stack with
  | [] => (.ok .nothing, p)
  | _ :: _ => withHandle b (popAndRun b) p

/-- executes statements as they are -/
def exec (b : Backend W H P) (sql : String) : Task (Session H P × W) Unit :=
  withHandle b fun h => Task.lift ((b.channel h).execute sql)

/-! ## Lemmas -/

theorem run_of_empty [Reporting W] (b : Backend W H P) (s : Session H P) (w : W) (h : s.stack = []) :
    run b (s, w) = (.ok .nothing, s, w) := by
  simp [run, h]

theorem run_of_unbound [Reporting W] (b : Backend W H P) (s : Session H P) (w : W)
    (h : s.stack ≠ []) (hh : s.handle = none) : run b (s, w) = (.error .noDatabaseBound, s, w) := by
  unfold run
  cases hs : s.stack with
  | nil => exact absurd hs h
  | cons u rest => simp [withHandle, hh]

end Session

end FluentSql
