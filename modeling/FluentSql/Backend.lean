import FluentSql.Journal
import FluentSql.Query
import FluentSql.Rows
import FluentSql.Task
/-!
What a session needs from the outside: handles of databases, the statements they carry out, and a provider
that opens, lists and drops databases by name.

The interface is a record of functions (`Backend`) over the state `W` of the outside world, the type `H` of
handles and the type `P` of providers. Nothing is assumed about the functions: each may fail at any call. A
lifecycle hook is data (`Hook`): a tree of statements with what to do after each outcome, so it can be kept,
run again, and reasoned about.
-/

namespace FluentSql

/-! ## Reporting -/

/-- what a lifecycle hook tells about its run -/
inductive Note where
  | created (database : String) (isOpen : Bool)
  | upgraded (database : String) (current requested : Int)
  | opened (database : String) (isOpen : Bool)
  | counted (rows : Int64)
deriving DecidableEq, Repr

/-- worlds that keep events and notes -/
class Reporting (W : Type) where
  emit : Event → W → W
  note : Note → W → W

/-- reports go to the second part of a state -/
instance {V W : Type} [Reporting W] : Reporting (V × W) where
  emit e p := (p.1, Reporting.emit e p.2)
  note n p := (p.1, Reporting.note n p.2)

/-- reports an event -/
def report {W : Type} [Reporting W] (e : Event) : Task W Unit := Task.change (Reporting.emit e)

/-! ## Statements -/

/-- the statements that one handle carries out -/
structure Channel (W : Type) where
  /-- any number of statements, without result -/
  execute : String → Task W Unit
  query : Query → Task W Rows
  /-- one row; answers its id -/
  insert : String → Record → Task W Int64
  /-- values, condition and arguments; answers how many rows it touched -/
  update : String → Record → Option String → List String → Task W Nat
  /-- condition and arguments; answers how many rows it touched -/
  delete : String → Option String → List String → Task W Nat

/-- the number in the first cell of the answer to a count -/
def countIn (table : String) (rows : Rows) : Except DbError Int64 :=
  match rows.firstCell?.bind Value.asInt with
  | some n => .ok n
  | none => .error (.execution (.countMissing table))

/-- how many rows a table has; fails if there is no such table -/
def Channel.countRows {W : Type} (c : Channel W) (table : String) : Task W Int64 := do
  let rows ← c.query (Query.count table)
  Task.ofExcept (countIn table rows)

/-! ## Lifecycle hooks -/

/-- what to do with a database when it is created, upgraded or opened -/
inductive Hook where
  | done
  | fail (e : DbError)
  /-- asks for the name of the database and whether it is open -/
  | look (next : String → Bool → Hook)
  | note (n : Note) (next : Hook)
  | execute (sql : String) (next : Except DbError Unit → Hook)
  | query (q : Query) (next : Except DbError Rows → Hook)
  | insert (table : String) (values : Record) (next : Except DbError Int64 → Hook)
  | update (table : String) (values : Record) (condition : Option String) (args : List String)
      (next : Except DbError Nat → Hook)
  | delete (table : String) (condition : Option String) (args : List String)
      (next : Except DbError Nat → Hook)

namespace Hook

/-- goes on after a success and stops at an error -/
def orFail {α : Type} (next : α → Hook) : Except DbError α → Hook
  | .ok a => next a
  | .error e => fail e

/-- counts the rows of a table and notes the number -/
def count (table : String) (next : Hook) : Hook :=
  query (Query.count table) <| orFail fun rows =>
    orFail (fun n => note (.counted n) next) (countIn table rows)

/-- runs a hook on a handle -/
def run {W : Type} [Reporting W] (c : Channel W) (name : String) (isOpen : W → Bool) : Hook → Task W Unit
  | done => Task.pure ()
  | fail e => Task.fail e
  | look next => fun w => run c name isOpen (next name (isOpen w)) w
  | note n next => fun w => run c name isOpen next (Reporting.note n w)
  | execute sql next => fun w =>
    run c name isOpen (next (c.execute sql w).1) (c.execute sql w).2
  | query q next => fun w =>
    run c name isOpen (next (c.query q w).1) (c.query q w).2
  | insert t r next => fun w =>
    run c name isOpen (next (c.insert t r w).1) (c.insert t r w).2
  | update t r cond args next => fun w =>
    run c name isOpen (next (c.update t r cond args w).1) (c.update t r cond args w).2
  | delete t cond args next => fun w =>
    run c name isOpen (next (c.delete t cond args w).1) (c.delete t cond args w).2

end Hook

/-- the hooks of a database -/
structure Hooks where
  onCreate : Option Hook
  /-- given the stored and the requested version -/
  onUpgrade : Option (Int → Int → Hook)
  onOpen : Option Hook

namespace Hooks

def none : Hooks := ⟨Option.none, Option.none, Option.none⟩

def isEmpty (h : Hooks) : Bool := h.onCreate.isNone && h.onUpgrade.isNone && h.onOpen.isNone

/-- the names of the hooks that are set -/
def names (h : Hooks) : List String :=
  (if h.onCreate.isSome then ["on_create"] else []) ++ (if h.onUpgrade.isSome then ["on_upgrade"] else [])
    ++ (if h.onOpen.isSome then ["on_open"] else [])

/-- the hooks in messages: only whether they are set -/
def describe (h : Hooks) : String :=
  let flag (b : Bool) : String := if b then "true" else "false"
  "OpenCallbacks \x7b on_create: " ++ flag h.onCreate.isSome ++ ", on_upgrade: "
    ++ flag h.onUpgrade.isSome ++ ", on_open: " ++ flag h.onOpen.isSome ++ " \x7d"

end Hooks

/-- how to open a database -/
structure OpenOptions where
  /-- the schema version, at least one -/
  version : Int
  hooks : Hooks

namespace OpenOptions

/-- version one without hooks -/
def standard : OpenOptions := ⟨1, Hooks.none⟩

def describe (o : OpenOptions) : String :=
  "OpenOptions \x7b version: " ++ toString o.version ++ ", callbacks: " ++ o.hooks.describe ++ " \x7d"

end OpenOptions

/-! ## Handles and providers -/

/-- everything a session asks of the outside world -/
structure Backend (W H P : Type) where
  /-- the name of the database a handle is for -/
  name : H → String
  isOpen : H → W → Bool
  openHandle : H → Task W Unit
  closeHandle : H → W → W
  /-- lets go of a handle for good -/
  release : H → W → W
  channel : H → Channel W
  /-- the names of the databases next to the one of a handle, in ascending order -/
  siblings : H → Task W (List String)
  /-- opens a database by name, creating it if needed; answers an open handle -/
  openDatabase : P → String → OpenOptions → Task W H
  /-- the names of the databases of a provider, in ascending order -/
  listNames : P → Task W (List String)
  /-- removes a database; answers whether there was one -/
  dropDatabase : P → String → Task W Bool

end FluentSql
