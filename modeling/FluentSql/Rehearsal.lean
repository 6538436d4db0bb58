import FluentSql.Backend
/-!
Rehearsed databases: handles and a provider that follow a script instead of keeping rows, and a record of
every call that reaches them.

A script has a queue of cues for each kind of call; all handles share it. A call is recorded, then takes the
next cue: the standard answer, a failure, or a given answer. An empty queue means the standard answer.
-/

namespace FluentSql

/-- a call that reached a handle or a provider, or a note of a lifecycle hook -/
inductive Call where
  | openHandle (name : String)
  | closeHandle (name : String)
  | execute (name sql : String)
  | query (name : String) (q : Query)
  | insert (name table : String) (values : Record)
  | update (name table : String) (values : Record) (condition : Option String) (args : List String)
  | delete (name table : String) (condition : Option String) (args : List String)
  | siblings (name : String)
  | openDatabase (name : String) (version : Int) (hooks : List String) (withoutHooks : Bool)
  | listNames
  | dropDatabase (name : String)
  | note (n : Note)

namespace Rehearsal

/-- what a rehearsed call does -/
inductive Cue (α : Type) where
  | standard
  | fail (e : DbError)
  | answer (a : α)

structure Script where
  opens : List (Cue Unit)
  executes : List (Cue Unit)
  queries : List (Cue Rows)
  inserts : List (Cue Int64)
  updates : List (Cue Nat)
  deletes : List (Cue Nat)
  openings : List (Cue Unit)
  drops : List (Cue Bool)
  lists : List (Cue (List String))

namespace Script

/-- every call has its standard answer -/
def standard : Script := ⟨[], [], [], [], [], [], [], [], []⟩

end Script

/-- what rehearsed handles and providers share -/
structure Stage where
  /-- the latest call first -/
  calls : List Call
  script : Script
  /-- the names of the databases, in the order in which they came -/
  databases : List String
  /-- the id that the next insert without a cue gives -/
  nextRowId : Int64

namespace Stage

def ofScript (script : Script) (databases : List String) : Stage := ⟨[], script, databases, 1⟩

/-- records a call -/
def heard (c : Call) (s : Stage) : Stage := { s with calls := c :: s.calls }

/-- the next cue of a queue -/
def next {α : Type} : List (Cue α) → Cue α × List (Cue α)
  | [] => (.standard, [])
  | c :: rest => (c, rest)

/-- a call: recorded first, then answered by its cue -/
def perform {α : Type} (c : Call) (queue : Script → List (Cue α)) (put : Script → List (Cue α) → Script)
    (standard : Task Stage α) : Task Stage α := fun s =>
  let heard := s.heard c
  let (cue, rest) := next (queue heard.script)
  let left := { heard with script := put heard.script rest }
  match cue with
  | .standard => standard left
  | .fail e => (.error e, left)
  | .answer a => (.ok a, left)

def done : Task Stage Unit := Task.pure ()

def openHandle (name : String) : Task Stage Unit :=
  perform (.openHandle name) Script.opens (fun s q => { s with opens := q }) done

def execute (name sql : String) : Task Stage Unit :=
  perform (.execute name sql) Script.executes (fun s q => { s with executes := q }) done

def query (name : String) (q : Query) : Task Stage Rows :=
  perform (.query name q) Script.queries (fun s c => { s with queries := c }) (Task.pure (Rows.ofColumns []))

/-- rows get the ids one, two, three, whatever handle they go through -/
def giveRowId : Task Stage Int64 := fun s => (.ok s.nextRowId, { s with nextRowId := s.nextRowId + 1 })

def insert (name table : String) (values : Record) : Task Stage Int64 :=
  perform (.insert name table values) Script.inserts (fun s q => { s with inserts := q }) giveRowId

def update (name table : String) (values : Record) (condition : Option String) (args : List String) :
    Task Stage Nat :=
  perform (.update name table values condition args) Script.updates (fun s q => { s with updates := q })
    (Task.pure 1)

def delete (name table : String) (condition : Option String) (args : List String) : Task Stage Nat :=
  perform (.delete name table condition args) Script.deletes (fun s q => { s with deletes := q })
    (Task.pure 1)

/-- the statements of a handle with a name -/
def channel (name : String) : Channel Stage :=
  ⟨execute name, query name, insert name, update name, delete name⟩

def sortedNames (s : Stage) : List String := s.databases.mergeSort fun a b => decide (a ≤ b)

/-- the names as a handle lists them; it follows the same cues as the provider's own list -/
def siblings (name : String) : Task Stage (List String) :=
  perform (.siblings name) Script.lists (fun s q => { s with lists := q }) (Task.read sortedNames)

/-- adds a name; the hooks never run -/
def openDatabase (name : String) (o : OpenOptions) : Task Stage Unit :=
  perform (.openDatabase name o.version o.hooks.names o.hooks.isEmpty) Script.openings
    (fun s q => { s with openings := q }) fun s =>
      (.ok (), if s.databases.contains name then s else { s with databases := s.databases ++ [name] })

def listNames : Task Stage (List String) :=
  perform .listNames Script.lists (fun s q => { s with lists := q }) (Task.read sortedNames)

/-- removes a name; answers whether it was there -/
def dropDatabase (name : String) : Task Stage Bool :=
  perform (.dropDatabase name) Script.drops (fun s q => { s with drops := q }) fun s =>
    (.ok (s.databases.contains name), { s with databases := s.databases.filter (· != name) })

end Stage

end Rehearsal

end FluentSql
