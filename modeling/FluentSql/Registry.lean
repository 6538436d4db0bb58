import FluentSql.Session.Databases
/-!
Sessions by the context that owns them. A context is a number; each has at most one session, which is made
when it is first asked for. Taking a context down destroys its session, and clearing takes all of them down.
-/

namespace FluentSql

/-- sessions by context -/
structure Registry (H P : Type) where
  sessions : List (Nat × Session H P)

namespace Registry

variable {W H P α : Type}

def empty : Registry H P := ⟨[]⟩

/-! ## Keyed lists -/

def find (id : Nat) : List (Nat × Session H P) → Option (Session H P)
  | [] => none
  | e :: rest => if e.1 = id then some e.2 else find id rest

def put (id : Nat) (s : Session H P) : List (Nat × Session H P) → List (Nat × Session H P)
  | [] => [(id, s)]
  | e :: rest => if e.1 = id then (id, s) :: rest else e :: put id s rest

def drop (id : Nat) : List (Nat × Session H P) → List (Nat × Session H P)
  | [] => []
  | e :: rest => if e.1 = id then rest else e :: drop id rest

/-! ## Operations -/

def get? (r : Registry H P) (id : Nat) : Option (Session H P) := find id r.sessions

def set (r : Registry H P) (id : Nat) (s : Session H P) : Registry H P := ⟨put id s r.sessions⟩

def size (r : Registry H P) : Nat := r.sessions.length

def isEmpty (r : Registry H P) : Bool := r.sessions.isEmpty

def created (id : Nat) : Event := .debug "creating session" [("context", toString id)]

/-- makes a session for a context that has none; answers whether it did -/
def ensure [Reporting W] (id : Nat) (make : Task W (Session H P)) : Task (Registry H P × W) Bool := fun p =>
  match p.1.get? id with
  | some _ => (.ok false, p)
  | none =>
    (do
      report (created id)
      let s ← Task.lift make
      Task.change fun (q : Registry H P × W) => (q.1.set id s, q.2)
      pure true) p

/-- an action on the session of a context; nothing happens without one -/
def onSession (id : Nat) (action : Task (Session H P × W) α) : Task (Registry H P × W) (Option α) := fun p =>
  match p.1.get? id with
  | none => (.ok none, p)
  | some s =>
    let (outcome, s', w) := action (s, p.2)
    (outcome.map some, p.1.set id s', w)

/-- the session of a context, made if needed, with its database named -/
def sessionFor [Reporting W] (b : Backend W H P) (id : Nat) (dbName : String)
    (make : Task W (Session H P)) : Task (Registry H P × W) Bool := do
  let made ← ensure id make
  let _ ← onSession id (Session.setDb b dbName)
  pure made

/-- registers a session; answers the one it replaces -/
def insert (id : Nat) (s : Session H P) : Task (Registry H P × W) (Option (Session H P)) := fun p =>
  (.ok (p.1.get? id), p.1.set id s, p.2)

/-- unregisters a session and hands it out as it is -/
def remove (id : Nat) : Task (Registry H P × W) (Option (Session H P)) := fun p =>
  (.ok (p.1.get? id), ⟨drop id p.1.sessions⟩, p.2)

/-- lets go of the handle of a session that nobody keeps -/
def discard (b : Backend W H P) (s : Session H P) (w : W) : W := s.handle.elim w fun h => b.release h w

/-- destroys a session -/
def destroyed [Reporting W] (b : Backend W H P) (s : Session H P) (w : W) : W :=
  (Session.destroy b (s, w)).2.2

/-- unregisters and destroys the session of a context; answers whether there was one -/
def teardown [Reporting W] (b : Backend W H P) (id : Nat) : Task (Registry H P × W) Bool := fun p =>
  match p.1.get? id with
  | none => (.ok false, p)
  | some s => (.ok true, ⟨drop id p.1.sessions⟩, destroyed b s p.2)

/-- unregisters and destroys all sessions -/
def clear [Reporting W] (b : Backend W H P) : Task (Registry H P × W) Unit := Task.change fun p =>
  (empty, p.1.sessions.foldl (fun w e => destroyed b e.2 w) p.2)

end Registry

end FluentSql
