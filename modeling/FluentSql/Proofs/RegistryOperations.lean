import FluentSql.Proofs.SeparateHandles
/-!
Operations of a registry of sessions as data, so that its history is a list of them, in which every map is emptied in
an order of its own (`Drain`).

What one operation does is said once: whether it makes a session (`Operation.perform_made`,
`Operation.perform_found`), that it leaves the sessions of other contexts (`Operation.perform_local`), and that the
handles of sessions that are taken down are let go of (`Operation.perform_world`).
-/

namespace FluentSql

variable {V W H P : Type}

namespace Registry

/-! ## Keyed lists -/

section

variable (id : Nat) (s : Session H P) (l : List (Nat × Session H P))

theorem find_put_self : find id (put id s l) = some s := by
  induction l with
  | nil => simp [put, find]
  | cons e rest ih =>
    unfold put
    split
    · simp [find]
    · next hne => simp [find, hne, ih]

variable {id} {j : Nat} (hj : j ≠ id)

include hj

theorem find_put_of_ne : find j (put id s l) = find j l := by
  induction l with
  | nil => simp [put, find, hj.symm]
  | cons e rest ih =>
    unfold put
    split
    · next heq => simp [find, heq, hj.symm]
    · simp [find, ih]

theorem find_drop_of_ne : find j (drop id l) = find j l := by
  induction l with
  | nil => rfl
  | cons e rest ih =>
    unfold drop
    split
    · next heq => simp [find, heq, hj.symm]
    · simp [find, ih]

end

theorem find_eq_none_iff (id : Nat) (l : List (Nat × Session H P)) : find id l = none ↔ id ∉ l.map Prod.fst := by
  induction l with
  | nil => simp [find]
  | cons e rest ih =>
    unfold find
    split
    · next heq => simp [heq]
    · next hne => simpa [ih] using fun _ => Ne.symm hne

theorem drop_sublist (id : Nat) (l : List (Nat × Session H P)) : (drop id l).Sublist l := by
  induction l with
  | nil => exact .slnil
  | cons e rest ih =>
    unfold drop
    split
    · exact List.sublist_cons_self e rest
    · exact ih.cons_cons e

/-- the contexts after a session was put: one more, unless it was there -/
theorem keys_put (id : Nat) (s : Session H P) (l : List (Nat × Session H P)) :
    (put id s l).map Prod.fst = if id ∈ l.map Prod.fst then l.map Prod.fst else l.map Prod.fst ++ [id] := by
  induction l with
  | nil => simp [put]
  | cons e rest ih =>
    unfold put
    split
    · next heq => simp [heq]
    · next hne =>
      simp only [List.map_cons, ih, List.mem_cons, Ne.symm hne, false_or]
      split
      · rfl
      · rfl

/-- no context has two sessions -/
def Keyed (r : Registry H P) : Prop := (r.sessions.map Prod.fst).Nodup

theorem keyed_empty : (empty : Registry H P).Keyed := List.nodup_nil

theorem Keyed.set {r : Registry H P} (h : r.Keyed) (id : Nat) (s : Session H P) : (r.set id s).Keyed := by
  unfold Keyed Registry.set
  rw [keys_put]
  split
  · exact h
  · next hnot =>
    refine List.nodup_append.2 ⟨h, by simp, fun j hj k hk heq => ?_⟩
    rw [heq, List.mem_singleton.1 hk] at hj
    exact hnot hj

theorem Keyed.drop {r : Registry H P} (h : r.Keyed) (id : Nat) : Keyed ⟨drop id r.sessions⟩ :=
  h.sublist ((drop_sublist id r.sessions).map _)

theorem Keyed.find_drop {r : Registry H P} (h : r.Keyed) (id : Nat) : find id (Registry.drop id r.sessions) = none := by
  obtain ⟨l⟩ := r
  unfold Keyed at h
  rw [find_eq_none_iff]
  induction l with
  | nil => simp [Registry.drop]
  | cons e rest ih =>
    obtain ⟨hnot, hrest⟩ := List.nodup_cons.1 h
    unfold Registry.drop
    split
    · next heq => exact heq ▸ hnot
    · next hne => simpa [Ne.symm hne] using ih hrest

/-! ## Emptying a map -/

/-- an order in which a map is emptied -/
structure Drain (H P : Type) where
  order : List (Nat × Session H P) → List (Nat × Session H P)
  perm : ∀ l, (order l).Perm l

/-- in the order in which the sessions came -/
def Drain.inOrder : Drain H P := ⟨id, fun _ => .refl _⟩

/-- unregisters and destroys all sessions, in some order -/
def clearIn [Reporting V] (d : Drain H P) (b : Backend V H P) : Task (Registry H P × V) Unit := Task.change fun p =>
  (empty, (d.order p.1.sessions).foldl (fun v e => destroyed b e.2 v) p.2)

-- a registry is emptied in the order in which its sessions came
example [Reporting V] (b : Backend V H P) : clearIn .inOrder b = clear b := rfl

/-- the handle of the session of a context -/
def handle? (r : Registry H P) (id : Nat) : Option H := (r.get? id).bind Session.handle

/-- the handles of sessions -/
def handlesIn (l : List (Nat × Session H P)) : List H := l.filterMap fun e => e.2.handle

/-- the handles of the registered sessions -/
def handles (r : Registry H P) : List H := handlesIn r.sessions

theorem foldl_destroyed [Reporting V] (b : Backend V H P) (l : List (Nat × Session H P)) (v : V) :
    l.foldl (fun v e => destroyed b e.2 v) v = b.letGoAll (handlesIn l) v := by
  induction l generalizing v with
  | nil => rfl
  | cons e rest ih =>
    rw [List.foldl_cons, ih, destroyed_eq]
    unfold handlesIn
    cases h : e.2.handle with
    | none => simp [h]
    | some g => simp [h, Backend.letGoAll]

theorem clearIn_eq [Reporting V] (d : Drain H P) (b : Backend V H P) (p : Registry H P × V) :
    clearIn d b p = (.ok (), empty, b.letGoAll (handlesIn (d.order p.1.sessions)) p.2) := by
  rw [clearIn, Task.change, foldl_destroyed]

theorem handles_perm (d : Drain H P) (r : Registry H P) : (handlesIn (d.order r.sessions)).Perm r.handles :=
  (d.perm r.sessions).filterMap _

/-! ## Operations as data -/

/-- anything that can be asked of a registry, or of a session through it -/
inductive Operation (V H P : Type) where
  | getOrCreate (id : Nat) (make : Task V (Session H P))
  | sessionFor (id : Nat) (dbName : String) (make : Task V (Session H P))
  | get (id : Nat)
  | within (id : Nat) (op : Session.Operation H)
  | insert (id : Nat) (s : Session H P)
  | remove (id : Nat)
  | teardown (id : Nat)
  | clear

namespace Operation

variable [Reporting V]

/-- an operation; the order counts where a map is emptied -/
def perform (b : Backend V H P) (d : Drain H P) : Operation V H P → Task (Registry H P × V) Unit
  | getOrCreate id make => (ensure id make).dropAnswer
  | sessionFor id dbName make => (Registry.sessionFor b id dbName make).dropAnswer
  | get id => (Task.read fun p : Registry H P × V => p.1.get? id).dropAnswer
  | within id op => (onSession id (op.perform b)).dropAnswer
  | insert id s => (Registry.insert id s).dropAnswer
  | remove id => (Registry.remove id).dropAnswer
  | teardown id => (Registry.teardown b id).dropAnswer
  | clear => clearIn d b

/-- the context that an operation is about -/
def context? : Operation V H P → Option Nat
  | getOrCreate id _ => some id
  | sessionFor id _ _ => some id
  | get id => some id
  | within id _ => some id
  | insert id _ => some id
  | remove id => some id
  | teardown id => some id
  | clear => none

/-- the make function that an operation was given -/
def make? : Operation V H P → Option (Task V (Session H P))
  | getOrCreate _ make => some make
  | sessionFor _ _ make => some make
  | _ => none

/-- what is left of an operation once its context has a session -/
def onceMade : Operation V H P → Operation V H P
  | getOrCreate id _ => get id
  | sessionFor id dbName _ => within id (.setDb dbName)
  | op => op

/-- an operation after its make function was run: the session is registered and the rest is done, unless there is none
-/
def onwards (b : Backend V H P) (d : Drain H P) (op : Operation V H P) (id : Nat) (r : Registry H P) :
    Except DbError (Session H P) × V → Except DbError Unit × Registry H P × V
  | (.ok s, v) => op.onceMade.perform b d (r.set id s, v)
  | (.error e, v) => (.error e, r, v)

/-- the handles of the sessions that an operation takes down -/
def takenDown (r : Registry H P) : Operation V H P → List H
  | teardown id => (r.handle? id).toList
  | clear => r.handles
  | _ => []

end Operation

/-- the registry and the world after operations, one after the other, each with an order of its own -/
def after [Reporting V] (b : Backend V H P) :
    (Nat → Drain H P) → List (Operation V H P) → Registry H P × V → Registry H P × V
  | _, [], p => p
  | drains, op :: ops, p => after b (fun n => drains (n + 1)) ops (op.perform b (drains 0) p).2

section

variable [Reporting V] {id : Nat} {p : Registry H P × V}

/-! ## Making sessions -/

theorem ensure_of_some {s : Session H P} (h : p.1.get? id = some s) (make : Task V (Session H P)) :
    ensure id make p = (.ok false, p) := by
  simp only [ensure, h]

/-- a session is made in the world to which its making was reported, and then registered -/
theorem ensure_of_none (h : p.1.get? id = none) (make : Task V (Session H P)) :
    ensure id make p = match make (Reporting.emit (created id) p.2) with
      | (.ok s, v) => (.ok true, p.1.set id s, v)
      | (.error e, v) => (.error e, p.1, v) := by
  have hreport : report (created id) p = (.ok (), p.1, Reporting.emit (created id) p.2) := rfl
  simp only [ensure, h, Task.bind_eq, hreport, Task.lift, Task.within]
  rcases make (Reporting.emit (created id) p.2) with ⟨e | s, v⟩
  · rfl
  · rfl

variable {op : Operation V H P} {make : Task V (Session H P)} (b : Backend V H P) (d : Drain H P)

theorem sessionFor_eq (b : Backend V H P) (id : Nat) (dbName : String) (make : Task V (Session H P))
    (p : Registry H P × V) :
    (sessionFor b id dbName make).dropAnswer p = match ensure id make p with
      | (.ok _, q) => (onSession id (Session.setDb b dbName)).dropAnswer q
      | (.error e, q) => (.error e, q) := by
  simp only [Task.dropAnswer_eq, sessionFor, Task.bind_eq]
  rcases ensure id make p with ⟨e | made, q⟩
  · rfl
  · dsimp only
    rcases onSession id (Session.setDb b dbName) q with ⟨e | _, q'⟩
    · rfl
    · rfl

/-- with a session there, the make function is not run: whatever it is, only the rest is done -/
theorem Operation.perform_found (hid : op.context? = some id) (hmake : op.make? = some make) {s : Session H P}
    (h : p.1.get? id = some s) : op.perform b d p = op.onceMade.perform b d p := by
  cases op with
  | getOrCreate id' make' =>
    cases hid
    simp only [perform, onceMade, Task.dropAnswer_eq, ensure_of_some h]
    rfl
  | sessionFor id' dbName make' =>
    cases hid
    simp only [perform, onceMade, sessionFor_eq, ensure_of_some h]
    rfl
  | _ => cases hmake

/-- without a session, the make function is run once, before anything else is done -/
theorem Operation.perform_made (hid : op.context? = some id) (hmake : op.make? = some make)
    (h : p.1.get? id = none) :
    op.perform b d p = op.onwards b d id p.1 (make (Reporting.emit (created id) p.2)) := by
  cases op with
  | getOrCreate id' make' =>
    cases hid
    cases hmake
    simp only [perform, Task.dropAnswer_eq, ensure_of_none h]
    rcases make (Reporting.emit (created id) p.2) with ⟨e | s, v⟩
    · rfl
    · rfl
  | sessionFor id' dbName make' =>
    cases hid
    cases hmake
    simp only [perform, sessionFor_eq, ensure_of_none h]
    rcases make (Reporting.emit (created id) p.2) with ⟨e | s, v⟩
    · rfl
    · rfl
  | _ => cases hmake

end

/-! ## Other contexts -/

theorem get?_set_self (r : Registry H P) (id : Nat) (s : Session H P) : (r.set id s).get? id = some s :=
  find_put_self id s r.sessions

/-- a change at one context: no other session is touched, and no context gets a second one -/
structure Local (id : Nat) (r r' : Registry H P) : Prop where
  elsewhere : ∀ {j}, j ≠ id → r'.get? j = r.get? j
  keyed : r.Keyed → r'.Keyed

theorem Local.stepwise (id : Nat) : Stepwise fun p q : Registry H P × V => Local id p.1 q.1 where
  refl _ := ⟨fun _ => rfl, fun h => h⟩
  trans first second :=
    ⟨fun hj => (second.elsewhere hj).trans (first.elsewhere hj), fun h => second.keyed (first.keyed h)⟩

theorem local_set (r : Registry H P) (id : Nat) (s : Session H P) : Local id r (r.set id s) :=
  ⟨fun hj => find_put_of_ne s r.sessions hj, fun h => h.set id s⟩

theorem local_drop (r : Registry H P) (id : Nat) : Local id r ⟨drop id r.sessions⟩ :=
  ⟨fun hj => find_drop_of_ne r.sessions hj, fun h => h.drop id⟩

section

variable [Reporting V] (id : Nat)

theorem ensure_local (make : Task V (Session H P)) :
    (ensure id make).Respects fun p q => Local id p.1 q.1 := by
  intro p
  cases h : p.1.get? id with
  | some s =>
    rw [ensure_of_some h]
    exact (Local.stepwise id).refl p
  | none =>
    rw [ensure_of_none h]
    rcases make (Reporting.emit (created id) p.2) with ⟨e | s, v⟩
    · exact (Local.stepwise (V := V) id).refl (p.1, v)
    · exact local_set p.1 id s

omit [Reporting V] in
theorem onSession_local {α : Type} (action : Task (Session H P × V) α) :
    (onSession id action).Respects fun p q => Local id p.1 q.1 := by
  intro p
  unfold onSession
  cases p.1.get? id with
  | none => exact (Local.stepwise id).refl p
  | some s => exact local_set p.1 id _

theorem sessionFor_local (b : Backend V H P) (dbName : String) (make : Task V (Session H P)) :
    (sessionFor b id dbName make).Respects fun p q => Local id p.1 q.1 :=
  (ensure_local id make).bind (Local.stepwise id) fun made =>
    (onSession_local id _).bind (Local.stepwise id) fun _ => Task.respects_pure (Local.stepwise id) made

theorem teardown_local (b : Backend V H P) : (teardown b id).Respects fun p q => Local id p.1 q.1 := by
  intro p
  unfold teardown
  cases p.1.get? id with
  | none => exact (Local.stepwise id).refl p
  | some s => exact local_drop p.1 id

/-- an operation on one context leaves the sessions of all others -/
theorem Operation.perform_local (b : Backend V H P) (d : Drain H P) {op : Operation V H P} (hid : op.context? = some id) :
    (op.perform b d).Respects fun p q => Local id p.1 q.1 := by
  have hstep := Local.stepwise (V := V) (H := H) (P := P) id
  have hdrop : ∀ {α : Type} {t : Task (Registry H P × V) α}, (t.Respects fun p q => Local id p.1 q.1) →
      t.dropAnswer.Respects fun p q => Local id p.1 q.1 := fun ht =>
    ht.bind hstep fun _ => Task.respects_pure hstep ()
  cases op with
  | clear => cases hid
  | getOrCreate id' make =>
    cases hid
    exact hdrop (ensure_local id make)
  | sessionFor id' dbName make =>
    cases hid
    exact hdrop (sessionFor_local id b dbName make)
  | get id' => exact hdrop (Task.respects_read hstep _)
  | within id' op =>
    cases hid
    exact hdrop (onSession_local id _)
  | insert id' s =>
    cases hid
    exact hdrop fun p => local_set p.1 id s
  | remove id' =>
    cases hid
    exact hdrop fun p => local_drop p.1 id
  | teardown id' =>
    cases hid
    exact hdrop (teardown_local id b)

end

/-! ## Taking sessions down -/

section

variable [Reporting V] (b : Backend V H P) (d : Drain H P)

/-- the handles of the sessions that are taken down are let go of, in some order, and nothing else happens to the
world -/
theorem Operation.perform_world {op : Operation V H P} (hop : op = .clear ∨ ∃ id, op = .teardown id)
    (p : Registry H P × V) :
    ∃ hs, hs.Perm (op.takenDown p.1) ∧ (op.perform b d p).2.2 = b.letGoAll hs p.2 := by
  rcases hop with rfl | ⟨id, rfl⟩
  · exact ⟨_, handles_perm d p.1, congrArg (·.2.2) (clearIn_eq d b p)⟩
  · refine ⟨_, .refl _, ?_⟩
    simp only [perform, Task.dropAnswer_eq, Registry.teardown, takenDown, handle?]
    cases p.1.get? id with
    | none => rfl
    | some s =>
      simp only [destroyed_eq, Option.bind_some]
      cases s.handle with
      | none => rfl
      | some h => rfl

/-- the sessions that are taken down are gone -/
theorem Operation.perform_gone {op : Operation V H P} {id : Nat} (hop : op = .clear ∨ op = .teardown id)
    {p : Registry H P × V} (hp : p.1.Keyed) : (op.perform b d p).2.1.get? id = none := by
  rcases hop with rfl | rfl
  · rfl
  · simp only [perform, Task.dropAnswer_eq, Registry.teardown]
    cases h : p.1.get? id with
    | none => exact h
    | some s => exact hp.find_drop id

end

end Registry

end FluentSql
