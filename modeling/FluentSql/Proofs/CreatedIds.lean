import FluentSql.Proofs.EntityOperations
import FluentSql.Proofs.HostConduct
import FluentSql.Proofs.Errands
/-!
Which row id an entity remembers. A create puts one row into the open database of the entity (`Operation.row?` is the
id that the handle answered). If there is an id it is remembered, whatever its sign, and the create answers whether it is
positive; if there is none, because anything on the way failed, nothing is remembered and the answer is false. All
other operations leave the id alone.

Main result: `remembered_ids`, over every history of operations on sessions and worlds of any kind.
-/

namespace FluentSql.Entity

variable {W H P α : Type} [Reporting W] (b : Backend W H P)

/-! ## The row of a create -/

/-- puts a row into a table of a handle, which is opened for it if it is closed, while some units wait -/
def putRow (h : H) (table : String) (r : Record) (waiting : Nat) : Task W Int64 := do
  report (Session.pushed (WorkUnit.ofSteps [.insert r]) (waiting + 1))
  Session.ready b h
  report (Session.popped (WorkUnit.ofSteps [.insert r, .intoTable table]) waiting)
  Task.ofExcept (requireTable .insert table)
  (b.channel h).insert table (.ofList r.cells)

/-- the id of the row that an operation made, as the handle answered it -/
def Operation.row? : Operation → Entity × Session H P × W → Option Int64
  | .create r, p =>
    match enter b p.1 p.2 with
    | (.ok _, s, w) => s.handle.bind fun h => (putRow b h p.1.table r s.pending w).1.toOption
    | (.error _, _) => none
  | _, _ => none

/-- the unit of an insert checks that there is a table and inserts one row -/
theorem insertUnit_run (c : Channel W) (table : String) (r : Record) :
    (WorkUnit.ofSteps [.insert r, .intoTable table]).run c = (do
      Task.ofExcept (requireTable .insert table)
      let id ← c.insert table (.ofList r.cells)
      pure (.rowId id)) := by
  funext w
  have hunit : (WorkUnit.ofSteps [.insert r, .intoTable table]).run c = (do
      let ids ← Insert.run c ⟨table, .ofList r.cells, none⟩
      pure (WorkUnit.shapeIds false ids)) := rfl
  rw [hunit]
  simp only [Task.bind_eq, Insert.run, Insert.validate, Insert.execute, Task.ofExcept_eq]
  rcases requireTable .insert table with e | _
  · rfl
  · dsimp only
    rcases c.insert table (.ofList r.cells) w with ⟨e | id, w'⟩ <;> rfl

/-- the steps of an insert answer the id that the handle answers -/
theorem insertSteps_answer (table : String) (r : Record) {s : Session H P} {h : H} (hs : s.handle = some h) (w : W) :
    (Session.runSteps b [.insert r, .intoTable table] (s, w)).1 =
      (putRow b h table r s.pending w).1.map Outcome.rowId := by
  have hrun : Session.runSteps b [.insert r, .intoTable table] (s, w) =
      Session.whileOpen b h (Session.popAndRun b h)
        ({ s with stack := WorkUnit.ofSteps [.insert r, .intoTable table] :: s.stack },
          Reporting.emit (Session.pushed (WorkUnit.ofSteps [.insert r]) (s.pending + 1)) w) := by
    have hbound : ∀ v, Session.run b ({ s with stack := WorkUnit.ofSteps [.insert r, .intoTable table] :: s.stack }, v) =
        Session.whileOpen b h (Session.popAndRun b h)
          ({ s with stack := WorkUnit.ofSteps [.insert r, .intoTable table] :: s.stack }, v) := fun v => by
      simp only [Session.run, Session.withHandle, hs]
    exact hbound _
  have htop : ∀ v, (Session.popAndRun b h
      ({ s with stack := WorkUnit.ofSteps [.insert r, .intoTable table] :: s.stack }, v)).1 =
        ((WorkUnit.ofSteps [.insert r, .intoTable table]).run (b.channel h) (Reporting.emit
          (Session.popped (WorkUnit.ofSteps [.insert r, .intoTable table]) s.pending) v)).1 := fun _ => rfl
  rw [hrun, Session.whileOpen_answer, putRow]
  simp only [Task.bind_eq, Task.lift, Task.within, report, Task.change]
  rcases Session.ready b h _ with ⟨e | _, v⟩
  · rfl
  · dsimp only
    rw [htop, insertUnit_run]
    simp only [Task.bind_eq, Task.ofExcept_eq]
    rcases requireTable .insert table with e | _
    · rfl
    · dsimp only
      rcases (b.channel h).insert table (.ofList r.cells) _ with ⟨e | id, v'⟩ <;> rfl

/-- inserting a row answers an id exactly if there is a handle that answers one -/
theorem insertRow_answer (table : String) (r : Record) (s : Session H P) (w : W) :
    (insertRow b table r (s, w)).1.toOption =
      s.handle.bind fun h => (putRow b h table r s.pending w).1.toOption := by
  rw [insertRow_eq, Task.bind_eq]
  cases hs : s.handle with
  | none =>
    have hunbound : (Session.runSteps b [.insert r, .intoTable table] (s, w)).1 = .error .noDatabaseBound := by
      obtain ⟨e, hrun⟩ := runSteps_eq b (oneUnit_insert table r) s w
      exact congrArg Prod.fst (hrun.trans (Session.run_of_unbound b _ _ (List.cons_ne_nil _ _) hs))
    rcases hsteps : Session.runSteps b [.insert r, .intoTable table] (s, w) with ⟨x, q⟩
    rw [hsteps] at hunbound
    subst hunbound
    rfl
  | some h =>
    have hanswer := insertSteps_answer b table r hs w
    rcases hsteps : Session.runSteps b [.insert r, .intoTable table] (s, w) with ⟨x, q⟩
    rw [hsteps] at hanswer
    subst hanswer
    simp only [Option.bind]
    rcases (putRow b h table r s.pending w).1 with e | id <;> rfl

/-! ## One operation -/

/-- a create remembers the id of its row and answers whether it is positive; without a row it remembers nothing and
answers false -/
theorem create_remembers (r : Record) (p : Entity × Session H P × W) :
    ((Operation.create r).perform b p).1 = .ok (((Operation.create r).row? b p).any (0 < ·)) ∧
      ((Operation.create r).perform b p).2.1.lastCreatedId =
        ((Operation.create r).row? b p).getD p.1.lastCreatedId := by
  obtain ⟨e, s, w⟩ := p
  simp only [Operation.perform, Entity.create, Task.bind_eq, Task.read, reported_inDatabase, afterEntering_eq,
    Operation.row?]
  rcases enter b e (s, w) with ⟨why | _, s', w'⟩
  · exact ⟨rfl, congrArg Entity.lastCreatedId (leave_fst b _ _)⟩
  · have hanswer := insertRow_answer b e.table r s' w'
    simp only [inSession, Task.lift, Task.within]
    rw [← hanswer]
    rcases insertRow b e.table r (s', w') with ⟨why | id, q⟩
    · exact ⟨rfl, congrArg Entity.lastCreatedId (leave_fst b _ _)⟩
    · exact ⟨rfl, rfl⟩

/-- the remembered id is the same before and after -/
def Remembers (p q : Entity × Session H P × W) : Prop := q.1.lastCreatedId = p.1.lastCreatedId

omit [Reporting W] in
theorem inSession_remembers (t : Task (Session H P × W) α) : (inSession t).Respects Remembers := fun _ => rfl

omit [Reporting W] in
theorem onSchema_remembers (t : Task (Table × Session H P × W) α) : (onSchema t).Respects Remembers := fun _ => rfl

omit [Reporting W] in
theorem Remembers.stepwise : Stepwise (Remembers (W := W) (H := H) (P := P)) where
  refl _ := rfl
  trans first second := second.trans first

theorem judgeUnit_remembers (judge : Outcome → Bool) (steps : Entity → List Step) :
    (judgeUnit b judge steps).Respects Remembers :=
  (Task.respects_read Remembers.stepwise _).bind Remembers.stepwise fun _ =>
    (inSession_remembers _).bind Remembers.stepwise fun _ => Task.respects_pure Remembers.stepwise _

theorem work_remembers {op : Operation} (hop : ∀ r, op ≠ .create r) : (op.work b).Respects Remembers := by
  cases op with
  | createSchema dropFirst => exact onSchema_remembers _
  | create r => exact absurd rfl (hop r)
  | update id r => exact judgeUnit_remembers b _ _
  | delete id => exact judgeUnit_remembers b _ _
  | deleteWhere field v => exact judgeUnit_remembers b _ _
  | deleteMatching r =>
    simp only [Operation.work]
    split
    · exact Task.respects_fail Remembers.stepwise _
    · exact judgeUnit_remembers b _ _
  | hasItems => exact judgeUnit_remembers b _ _

/-- an operation that creates nothing leaves the remembered id alone, whatever it answers -/
theorem perform_remembers {op : Operation} (hop : ∀ r, op ≠ .create r) : (op.perform b).Respects Remembers := by
  intro p
  have hbare : (op.bare b).Respects Remembers :=
    (Task.respects_read Remembers.stepwise _).bind Remembers.stepwise fun _ =>
      (inSession_remembers _).bind Remembers.stepwise fun _ => work_remembers b hop
  have hkept : (op.bare b p).2.1.lastCreatedId = p.1.lastCreatedId := hbare p
  rw [Operation.perform_eq]
  rcases hrun : op.bare b p with ⟨why | answer, q⟩ <;> rw [hrun] at hkept
  · exact (congrArg Entity.lastCreatedId (leave_fst b p q)).trans hkept
  · exact (congrArg Entity.lastCreatedId (leave_fst b p q)).trans hkept

/-- **One step.** An operation that made a row leaves its id behind, and any other the id that was there. -/
theorem Operation.perform_lastCreatedId (op : Operation) (p : Entity × Session H P × W) :
    (op.perform b p).2.1.lastCreatedId = (op.row? b p).getD p.1.lastCreatedId := by
  cases op with
  | create r => exact (create_remembers b r p).2
  | createSchema dropFirst => exact perform_remembers b (by simp) p
  | update id r => exact perform_remembers b (by simp) p
  | delete id => exact perform_remembers b (by simp) p
  | deleteWhere field v => exact perform_remembers b (by simp) p
  | deleteMatching r => exact perform_remembers b (by simp) p
  | hasItems => exact perform_remembers b (by simp) p

/-! ## Histories -/

/-- an operation on some session in some world -/
structure Visit (W H P : Type) where
  op : Operation
  session : Session H P
  world : W

/-- an entity after one visit -/
def visit (e : Entity) (v : Visit W H P) : Entity := (v.op.perform b (e, v.session, v.world)).2.1

/-- an entity after visits, one after the other -/
def visited (visits : List (Visit W H P)) (e : Entity) : Entity := visits.foldl (visit b) e

/-- the ids of the rows that visits made, in order -/
def rowsOf : List (Visit W H P) → Entity → List Int64
  | [], _ => []
  | v :: visits, e => (v.op.row? b (e, v.session, v.world)).toList ++ rowsOf visits (visit b e v)

theorem visited_lastCreatedId (visits : List (Visit W H P)) (e : Entity) :
    (visited b visits e).lastCreatedId = (rowsOf b visits e).getLastD e.lastCreatedId := by
  induction visits generalizing e with
  | nil => rfl
  | cons v visits ih =>
    have hstep : (visit b e v).lastCreatedId = _ := v.op.perform_lastCreatedId b (e, v.session, v.world)
    refine (ih (visit b e v)).trans ?_
    rw [hstep, rowsOf]
    cases v.op.row? b (e, v.session, v.world) with
    | none => rfl
    | some id => exact (List.getLastD_cons ..).symm

/-- **The id that is remembered** after any operations, on any sessions and in any worlds, is that of the row made last,
whatever its sign, and zero before the first. A create made a row exactly if the database of the entity opened and its
handle answered the insert with an id, and the create answers whether that id is positive. -/
theorem remembered_ids (visits : List (Visit W H P)) (dbName : String) (schema : Table) :
    (visited b visits (ofTable dbName schema)).lastCreatedId = (rowsOf b visits (ofTable dbName schema)).getLastD 0 ∧
    ∀ r s w, ((Operation.create r).perform b (visited b visits (ofTable dbName schema), s, w)).1 =
      .ok (((Operation.create r).row? b (visited b visits (ofTable dbName schema), s, w)).any (0 < ·)) :=
  ⟨visited_lastCreatedId b visits (ofTable dbName schema), fun r _ _ => (create_remembers b r _).1⟩

/-! ## An id that is not positive -/

/-- a world in which the first insert gives the row an id below zero -/
def belowZero : Host := Host.rehearsing "main.db" { Rehearsal.Script.standard with inserts := [.answer (-1)] }

/-- a create that answered false, and no other one before it, and yet its id is remembered -/
theorem remembered_below_zero :
    ((Operation.create (.ofList [("a", .integer 1)])).perform Host.backend
      (ofTable "main.db" (Table.named "t"), Session.ofHandle Host.backend (Host.first "main.db"), belowZero)).1 =
        .ok false ∧
    (visited Host.backend [⟨.create (.ofList [("a", .integer 1)]),
      Session.ofHandle Host.backend (Host.first "main.db"), belowZero⟩]
        (ofTable "main.db" (Table.named "t"))).lastCreatedId = -1 :=
  ⟨rfl, rfl⟩

end FluentSql.Entity
