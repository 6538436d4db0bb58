import FluentSql.Entity.Operation
import FluentSql.Proofs.Mirror
/-!
What operations of an entity are made of. Every operation is its bare form under one and the same cover
(`Operation.perform_eq`): the database is closed again unless it was open before, and an error becomes a report and the
answer false. So what is shown of naming, opening, working and closing is shown of all operations.

Operations mirror one another as soon as calls do, and a watched operation is the plain one with its calls beside it
(`Operation.perform_observed`).
-/

namespace FluentSql.Entity

variable {V W H P α : Type} [Reporting W]

/-! ## The cover -/

/-- the database is closed unless the state before had it open -/
def leave (b : Backend W H P) (before after : Entity × Session H P × W) : Entity × Session H P × W :=
  if isEntered b before then after else (after.1, after.2.1, Session.closeOpen b after.2)

/-- what becomes of work that answers or fails: it is left, and an error is reported and answered by false -/
def covered (b : Backend W H P) (label : String) (before : Entity × Session H P × W) :
    Except DbError Bool × Entity × Session H P × W → Except DbError Bool × Entity × Session H P × W
  | (.ok answer, after) => (.ok answer, leave b before after)
  | (.error why, after) => (.ok false, Reporting.emit (failed after.1 label why) (leave b before after))

section

variable (b : Backend W H P)

omit [Reporting W] in
theorem leave_fst (before after : Entity × Session H P × W) : (leave b before after).1 = after.1 := by
  unfold leave
  split <;> rfl

omit [Reporting W] in
theorem leave_session (before after : Entity × Session H P × W) : (leave b before after).2.1 = after.2.1 := by
  unfold leave
  split <;> rfl

omit [Reporting W] in
/-- leaving looks at the session and the world only -/
theorem leave_entity (before after : Entity × Session H P × W) (e : Entity) :
    leave b before (e, after.2) = (e, (leave b before after).2) := by
  unfold leave
  split <;> rfl

theorem afterEntering_eq (action : Task (Entity × Session H P × W) α) (p : Entity × Session H P × W) :
    afterEntering b action p = match enter b p.1 p.2 with
      | (.ok _, q) => action (p.1, q)
      | (.error e, q) => (.error e, p.1, q) := by
  simp only [afterEntering, inSession, Task.bind_eq, Task.read, Task.lift, Task.within]
  rcases enter b p.1 p.2 with ⟨e | _, q⟩ <;> rfl

/-- work may look at the entity before or after the database is opened -/
theorem afterEntering_read (f : Entity → Task (Entity × Session H P × W) α) (p : Entity × Session H P × W) :
    afterEntering b (Task.read Prod.fst >>= f) p = afterEntering b (f p.1) p := by
  rw [afterEntering_eq, afterEntering_eq]
  rcases enter b p.1 p.2 with ⟨e | _, q⟩ <;> rfl

theorem afterEntering_bind {β : Type} (action : Task (Entity × Session H P × W) α)
    (next : α → Task (Entity × Session H P × W) β) (p : Entity × Session H P × W) :
    afterEntering b (action >>= next) p = (afterEntering b action >>= next) p := by
  rw [Task.bind_eq, afterEntering_eq, afterEntering_eq]
  rcases enter b p.1 p.2 with ⟨e | _, q⟩ <;> rfl

/-- work in the database leaves it in any case -/
theorem inDatabase_eq (action : Task (Entity × Session H P × W) α) (p : Entity × Session H P × W) :
    inDatabase b action p = ((afterEntering b action p).1, leave b p (afterEntering b action p).2) := by
  rw [afterEntering_eq]
  simp only [inDatabase, inSession, Task.bind_eq, Task.read, Task.attempt_eq, Task.lift, Task.within, leave]
  cases isEntered b p with
  | true =>
    rcases enter b p.1 p.2 with ⟨e | _, q⟩ <;>
      simp only [Bool.not_true, Bool.false_eq_true, if_false, if_true, Task.ofExcept_eq]
  | false =>
    rcases enter b p.1 p.2 with ⟨e | _, q⟩ <;>
      simp only [Bool.not_false, Bool.false_eq_true, if_true, if_false] <;>
      rw [Task.bind_eq] <;>
      exact Task.ofExcept_eq _ _

/-- reported work in the database: an error is reported once the database is left -/
theorem reported_inDatabase (label : String) (action : Task (Entity × Session H P × W) α)
    (p : Entity × Session H P × W) :
    reported label (inDatabase b action) p = match afterEntering b action p with
      | (.ok a, q) => (.ok (some a), leave b p q)
      | (.error why, q) => (.ok none, Reporting.emit (failed q.1 label why) (leave b p q)) := by
  rw [reported, Task.bind_eq, Task.attempt_eq, inDatabase_eq]
  rcases afterEntering b action p with ⟨why | a, q⟩
  · simp only [Task.bind_eq, Task.read, report, Task.change, Task.pure_eq, leave_fst]
  · rfl

/-- work whose answer is judged: it is judged inside the cover -/
theorem judged_eq (label : String) (action : Task (Entity × Session H P × W) α) (judge : Option α → Bool)
    (hnone : judge none = false) (p : Entity × Session H P × W) :
    (reported label (inDatabase b action) >>= fun x => pure (judge x)) p =
      covered b label p (afterEntering b (action >>= fun a => pure (judge (some a))) p) := by
  rw [afterEntering_bind, Task.bind_pure_eq, Task.bind_pure_eq, reported_inDatabase]
  rcases afterEntering b action p with ⟨why | a, q⟩
  · simp only [Except.map, hnone, covered]
  · rfl

/-- a unit of work is judged inside the cover -/
theorem runUnit_judged (label : String) (steps : Entity → List Step) (judge : Option Outcome → Bool)
    (hnone : judge none = false) (p : Entity × Session H P × W) :
    (runUnit b label steps >>= fun x => pure (judge x)) p =
      covered b label p (afterEntering b (judgeUnit b (fun o => judge (some o)) steps) p) := by
  have hread : runUnit b label steps p =
      reported label (inDatabase b (inSession (Session.runSteps b (steps p.1)))) p := rfl
  rw [judgeUnit, afterEntering_read, Task.bind_eq, hread, ← Task.bind_eq]
  exact judged_eq b label _ judge hnone p

/-- **Every operation is its bare form under the cover.** -/
theorem Operation.perform_eq (op : Operation) (p : Entity × Session H P × W) :
    op.perform b p = covered b op.label p (op.bare b p) := by
  have hnone : affectedAny none = false := rfl
  cases op with
  | createSchema dropFirst =>
    have hjudged := judged_eq b "create schema"
      (onSchema (if dropFirst then Session.createNewTable b else Session.createTable b)) (·.getD false) rfl p
    rw [afterEntering_bind, Task.bind_pure_eq (afterEntering b _)] at hjudged
    refine hjudged.trans ?_
    rw [bare, work, label]
    rcases afterEntering b _ p with ⟨why | answer, q⟩ <;> rfl
  | create r =>
    have hread := afterEntering_read b (fun e => do
      let id ← inSession (insertRow b e.table r)
      Task.change fun p => ({ p.1 with lastCreatedId := id }, p.2)
      pure (decide (0 < id))) p
    rw [bare, work, label, hread, afterEntering_bind, Task.bind_eq]
    simp only [perform, Entity.create, Task.bind_eq, Task.read, reported_inDatabase]
    rcases afterEntering b (inSession (insertRow b p.1.table r)) p with ⟨why | id, q⟩
    · rfl
    · simp only [Task.bind_eq, Task.change, Task.pure_eq, covered]
      rw [leave_entity b p q { q.1 with lastCreatedId := id }, leave_fst]
  | update id r => exact runUnit_judged b "update" _ affectedAny hnone p
  | delete id => exact runUnit_judged b "delete" _ affectedAny hnone p
  | deleteWhere field v => exact runUnit_judged b "delete" _ affectedAny hnone p
  | deleteMatching r =>
    simp only [perform, Entity.deleteMatching, bare, work, label]
    cases hr : r.isEmpty with
    | true => exact judged_eq b "delete" _ affectedAny hnone p
    | false => exact runUnit_judged b "delete" _ affectedAny hnone p
  | hasItems =>
    exact runUnit_judged b "has items" _ (fun x => (x.bind Outcome.records?).any fun rs => !rs.isEmpty) rfl p

end

/-! ## Units -/

/-- steps of one unit: a verb, and then no other -/
def OneUnit (steps : List Step) : Prop :=
  ∃ verb rest, steps = verb :: rest ∧ verb.isVerb = true ∧ ∀ step ∈ rest, step.isVerb = false

section

variable (b : Backend W H P)

theorem chainAll_cons (step : Step) (steps : List Step) :
    ((step :: steps).forM Session.chain : Task (Session H P × W) PUnit) =
      (Session.chain step >>= fun _ => steps.forM Session.chain) := rfl

/-- steps that are no verbs go to the unit on top -/
theorem chainAll_top {steps : List Step} (hsteps : ∀ step ∈ steps, step.isVerb = false) (u : WorkUnit)
    (s : Session H P) (w : W) :
    (steps.forM Session.chain : Task (Session H P × W) PUnit) ({ s with stack := u :: s.stack }, w) =
      (.ok (), { s with stack := steps.foldl WorkUnit.apply u :: s.stack }, w) := by
  induction steps generalizing u with
  | nil => rfl
  | cons step steps ih =>
    have hstep : (Session.chain step : Task (Session H P × W) Unit) ({ s with stack := u :: s.stack }, w) =
        (.ok (), { s with stack := u.apply step :: s.stack }, w) := by
      simp only [Session.chain, hsteps step List.mem_cons_self, Bool.false_eq_true, if_false]
      rfl
    rw [chainAll_cons, Task.bind_eq, hstep]
    exact ih (fun step hmem => hsteps step (List.mem_cons_of_mem _ hmem)) _

/-- the steps of one unit put it on the stack, and it is run from there -/
theorem runSteps_eq {steps : List Step} (hsteps : OneUnit steps) (s : Session H P) (w : W) :
    ∃ e, Session.runSteps b steps (s, w) =
      Session.run b ({ s with stack := WorkUnit.ofSteps steps :: s.stack }, Reporting.emit e w) := by
  obtain ⟨verb, rest, rfl, hverb, hrest⟩ := hsteps
  refine ⟨Session.pushed (WorkUnit.empty.apply verb) (s.pending + 1), ?_⟩
  have hpush : (Session.chain verb : Task (Session H P × W) Unit) (s, w) =
      (.ok (), { s with stack := WorkUnit.empty.apply verb :: s.stack },
        Reporting.emit (Session.pushed (WorkUnit.empty.apply verb) (s.pending + 1)) w) := by
    simp only [Session.chain, hverb, if_true]
    rfl
  rw [Session.runSteps, Task.bind_eq, chainAll_cons, Task.bind_eq, hpush]
  dsimp only
  rw [chainAll_top hrest]
  rfl

/-- the unit on top is taken off and runs on the handle -/
theorem popAndRun_top (h : H) (u : WorkUnit) (s : Session H P) (w : W) :
    ∃ e, Session.popAndRun b h ({ s with stack := u :: s.stack }, w) =
      ((u.run (b.channel h) (Reporting.emit e w)).1, s, (u.run (b.channel h) (Reporting.emit e w)).2) :=
  ⟨Session.popped u s.stack.length, rfl⟩

omit [Reporting W] in
theorem withHandle_of_open (action : H → Task (Session H P × W) α) {h : H} {s : Session H P} (hs : s.handle = some h)
    {w : W} (hw : b.isOpen h w = true) : Session.withHandle b action (s, w) = action h (s, w) := by
  unfold Session.withHandle
  rw [show ((s, w) : Session H P × W).1.handle = some h from hs]
  exact Task.whileOpen_of_open hw

/-- on an open handle the steps of one unit run it and leave the session as it was -/
theorem runSteps_of_open {steps : List Step} (hsteps : OneUnit steps) {h : H} {s : Session H P} (hs : s.handle = some h)
    {w : W} (hw : ∀ e, b.isOpen h (Reporting.emit e w) = true) :
    ∃ e e', Session.runSteps b steps (s, w) =
      (((WorkUnit.ofSteps steps).run (b.channel h) (Reporting.emit e (Reporting.emit e' w))).1, s,
        ((WorkUnit.ofSteps steps).run (b.channel h) (Reporting.emit e (Reporting.emit e' w))).2) := by
  obtain ⟨e', hpushed⟩ := runSteps_eq b hsteps s w
  obtain ⟨e, hpopped⟩ := popAndRun_top b h (WorkUnit.ofSteps steps) s (Reporting.emit e' w)
  refine ⟨e, e', ?_⟩
  rw [hpushed, ← hpopped, Session.run]
  exact withHandle_of_open b (Session.popAndRun b) (s := { s with stack := WorkUnit.ofSteps steps :: s.stack }) hs
    (hw e')

/-- inserting a row is running one unit and looking for the id in the outcome -/
theorem insertRow_eq (table : String) (r : Record) :
    insertRow b table r = (Session.runSteps b [.insert r, .intoTable table] >>= fun outcome =>
      match outcome.rowId? with
      | some id => pure id
      | none => Task.fail (.execution .rowIdMissing)) := rfl

theorem oneUnit_insert (table : String) (r : Record) : OneUnit [.insert r, .intoTable table] :=
  ⟨_, _, rfl, rfl, by simp [Step.isVerb]⟩

/-- a delete with conditions is one unit -/
theorem oneUnit_delete {steps : List Step} (table : String) (hsteps : ∀ step ∈ steps, step.isVerb = false) :
    OneUnit (.deleteFrom table :: steps) := ⟨_, _, rfl, rfl, hsteps⟩

theorem isVerb_of_mem_matchSteps {cells : List (String × Value)} {step : Step} (hstep : step ∈ matchSteps cells) :
    step.isVerb = false := by
  obtain ⟨cell, -, hcell⟩ := List.mem_flatMap.1 hstep
  simp only [List.mem_cons, List.not_mem_nil, or_false] at hcell
  rcases hcell with rfl | rfl <;> rfl

end

/-! ## Mirrors -/

section

variable [Reporting V] {view : V → W} {b : Backend V H P} {d : Backend W H P} (hb : b.Mirrors view d)

/-- the entity and the session as they are, and the view of the world -/
abbrev through (view : V → W) : Entity × Session H P × V → Entity × Session H P × W := Prod.map id (Session.through view)

omit [Reporting V] [Reporting W] in
theorem onSchema_mirrors {t : Task (Table × Session H P × V) α} {u : Task (Table × Session H P × W) α}
    (ht : t.Mirrors (Prod.map id (Session.through view)) u) : (onSchema t).Mirrors (through view) (onSchema u) := by
  intro p
  have h := ht (p.1.schema, p.2)
  simp only [Prod.map, id] at h
  simp only [onSchema, Task.within, through, Prod.map, id, h]

include hb

theorem enter_mirrors (e : Entity) : (enter b e).Mirrors (Session.through view) (enter d e) :=
  (Session.setDb_mirrors hb e.dbName).bind fun _ => Session.openDb_mirrors hb

theorem afterEntering_mirrors {t : Task (Entity × Session H P × V) α} {u : Task (Entity × Session H P × W) α}
    (ht : t.Mirrors (through view) u) : (afterEntering b t).Mirrors (through view) (afterEntering d u) :=
  (Task.mirrors_read fun _ => rfl).bind fun e => (enter_mirrors hb e).lift.bind fun _ => ht

theorem chainAll_mirrors (steps : List Step) :
    (steps.forM Session.chain : Task (Session H P × V) PUnit).Mirrors (Session.through view)
      (steps.forM Session.chain) := by
  induction steps with
  | nil => exact Task.mirrors_pure _
  | cons step steps ih => exact (Session.chain_mirrors hb step).bind fun _ => ih

theorem runSteps_mirrors (steps : List Step) :
    (Session.runSteps b steps).Mirrors (Session.through view) (Session.runSteps d steps) :=
  (chainAll_mirrors hb steps).bind fun _ => Session.run_mirrors hb

theorem judgeUnit_mirrors (judge : Outcome → Bool) (steps : Entity → List Step) :
    (judgeUnit b judge steps).Mirrors (through view) (judgeUnit d judge steps) :=
  (Task.mirrors_read fun _ => rfl).bind fun e =>
    (runSteps_mirrors hb (steps e)).lift.bind fun _ => Task.mirrors_pure _

theorem insertRow_mirrors (table : String) (r : Record) :
    (insertRow b table r).Mirrors (Session.through view) (insertRow d table r) := by
  refine (Session.chain_mirrors hb _).bind fun _ => (Session.chain_mirrors hb _).bind fun _ =>
    (Session.run_mirrors hb).bind fun outcome => ?_
  cases outcome.rowId? with
  | some id => exact Task.mirrors_pure id
  | none => exact Task.mirrors_fail _

theorem Operation.work_mirrors (op : Operation) : (op.work b).Mirrors (through view) (op.work d) := by
  cases op with
  | createSchema dropFirst =>
    refine onSchema_mirrors ?_
    cases dropFirst with
    | true => exact Session.createNewTable_mirrors hb
    | false => exact Session.createTable_mirrors hb
  | create r =>
    refine (Task.mirrors_read fun _ => rfl).bind fun e => (insertRow_mirrors hb e.table r).lift.bind fun id => ?_
    have hremember : (Task.change fun p : Entity × Session H P × V => ({ p.1 with lastCreatedId := id }, p.2)).Mirrors
        (through view) (Task.change fun p => ({ p.1 with lastCreatedId := id }, p.2)) :=
      Task.mirrors_change fun _ => rfl
    exact hremember.bind fun _ => Task.mirrors_pure _
  | update id r => exact judgeUnit_mirrors hb _ _
  | delete id => exact judgeUnit_mirrors hb _ _
  | deleteWhere field v => exact judgeUnit_mirrors hb _ _
  | deleteMatching r =>
    simp only [work]
    split
    · exact Task.mirrors_fail _
    · exact judgeUnit_mirrors hb _ _
  | hasItems => exact judgeUnit_mirrors hb _ _

theorem Operation.bare_mirrors (op : Operation) : (op.bare b).Mirrors (through view) (op.bare d) :=
  afterEntering_mirrors hb (op.work_mirrors hb)

theorem leave_mirrors (before after : Entity × Session H P × V) :
    leave d (through view before) (through view after) = through view (leave b before after) := by
  have hisOpen : isEntered d (through view before) = isEntered b before := by
    simp only [isEntered, Session.isOpen, through, Session.through, Prod.map, id, hb.isOpen]
  simp only [leave, hisOpen]
  split
  · rfl
  · exact Prod.ext rfl (Prod.ext rfl (Session.closeOpen_mirrors hb after.2))

/-- **Operations mirror one another as soon as calls do.** -/
theorem Operation.perform_mirrors (op : Operation) : (op.perform b).Mirrors (through view) (op.perform d) := by
  intro p
  rw [perform_eq, perform_eq, op.bare_mirrors hb p]
  rcases op.bare b p with ⟨why | answer, q⟩
  · have hreport := Session.reports_through hb (failed q.1 op.label why) (leave b p q).2
    simp only [covered]
    rw [leave_mirrors hb]
    exact Prod.ext rfl (Prod.ext rfl hreport)
  · simp only [covered]
    rw [leave_mirrors hb]

end

/-! ## Watching -/

/-- the calls of an operation, as a watcher sees them -/
def Operation.calls (b : Backend W H P) (op : Operation) (p : Entity × Session H P × W) : List (Sighting H P) :=
  (op.perform b.observed (p.1, p.2.1, [], p.2.2)).2.2.2.1

/-- **Watching an operation changes nothing.** -/
theorem Operation.perform_observed (b : Backend W H P) (op : Operation) (e : Entity) (s : Session H P) (w : W) :
    op.perform b.observed (e, s, [], w) =
      ((op.perform b (e, s, w)).1, (op.perform b (e, s, w)).2.1, (op.perform b (e, s, w)).2.2.1,
        op.calls b (e, s, w), (op.perform b (e, s, w)).2.2.2) := by
  have h : op.perform b (e, s, w) = _ := op.perform_mirrors b.observed_mirrors (e, s, [], w)
  rw [h]
  rfl

end FluentSql.Entity
