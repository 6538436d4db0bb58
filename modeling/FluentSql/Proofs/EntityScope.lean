import FluentSql.Proofs.Heeding
import FluentSql.Proofs.HostConduct
import FluentSql.Proofs.Naming
/-!
What an entity operation leaves of the session. It names and opens its database, works there, and closes it again unless
it found it open; in between a unit of its own is on the stack.

Any call may be refused. Of the world it is assumed that the flag of a handle follows the calls on it (`FlagLaws`), and
that handles which were given out stay given out and keep their flags while other handles are opened and closed
(`GivesOut`).

Structure of the proof:
* `enter_pointed`, `enter_dbName`, `enter_opens`: naming and opening, which touches no unit and closes nothing open
* `Operation.work_settled`: the work in an open database, after which the session is as before
* `leave_isOpen`: leaving, which closes unless the session was open in the database
* `Operation.false_of_refused` (in `Heeding`): a refused call is answered by false

Main result: `operation_restores`.
-/

namespace FluentSql

variable {W H P α : Type} [Reporting W]

/-! ## Naming and opening -/

namespace Session

/-- the bound handle, if any, is one that the world gave out -/
def Bound (known : H → W → Prop) (p : Session H P × W) : Prop := ∀ h, p.1.handle = some h → known h p.2

/-- the units and the version stay, and as long as the world gave the handle out, an open session stays open -/
structure Pointed (b : Backend W H P) (known : H → W → Prop) (p q : Session H P × W) : Prop where
  stack : q.1.stack = p.1.stack
  version : q.1.dbVersion = p.1.dbVersion
  bound : Bound known p → Bound known q ∧ (isOpen b p = true → isOpen b q = true)

section

variable {b : Backend W H P} {known : H → W → Prop}

omit [Reporting W] in
theorem Pointed.stepwise (b : Backend W H P) (known : H → W → Prop) : Stepwise (Pointed b known) where
  refl p := ⟨rfl, rfl, fun hp => ⟨hp, id⟩⟩
  trans first second := by
    refine ⟨second.stack.trans first.stack, second.version.trans first.version, fun hp => ?_⟩
    obtain ⟨hq, hpq⟩ := first.bound hp
    obtain ⟨hr, hqr⟩ := second.bound hq
    exact ⟨hr, fun ho => hqr (hpq ho)⟩

omit [Reporting W] in
theorem isOpen_bound {s : Session H P} {h : H} (hs : s.handle = some h) (w : W) : isOpen b (s, w) = b.isOpen h w := by
  simp [isOpen, hs]

omit [Reporting W] in
theorem isOpen_unbound {s : Session H P} (hs : s.handle = none) (w : W) : isOpen b (s, w) = false := by
  simp [isOpen, hs]

omit [Reporting W] in
/-- a change of the world that keeps the bound handle given out, and open if it was -/
theorem pointed_world {s : Session H P} {w w' : W}
    (hw : ∀ h, s.handle = some h → known h w → known h w' ∧ (b.isOpen h w = true → b.isOpen h w' = true)) :
    Pointed b known (s, w) (s, w') := by
  refine ⟨rfl, rfl, fun hp => ⟨fun h hs => (hw h hs (hp h hs)).1, fun ho => ?_⟩⟩
  cases hs : s.handle with
  | none =>
    rw [isOpen_unbound hs] at ho
    cases ho
  | some h =>
    rw [isOpen_bound hs] at ho ⊢
    exact (hw h hs (hp h hs)).2 ho

/-- opening the bound handle leaves it open if it was, whether it answers or not -/
theorem openHandle_stays {h : H} (hflag : b.FlagLaws h) {w : W} (ho : b.isOpen h w = true) :
    b.isOpen h (b.openHandle h w).2 = true := by
  rcases hopen : b.openHandle h w with ⟨e | _, w'⟩
  · exact (hflag.refused hopen).trans ho
  · exact hflag.opened hopen

theorem points_pointed (hflag : ∀ h, b.FlagLaws h) (hout : b.GivesOut known) : Points b (Pointed b known) where
  stepwise := Pointed.stepwise b known
  opening h s w hs := by
    refine pointed_world fun g hg hknown => ⟨?_, ?_⟩
    · rw [← Option.some.inj (hs.symm.trans hg)] at hknown ⊢
      exact hout.opening hknown
    · rw [← Option.some.inj (hs.symm.trans hg)]
      exact openHandle_stays (hflag h)
  report e s w := pointed_world fun g _ hknown => ⟨hout.report hknown, fun ho => ((hflag g).report e w).trans ho⟩
  refused provider name o s w e w' hopen := pointed_world fun g _ hknown => by
    obtain ⟨hstill, hsame⟩ := hout.refused hopen hknown
    exact ⟨hstill, fun ho => hsame.trans ho⟩
  rebinding provider name o s w g w' hopen := by
    refine ⟨rfl, rfl, fun hp => ?_⟩
    -- the new handle is open, whatever becomes of the old one
    have hnew : known g (rebind b name g (s, w')).2 ∧ b.isOpen g (rebind b name g (s, w')).2 = true := by
      unfold rebind
      cases hs : s.handle with
      | none => exact hout.provided hopen
      | some old => exact hout.apart hopen (hp old hs)
    refine ⟨fun h hh => ?_, fun _ => hnew.2⟩
    rw [← Option.some.inj hh]
    exact hnew.1

/-! ## The name -/

omit [Reporting W] in
/-- opening by name takes no other name -/
theorem createOrOpen_dbName (b : Backend W H P) {name : String} (hooks : Hooks) {p : Session H P × W}
    (hp : p.1.dbName = some name) : (createOrOpen b name hooks p).2.1.dbName = some name := by
  rcases createOrOpen_cases b name hooks p.1 p.2 with
    ⟨-, hrun⟩ | ⟨provider, -, ⟨e, w', -, hrun⟩ | ⟨h, w', -, hrun⟩⟩
  · rw [hrun]
    exact hp
  · rw [hrun]
    exact hp
  · rw [hrun]
    rfl

theorem setDb_dbName (b : Backend W H P) (name : String) (p : Session H P × W) :
    (setDb b name p).2.1.dbName = some name := by
  rcases setDb_cases b name p.1 p.2 with ⟨-, hrun⟩ | ⟨h, -, -, hrun⟩
  · rw [hrun]
  · rw [hrun]
    exact createOrOpen_dbName b Hooks.none rfl

/-! ## Opening -/

omit [Reporting W] in
theorem openDb_dbName (b : Backend W H P) {name : String} {p : Session H P × W} (hp : p.1.dbName = some name) :
    (openDb b p).2.1.dbName = some name := by
  rcases openDb_cases b p.1 p.2 with ⟨h, -, hrun⟩ | ⟨name', hname', hrun⟩ | hrun
  · rw [hrun]
    exact hp
  · rw [hrun, ← Option.some.inj (hname'.symm.trans hp)]
    exact createOrOpen_dbName b Hooks.none hname'
  · rw [hrun]
    exact hp

/-- a database that opens by name is bound and open -/
theorem createOrOpen_opens (hout : b.GivesOut known) {name : String} {hooks : Hooks} {p q : Session H P × W}
    (hp : Bound known p) (hopen : createOrOpen b name hooks p = (.ok (), q)) : isOpen b q = true := by
  rcases createOrOpen_cases b name hooks p.1 p.2 with
    ⟨-, hrun⟩ | ⟨provider, -, ⟨e, w', -, hrun⟩ | ⟨g, w', hopened, hrun⟩⟩
  · rw [hrun] at hopen
    cases hopen
  · rw [hrun] at hopen
    cases hopen
  · rw [hrun] at hopen
    cases hopen
    rw [rebind, isOpen_bound rfl]
    dsimp only
    cases hs : p.1.handle with
    | none => exact (hout.provided hopened).2
    | some old => exact (hout.apart hopened (hp old hs)).2

theorem openDb_opens (hflag : ∀ h, b.FlagLaws h) (hout : b.GivesOut known) {p q : Session H P × W}
    (hp : Bound known p) (hopen : openDb b p = (.ok (), q)) : isOpen b q = true := by
  rcases openDb_cases b p.1 p.2 with ⟨h, hs, hrun⟩ | ⟨name, -, hrun⟩ | hrun
  · rw [hrun] at hopen
    rcases hhandle : b.openHandle h p.2 with ⟨e | _, w'⟩
    · rw [hhandle] at hopen
      cases hopen
    · rw [hhandle] at hopen
      cases hopen
      rw [isOpen_bound hs]
      exact (hflag h).opened hhandle
  · rw [hrun] at hopen
    exact createOrOpen_opens hout hp hopen
  · rw [hrun] at hopen
    cases hopen

end

end Session

namespace Entity

open Session

section

variable {b : Backend W H P} {known : H → W → Prop}

theorem setDb_pointed (hflag : ∀ h, b.FlagLaws h) (hout : b.GivesOut known) (name : String) :
    (setDb b name).Respects (Pointed b known) :=
  setDb_respects (points_pointed hflag hout) fun _ _ => ⟨rfl, rfl, fun hp => ⟨hp, id⟩⟩

theorem enter_pointed (hflag : ∀ h, b.FlagLaws h) (hout : b.GivesOut known) (e : Entity) :
    (enter b e).Respects (Pointed b known) :=
  (setDb_pointed hflag hout e.dbName).bind (Pointed.stepwise b known) fun _ =>
    openDb_respects (points_pointed hflag hout)

/-- the session takes the name of the database, whether it opens or not -/
theorem enter_dbName (b : Backend W H P) (e : Entity) (p : Session H P × W) :
    (enter b e p).2.1.dbName = some e.dbName := by
  have hname := setDb_dbName b e.dbName p
  rw [enter, Task.bind_eq]
  rcases hset : setDb b e.dbName p with ⟨why | _, q⟩
  · rw [hset] at hname
    exact hname
  · rw [hset] at hname
    exact openDb_dbName b hname

theorem enter_opens (hflag : ∀ h, b.FlagLaws h) (hout : b.GivesOut known) {e : Entity} {p q : Session H P × W}
    (hp : Bound known p) (henter : enter b e p = (.ok (), q)) : isOpen b q = true := by
  have hset := setDb_pointed hflag hout e.dbName p
  obtain ⟨_, r, hr, hopen⟩ := Task.bind_eq_ok_iff.1 henter
  rw [hr] at hset
  exact openDb_opens hflag hout (hset.bound hp).1 hopen

/-! ## Work -/

/-- an open session stays as it is, and open -/
def Settled (b : Backend W H P) (p q : Session H P × W) : Prop :=
  isOpen b p = true → q.1 = p.1 ∧ isOpen b q = true

omit [Reporting W] in
theorem Settled.stepwise (b : Backend W H P) : Stepwise (Settled b) where
  refl _ hp := ⟨rfl, hp⟩
  trans first second hp := by
    obtain ⟨hq, hopen⟩ := first hp
    obtain ⟨hr, hopen'⟩ := second hopen
    exact ⟨hr.trans hq, hopen'⟩

omit [Reporting W] in
/-- work on the session of an entity, whatever else the state has -/
theorem Settled.beside {V : Type} (b : Backend W H P) :
    Stepwise fun p q : V × Session H P × W => Settled b p.2 q.2 where
  refl p := (Settled.stepwise b).refl p.2
  trans first second := (Settled.stepwise b).trans first second

omit [Reporting W] in
/-- an open session is bound to an open handle -/
theorem exists_of_isOpen {p : Session H P × W} (hp : isOpen b p = true) :
    ∃ h, p.1.handle = some h ∧ b.isOpen h p.2 = true := by
  cases hs : p.1.handle with
  | none =>
    rw [isOpen_unbound hs] at hp
    cases hp
  | some h => exact ⟨h, rfl, (isOpen_bound hs p.2).symm.trans hp⟩

variable (hflag : ∀ h, b.FlagLaws h)

include hflag

theorem isOpen_report (e : Event) (p : Session H P × W) : isOpen b (Reporting.emit e p) = isOpen b p := by
  obtain ⟨s, w⟩ := p
  show isOpen b (s, Reporting.emit e w) = isOpen b (s, w)
  cases hs : s.handle with
  | none => rw [isOpen_unbound hs, isOpen_unbound hs]
  | some h => rw [isOpen_bound hs, isOpen_bound hs, (hflag h).report e w]

theorem settled_reports : Reports (Settled b) := fun e p hp => ⟨rfl, (isOpen_report hflag e p).trans hp⟩

theorem exec_settled (sql : String) : (exec b sql).Respects (Settled b) := by
  rintro ⟨s, w⟩ hp
  obtain ⟨h, hs, ho⟩ := exists_of_isOpen hp
  rw [exec, withHandle_of_open b _ hs ho]
  exact ⟨rfl, (isOpen_bound hs _).trans (((hflag h).statements.execute sql w).trans ho)⟩

theorem runSteps_settled {steps : List Step} (hsteps : OneUnit steps) : (runSteps b steps).Respects (Settled b) := by
  rintro ⟨s, w⟩ hp
  obtain ⟨h, hs, ho⟩ := exists_of_isOpen hp
  have hreport : ∀ e v, b.isOpen h v = true → b.isOpen h (Reporting.emit e v) = true := fun e v hv =>
    ((hflag h).report e v).trans hv
  obtain ⟨e, e', hrun⟩ := runSteps_of_open b hsteps hs fun e => hreport e w ho
  have hflagR : Stepwise fun v v' => b.isOpen h v' = b.isOpen h v :=
    ⟨fun _ => rfl, fun first second => second.trans first⟩
  have hunit := (WorkUnit.ofSteps steps).run_respects hflagR (hflag h).statements (hflag h).report
    (Reporting.emit e (Reporting.emit e' w))
  rw [hrun]
  exact ⟨rfl, (isOpen_bound hs _).trans (hunit.trans (hreport e _ (hreport e' w ho)))⟩

theorem createTableSql_settled (sql : String) : (createTableSql b sql).Respects (Settled b) :=
  createTableSql_respects (Settled.stepwise b) (settled_reports hflag) (exec_settled hflag sql)

theorem onSchema_settled (dropFirst : Bool) :
    (onSchema (if dropFirst then createNewTable b else createTable b)).Respects fun p q => Settled b p.2 q.2 := by
  have hcreate : (createTable b).Respects fun p q => Settled b p.2 q.2 := fun p =>
    createTableSql_settled hflag p.1.build.text p.2
  intro p
  cases dropFirst with
  | false => exact hcreate (p.1.schema, p.2)
  | true =>
    have hdrop : ∀ name, (Task.lift (dropTable b name) : Task (Table × Session H P × W) Unit).Respects
        fun p q => Settled b p.2 q.2 := fun name p => exec_settled hflag _ p.2
    exact (Task.respects_read (Settled.beside b) _).bind (Settled.beside b)
      (fun name => (hdrop name).bind (Settled.beside b) fun _ => hcreate) (p.1.schema, p.2)

theorem judgeUnit_settled (judge : Outcome → Bool) {steps : Entity → List Step} (hsteps : ∀ e, OneUnit (steps e)) :
    (judgeUnit b judge steps).Respects fun p q => Settled b p.2 q.2 := by
  have hrun : ∀ e, (inSession (runSteps b (steps e))).Respects fun p q => Settled b p.2 q.2 := fun e p =>
    runSteps_settled hflag (hsteps e) p.2
  exact (Task.respects_read (Settled.beside b) _).bind (Settled.beside b) fun e =>
    (hrun e).bind (Settled.beside b) fun _ => Task.respects_pure (Settled.beside b) _

theorem insertRow_settled (table : String) (r : Record) : (insertRow b table r).Respects (Settled b) := by
  rw [insertRow_eq]
  refine (runSteps_settled hflag (oneUnit_insert table r)).bind (Settled.stepwise b) fun outcome => ?_
  cases outcome.rowId? with
  | some id => exact Task.respects_pure (Settled.stepwise b) id
  | none => exact Task.respects_fail (Settled.stepwise b) _

/-- **Work leaves an open session as it is, and open.** -/
theorem Operation.work_settled (op : Operation) : (op.work b).Respects fun p q => Settled b p.2 q.2 := by
  cases op with
  | createSchema dropFirst => exact onSchema_settled hflag dropFirst
  | create r =>
    have hinsert : ∀ table, (inSession (insertRow b table r)).Respects fun p q => Settled b p.2 q.2 := fun table p =>
      insertRow_settled hflag table r p.2
    have hremember : ∀ id,
        (Task.change fun p : Entity × Session H P × W => ({ p.1 with lastCreatedId := id }, p.2)).Respects
          fun p q => Settled b p.2 q.2 := fun id => Task.respects_change fun p => (Settled.stepwise b).refl p.2
    exact (Task.respects_read (Settled.beside b) _).bind (Settled.beside b) fun e =>
      (hinsert e.table).bind (Settled.beside b) fun id =>
        (hremember id).bind (Settled.beside b) fun _ => Task.respects_pure (Settled.beside b) _
  | update id r => exact judgeUnit_settled hflag _ fun e => ⟨_, _, rfl, rfl, by simp [Step.isVerb]⟩
  | delete id => exact judgeUnit_settled hflag _ fun e => oneUnit_delete _ (by simp [Step.isVerb])
  | deleteWhere field v => exact judgeUnit_settled hflag _ fun e => oneUnit_delete _ (by simp [Step.isVerb])
  | deleteMatching r =>
    rw [work]
    split
    · exact Task.respects_fail (Settled.beside b) _
    · exact judgeUnit_settled hflag _ fun e => oneUnit_delete _ fun step => isVerb_of_mem_matchSteps
  | hasItems => exact judgeUnit_settled hflag _ fun e => ⟨_, _, rfl, rfl, by simp [Step.isVerb]⟩

/-! ## The whole operation -/

theorem closeOpen_closes (s : Session H P) (w : W) : isOpen b (s, closeOpen b (s, w)) = false := by
  unfold closeOpen
  cases hs : s.handle with
  | none => exact isOpen_unbound hs _
  | some h =>
    rw [isOpen_bound hs]
    dsimp only
    cases ho : b.isOpen h w with
    | false => exact ho
    | true => exact (hflag h).closed w

/-- leaving closes the session unless it was open in the database before -/
theorem leave_isOpen {p q : Entity × Session H P × W} (hq : isOpen b p.2 = true → isOpen b q.2 = true) :
    isOpen b (leave b p q).2 = isEntered b p := by
  unfold leave
  cases hentered : isEntered b p with
  | true => exact hq (Bool.and_eq_true_iff.1 hentered).1
  | false => exact closeOpen_closes hflag q.2.1 q.2.2

variable (hout : b.GivesOut known)

include hout

/-- what there is before the database is left: the units and the version are as they were, the session has the name of
the database, and it is open if it was -/
theorem Operation.bare_restores (op : Operation) {p : Entity × Session H P × W} (hp : Bound known p.2) :
    (op.bare b p).2.2.1.stack = p.2.1.stack ∧ (op.bare b p).2.2.1.dbVersion = p.2.1.dbVersion ∧
      (op.bare b p).2.2.1.dbName = some p.1.dbName ∧ (isOpen b p.2 = true → isOpen b (op.bare b p).2.2 = true) := by
  have hpointed := enter_pointed hflag hout p.1 p.2
  have hname := enter_dbName b p.1 p.2
  rw [bare, afterEntering_eq]
  rcases henter : enter b p.1 p.2 with ⟨why | _, q⟩
  · rw [henter] at hpointed hname
    exact ⟨hpointed.stack, hpointed.version, hname, (hpointed.bound hp).2⟩
  · rw [henter] at hpointed hname
    obtain ⟨hsame, hopen⟩ := op.work_settled hflag (p.1, q) (enter_opens hflag hout hp henter)
    dsimp only
    rw [hsame]
    exact ⟨hpointed.stack, hpointed.version, hname, fun _ => hopen⟩

/-- **An entity operation restores the session.** Whatever fails on the way, the units that waited still wait, the
version is as it was, the session has the name of the database, and it is open exactly if it was open in that database
before. The operation always answers, and it answers false after every error and after every call that was refused. -/
theorem operation_restores (op : Operation) {p : Entity × Session H P × W} (hp : Bound known p.2) :
    (op.perform b p).2.2.1.stack = p.2.1.stack ∧ (op.perform b p).2.2.1.dbVersion = p.2.1.dbVersion ∧
    (op.perform b p).2.2.1.dbName = some p.1.dbName ∧
    (isOpen b (op.perform b p).2.2 = true ↔ isOpen b p.2 = true ∧ p.2.1.dbName = some p.1.dbName) ∧
    ∃ answer, (op.perform b p).1 = .ok answer ∧ (∀ why, (op.bare b p).1 = .error why → answer = false) ∧
      ∀ c ∈ op.calls b p, c.answered = false → answer = false := by
  obtain ⟨hstack, hversion, hname, hopen⟩ := op.bare_restores hflag hout hp
  have hleft := leave_isOpen hflag (q := (op.bare b p).2) hopen
  have hentered : isEntered b p = true ↔ isOpen b p.2 = true ∧ p.2.1.dbName = some p.1.dbName := by
    simp only [isEntered, Bool.and_eq_true, beq_iff_eq]
  have hrefused : ∀ answer, (op.perform b p).1 = .ok answer → ∀ c ∈ op.calls b p, c.answered = false →
      answer = false := fun answer hanswer c hc => op.false_of_refused b hanswer hc
  rw [← leave_session b p] at hstack hversion hname
  rw [op.perform_eq] at hrefused ⊢
  rcases hbare : op.bare b p with ⟨why | answer, q⟩
  · rw [hbare] at hstack hversion hname hleft hrefused
    have hreport := isOpen_report hflag (failed q.1 op.label why) (leave b p q).2
    refine ⟨hstack, hversion, hname, ?_, false, rfl, fun _ _ => rfl, hrefused false rfl⟩
    rw [← hentered, ← hleft, ← hreport]
    rfl
  · rw [hbare] at hstack hversion hname hleft hrefused
    refine ⟨hstack, hversion, hname, ?_, answer, rfl, fun why herror => (by cases herror), hrefused answer rfl⟩
    rw [← hentered, ← hleft]
    rfl

end

/-- a session with one database open and one unit that waits, in a world in which the next insert is refused -/
def waitingInAnotherDatabase : Session HandleRef Source × Host :=
  after Host.backend [.createDb "a.db", .chain (.deleteFrom "notes")]
    (ofProvider .script, .ofStage (.ofScript { Rehearsal.Script.standard with
      inserts := [.fail (.execution (.stated "out of space"))] } []))

/-- the table of another database -/
def elsewhere : Entity := ofTable "b.db" (.named "events")

/-- an insert that is refused in another database: the unit that waited still waits, and the session, which now has the
name of the other database, is closed -/
theorem create_restores_when_refused :
    (∀ h, Host.backend.FlagLaws h) ∧ Host.backend.GivesOut Host.known ∧
    Bound Host.known waitingInAnotherDatabase ∧ isOpen Host.backend waitingInAnotherDatabase = true ∧
    ((Operation.create (.ofList [("title", .text "x")])).perform Host.backend (elsewhere, waitingInAnotherDatabase)).1
      = .ok false ∧
    ((Operation.create (.ofList [("title", .text "x")])).perform Host.backend
      (elsewhere, waitingInAnotherDatabase)).2.2.1.stack = [WorkUnit.ofSteps [.deleteFrom "notes"]] ∧
    isOpen Host.backend ((Operation.create (.ofList [("title", .text "x")])).perform Host.backend
      (elsewhere, waitingInAnotherDatabase)).2.2 = false := by
  have hbound : Bound Host.known waitingInAnotherDatabase := by
    intro h hh
    rw [← Option.some.inj hh]
    exact Nat.zero_lt_one
  obtain ⟨hstack, -, -, hopen, -⟩ := operation_restores Host.flagLaws Host.givesOut
    (.create (.ofList [("title", .text "x")])) (p := (elsewhere, waitingInAnotherDatabase)) hbound
  have hclosed := fun ho => (hopen.1 ho).2
  refine ⟨Host.flagLaws, Host.givesOut, hbound, rfl, rfl, hstack, ?_⟩
  exact Bool.eq_false_iff.2 fun ho => absurd (hclosed ho) (by decide)

end Entity

end FluentSql
