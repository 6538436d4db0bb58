import FluentSql.Proofs.Observation
import FluentSql.Session.Operation
/-!
One world seen through another. A view maps the states of one world to those of another; an action mirrors another one
if it answers the same and the view of what it leaves is what the other leaves (`Task.Mirrors`). Mirroring goes through
sequences, failures and looks at outcomes, so as soon as the calls of a backend mirror those of another
(`Backend.Mirrors`), so does every operation of a session (`Operation.perform_mirrors`).

Writing calls down is the case of interest. A recorded or watched backend mirrors the plain one, so watching changes
nothing: a watched operation is the plain one with its calls beside it (`Operation.perform_observed`).
-/

namespace FluentSql

variable {V W S H P α β : Type}

namespace Task

/-- the same answer, and seen through the view the same state afterwards -/
def Mirrors (view : V → W) (t : Task V α) (u : Task W α) : Prop := ∀ v, u (view v) = ((t v).1, view (t v).2)

section

variable {view : V → W}

theorem mirrors_pure (a : α) : (pure a : Task V α).Mirrors view (pure a) := fun _ => rfl

theorem mirrors_fail (e : DbError) : (fail e : Task V α).Mirrors view (fail e) := fun _ => rfl

theorem mirrors_ofExcept (x : Except DbError α) : (ofExcept x : Task V α).Mirrors view (ofExcept x) := by
  cases x with
  | error e => exact mirrors_fail e
  | ok a => exact mirrors_pure a

theorem mirrors_read {f : V → α} {g : W → α} (h : ∀ v, g (view v) = f v) : (read f).Mirrors view (read g) := fun v => by
  rw [read, read, h]

theorem mirrors_change {f : V → V} {g : W → W} (h : ∀ v, g (view v) = view (f v)) :
    (change f).Mirrors view (change g) := fun v => by
  rw [change, change, h]

theorem mirrors_report [Reporting V] [Reporting W] (h : ∀ e v, Reporting.emit e (view v) = view (Reporting.emit e v))
    (e : Event) : (report e : Task V Unit).Mirrors view (report e) := mirrors_change (h e)

theorem Mirrors.bind {t : Task V α} {u : Task W α} {next : α → Task V β} {next' : α → Task W β}
    (ht : t.Mirrors view u) (hnext : ∀ a, (next a).Mirrors view (next' a)) :
    (t >>= next).Mirrors view (u >>= next') := by
  intro v
  rw [bind_eq, bind_eq, ht v]
  rcases t v with ⟨e | a, v'⟩
  · rfl
  · exact hnext a v'

theorem Mirrors.attempt {t : Task V α} {u : Task W α} (ht : t.Mirrors view u) :
    (attempt t).Mirrors view (attempt u) := fun v => by
  rw [attempt_eq, attempt_eq, ht v]

theorem Mirrors.dropAnswer {t : Task V α} {u : Task W α} (ht : t.Mirrors view u) :
    t.dropAnswer.Mirrors view u.dropAnswer := ht.bind fun _ => mirrors_pure ()

/-- an action of which a failure is reported and answered by false -/
theorem Mirrors.orFalse [Reporting V] [Reporting W] {t : Task V α} {u : Task W α}
    {next : Except DbError α → Task V Bool} {next' : Except DbError α → Task W Bool} (ht : t.Mirrors view u)
    (hrep : ∀ e v, Reporting.emit e (view v) = view (Reporting.emit e v))
    (hok : ∀ a, ∃ answer, next (.ok a) = pure answer ∧ next' (.ok a) = pure answer)
    (herror : ∀ e, ∃ event, next (.error e) = (report event >>= fun _ => pure false) ∧
      next' (.error e) = (report event >>= fun _ => pure false)) :
    (Task.attempt t >>= next).Mirrors view (Task.attempt u >>= next') := by
  refine ht.attempt.bind fun x => ?_
  cases x with
  | ok a =>
    obtain ⟨answer, heq, heq'⟩ := hok a
    rw [heq, heq']
    exact mirrors_pure answer
  | error e =>
    obtain ⟨event, heq, heq'⟩ := herror e
    rw [heq, heq']
    exact (mirrors_report hrep event).bind fun _ => mirrors_pure false

/-- an action on the second part of a state -/
theorem Mirrors.lift {t : Task V α} {u : Task W α} (ht : t.Mirrors view u) :
    (lift t : Task (S × V) α).Mirrors (Prod.map id view) (lift u) := fun p => by
  simp only [Task.lift, within, Prod.map, ht p.2]

/-- an action that also acts on something of its own -/
theorem Mirrors.beside {t : Task (S × V) α} {u : Task (S × W) α} (ht : t.Mirrors (Prod.map id view) u) (s : S) :
    (beside s t).Mirrors view (beside s u) := fun v => by
  have h := ht (s, v)
  simp only [Prod.map, id] at h
  simp only [Task.beside, h]

end

end Task

/-! ## Statements and units -/

/-- every statement of a handle mirrors that of another -/
structure Channel.Mirrors (view : V → W) (c : Channel V) (d : Channel W) : Prop where
  execute : ∀ sql, (c.execute sql).Mirrors view (d.execute sql)
  query : ∀ q, (c.query q).Mirrors view (d.query q)
  insert : ∀ table values, (c.insert table values).Mirrors view (d.insert table values)
  update : ∀ table values condition args,
    (c.update table values condition args).Mirrors view (d.update table values condition args)
  delete : ∀ table condition args, (c.delete table condition args).Mirrors view (d.delete table condition args)

section

variable {view : V → W} {c : Channel V} {d : Channel W} (hc : c.Mirrors view d)

include hc

theorem Channel.Mirrors.related : c.Related (fun _ t u => t.Mirrors view u) d :=
  ⟨hc.execute, hc.query, hc.insert, hc.update, hc.delete⟩

theorem Channel.countRows_mirrors (table : String) : (c.countRows table).Mirrors view (d.countRows table) :=
  (hc.query _).bind fun _ => Task.mirrors_ofExcept _

variable [Reporting V] [Reporting W] (hrep : ∀ e v, Reporting.emit e (view v) = view (Reporting.emit e v))

include hrep

omit hc in
theorem Task.mirrors_compositional : Compositional fun _ (t : Task V _) u => t.Mirrors view u where
  answer := mirrors_pure
  failure := mirrors_fail
  reported event e := (mirrors_report hrep event).bind fun _ => mirrors_fail e
  sequence ht hnext := ht.bind hnext
  caught ht hnext _ := ht.attempt.bind hnext

theorem Insert.run_mirrors (s : Insert) : (s.run c).Mirrors view (s.run d) :=
  s.run_related (Task.mirrors_compositional hrep) hc.related

theorem WorkUnit.run_mirrors (u : WorkUnit) : (u.run c).Mirrors view (u.run d) :=
  u.run_related (Task.mirrors_compositional hrep) hc.related

end

/-! ## Sessions -/

/-- every call of a backend mirrors that of another, and so do reports -/
structure Backend.Mirrors [Reporting V] [Reporting W] (view : V → W) (b : Backend V H P) (d : Backend W H P) :
    Prop where
  report : ∀ e v, Reporting.emit e (view v) = view (Reporting.emit e v)
  name : ∀ h, b.name h = d.name h
  isOpen : ∀ h v, b.isOpen h v = d.isOpen h (view v)
  openHandle : ∀ h, (b.openHandle h).Mirrors view (d.openHandle h)
  closeHandle : ∀ h v, d.closeHandle h (view v) = view (b.closeHandle h v)
  release : ∀ h v, d.release h (view v) = view (b.release h v)
  channel : ∀ h, (b.channel h).Mirrors view (d.channel h)
  siblings : ∀ h, (b.siblings h).Mirrors view (d.siblings h)
  openDatabase : ∀ p name o, (b.openDatabase p name o).Mirrors view (d.openDatabase p name o)
  listNames : ∀ p, (b.listNames p).Mirrors view (d.listNames p)
  dropDatabase : ∀ p name, (b.dropDatabase p name).Mirrors view (d.dropDatabase p name)

namespace Session

variable [Reporting V] [Reporting W] {view : V → W} {b : Backend V H P} {d : Backend W H P} (hb : b.Mirrors view d)

/-- the session as it is, and the view of the world -/
abbrev through (view : V → W) : Session H P × V → Session H P × W := Prod.map id view

include hb

theorem reports_through (e : Event) (p : Session H P × V) :
    Reporting.emit e (through view p) = through view (Reporting.emit e p) := Prod.ext rfl (hb.report e p.2)

theorem report_mirrors (e : Event) : (report e : Task (Session H P × V) Unit).Mirrors (through view) (report e) :=
  Task.mirrors_report (reports_through hb) e

omit hb [Reporting V] [Reporting W] in
theorem edit_mirrors (f : Session H P → Session H P) :
    (edit f : Task (Session H P × V) Unit).Mirrors (through view) (edit f) :=
  Task.mirrors_change fun _ => rfl

theorem whileOpen_mirrors (h : H) {t : Task (Session H P × V) α} {u : Task (Session H P × W) α}
    (ht : t.Mirrors (through view) u) : (whileOpen b h t).Mirrors (through view) (whileOpen d h u) := by
  have hread : (Task.read fun p : Session H P × V => b.isOpen h p.2).Mirrors (through view)
      (Task.read fun p => d.isOpen h p.2) := Task.mirrors_read fun p => (hb.isOpen h p.2).symm
  refine hread.bind fun isOpen => ?_
  cases isOpen with
  | true => exact ht
  | false =>
    refine (hb.openHandle h).lift.bind fun _ => ht.attempt.bind fun x => ?_
    have hstop : (Task.change fun p : Session H P × V => (p.1, b.closeHandle h p.2)).Mirrors (through view)
        (Task.change fun p => (p.1, d.closeHandle h p.2)) :=
      Task.mirrors_change fun p => Prod.ext rfl (hb.closeHandle h p.2)
    exact hstop.bind fun _ => Task.mirrors_ofExcept x

theorem withHandle_mirrors {t : H → Task (Session H P × V) α} {u : H → Task (Session H P × W) α}
    (ht : ∀ h, (t h).Mirrors (through view) (u h)) : (withHandle b t).Mirrors (through view) (withHandle d u) := by
  intro p
  obtain ⟨s, v⟩ := p
  simp only [withHandle, through, Prod.map, id]
  cases s.handle with
  | none => rfl
  | some h => exact whileOpen_mirrors hb h (ht h) (s, v)

theorem popAndRun_mirrors (h : H) : (popAndRun b h).Mirrors (through view) (popAndRun d h) := by
  intro p
  obtain ⟨s, v⟩ := p
  simp only [popAndRun, through, Prod.map, id]
  cases s.stack with
  | nil => rfl
  | cons u rest =>
    exact ((edit_mirrors _).bind fun _ => (report_mirrors hb _).bind fun _ =>
      (u.run_mirrors (hb.channel h) hb.report).lift) (s, v)

theorem run_mirrors : (run b).Mirrors (through view) (run d) := by
  intro p
  obtain ⟨s, v⟩ := p
  simp only [run, through, Prod.map, id]
  cases s.stack with
  | nil => rfl
  | cons u rest => exact withHandle_mirrors hb (popAndRun_mirrors hb) (s, v)

theorem exec_mirrors (sql : String) : (exec b sql).Mirrors (through view) (exec d sql) :=
  withHandle_mirrors hb fun h => ((hb.channel h).execute sql).lift

/-- counting the rows of a table -/
theorem counting_mirrors (h : H) (table : String) :
    (Task.lift ((b.channel h).countRows table) : Task (Session H P × V) Int64).Mirrors (through view)
      (Task.lift ((d.channel h).countRows table)) :=
  (Channel.countRows_mirrors (hb.channel h) table).lift

theorem tableExists_mirrors (table : String) : (tableExists b table).Mirrors (through view) (tableExists d table) :=
  withHandle_mirrors hb fun h =>
    (counting_mirrors hb h table).orFalse (reports_through hb) (fun _ => ⟨true, rfl, rfl⟩) fun e =>
      ⟨lookupFailed table e, rfl, rfl⟩

theorem tableIsEmpty_mirrors (table : String) :
    (tableIsEmpty b table).Mirrors (through view) (tableIsEmpty d table) := by
  refine (tableExists_mirrors hb table).bind fun found => ?_
  cases found with
  | true =>
    exact withHandle_mirrors hb fun h =>
      (counting_mirrors hb h table).orFalse (reports_through hb) (fun n => ⟨decide (n < 1), rfl, rfl⟩) fun e =>
        ⟨countFailed table e, rfl, rfl⟩
  | false => exact Task.mirrors_fail _

theorem createTableSql_mirrors (sql : String) :
    (createTableSql b sql).Mirrors (through view) (createTableSql d sql) := by
  refine (exec_mirrors hb sql).attempt.bind fun x => ?_
  split
  · exact Task.mirrors_pure true
  · exact Task.mirrors_fail _
  · exact (report_mirrors hb _).bind fun _ => Task.mirrors_pure false

/-- creating a table together with its definition -/
theorem createTable_mirrors : (createTable b).Mirrors (Prod.map id (through view)) (createTable d) := fun p =>
  (createTableSql_mirrors hb p.1.build.text).lift (p.1.build, p.2)

theorem createNewTable_mirrors : (createNewTable b).Mirrors (Prod.map id (through view)) (createNewTable d) :=
  (Task.mirrors_read fun _ => rfl).bind fun _ => (exec_mirrors hb _).lift.bind fun _ => createTable_mirrors hb

theorem Errand.perform_mirrors (e : Errand) : (e.perform b).Mirrors (through view) (e.perform d) := by
  cases e with
  | run => exact (run_mirrors hb).dropAnswer
  | exec sql => exact exec_mirrors hb sql
  | tableExists table => exact (tableExists_mirrors hb table).dropAnswer
  | tableIsEmpty table => exact (tableIsEmpty_mirrors hb table).dropAnswer
  | createTable definition =>
    rw [perform, perform, beside_createTable, beside_createTable]
    exact (createTableSql_mirrors hb _).dropAnswer
  | createTableSql sql => exact (createTableSql_mirrors hb sql).dropAnswer
  | createNewTable definition =>
    rw [perform, perform, beside_createNewTable, beside_createNewTable]
    exact ((exec_mirrors hb _).bind fun _ => createTableSql_mirrors hb _).dropAnswer
  | dropTable table => exact exec_mirrors hb _

/-! ## Databases -/

theorem bind_mirrors (h : H) : (bind b h).Mirrors (through view) (bind d h) := by
  refine Task.mirrors_change fun p => ?_
  obtain ⟨s, v⟩ := p
  simp only [through, Prod.map, id, hb.name]
  cases s.handle with
  | none => rfl
  | some old => exact Prod.ext rfl (hb.release old v)

theorem createOrOpen_mirrors (name : String) (hooks : Hooks) :
    (createOrOpen b name hooks).Mirrors (through view) (createOrOpen d name hooks) := by
  intro p
  obtain ⟨s, v⟩ := p
  simp only [createOrOpen, through, Prod.map, id]
  cases s.provider with
  | none => rfl
  | some provider =>
    refine ((hb.openDatabase provider name _).lift.bind fun h => Task.mirrors_change fun q => ?_) (s, v)
    obtain ⟨s, v⟩ := q
    simp only [rebind, Prod.map, id]
    cases s.handle with
    | none => rfl
    | some old => exact Prod.ext rfl (by simp only [Option.elim, hb.closeHandle, hb.release])

theorem setDb_mirrors (name : String) : (setDb b name).Mirrors (through view) (setDb d name) := by
  have hread : (Task.read fun p : Session H P × V => p.1.handle.any fun h => b.name h != name).Mirrors (through view)
      (Task.read fun p => p.1.handle.any fun h => d.name h != name) :=
    Task.mirrors_read fun p => by simp only [through, Prod.map, id, hb.name]
  refine (edit_mirrors _).bind fun _ => hread.bind fun mismatched => ?_
  cases mismatched with
  | true => exact (report_mirrors hb _).bind fun _ => createOrOpen_mirrors hb name Hooks.none
  | false => exact Task.mirrors_pure ()

theorem openDb_mirrors : (openDb b).Mirrors (through view) (openDb d) := by
  intro p
  obtain ⟨s, v⟩ := p
  have hcreate := fun name => createOrOpen_mirrors hb name Hooks.none (s, v)
  simp only [through, Prod.map, id] at hcreate
  simp only [openDb, through, Prod.map, id, hb.name]
  cases s.handle with
  | none =>
    cases s.dbName with
    | none => rfl
    | some name =>
      dsimp only
      split
      · exact hcreate name
      · rfl
  | some h =>
    cases s.dbName with
    | none => exact (hb.openHandle h).lift (s, v)
    | some name =>
      dsimp only
      split
      · exact hcreate name
      · exact (hb.openHandle h).lift (s, v)

theorem closeOpen_mirrors (p : Session H P × V) : closeOpen d (through view p) = view (closeOpen b p) := by
  obtain ⟨s, v⟩ := p
  simp only [closeOpen, through, Prod.map, id, hb.isOpen]
  cases s.handle with
  | none => rfl
  | some h =>
    dsimp only
    split
    · exact hb.closeHandle h v
    · rfl

theorem dbExists_mirrors (name : String) : (dbExists b name).Mirrors (through view) (dbExists d name) := by
  have hnames : ∀ {t : Task V (List String)} {u : Task W (List String)}, t.Mirrors view u →
      ((·.contains name) <$> t).Mirrors view ((·.contains name) <$> u) := fun ht =>
    ht.bind fun _ => Task.mirrors_pure _
  intro p
  obtain ⟨s, v⟩ := p
  simp only [dbExists, through, Prod.map, id]
  cases s.provider with
  | some provider => exact (hnames (hb.listNames provider)).lift (s, v)
  | none =>
    cases s.handle with
    | some h => exact (hnames (hb.siblings h)).lift (s, v)
    | none => rfl

theorem dropThrough_mirrors (name : String) : (dropThrough b name).Mirrors (through view) (dropThrough d name) := by
  intro p
  obtain ⟨s, v⟩ := p
  simp only [dropThrough, through, Prod.map, id]
  cases s.provider with
  | none => rfl
  | some provider => exact (hb.dropDatabase provider name).lift (s, v)

theorem unbind_mirrors (p : Session H P × V) : unbind d (through view p) = through view (unbind b p) := by
  obtain ⟨s, v⟩ := p
  simp only [unbind, through, Prod.map, id]
  cases s.handle with
  | none => rfl
  | some h => exact Prod.ext rfl (by simp only [Option.elim, hb.closeHandle, hb.release])

theorem dropDb_mirrors (name : String) : (dropDb b name).Mirrors (through view) (dropDb d name) := by
  have hread : (Task.read fun p : Session H P × V => p.1.handle.any fun h => b.name h == name).Mirrors (through view)
      (Task.read fun p => p.1.handle.any fun h => d.name h == name) :=
    Task.mirrors_read fun p => by simp only [through, Prod.map, id, hb.name]
  have hdrop := dropThrough_mirrors hb name
  refine hread.bind fun bound => ?_
  cases bound with
  | true =>
    refine (Task.mirrors_change (unbind_mirrors hb)).bind fun _ => ?_
    exact hdrop.orFalse (reports_through hb) (fun dropped => ⟨dropped, rfl, rfl⟩) fun e => ⟨dropFailed name e, rfl, rfl⟩
  | false =>
    exact hdrop.orFalse (reports_through hb) (fun dropped => ⟨dropped, rfl, rfl⟩) fun e => ⟨dropFailed name e, rfl, rfl⟩

theorem destroy_mirrors : (destroy b).Mirrors (through view) (destroy d) := by
  refine Task.mirrors_change fun p => ?_
  rw [closeOpen_mirrors hb p]
  obtain ⟨s, v⟩ := p
  simp only [through, Prod.map, id]
  cases s.handle with
  | none => rfl
  | some h => exact Prod.ext rfl (hb.release h _)

theorem createEach_mirrors (definitions : List Table) (p : Session H P × V) :
    createEach d definitions (through view p) =
      ((createEach b definitions p).1, (createEach b definitions p).2.1,
        through view (createEach b definitions p).2.2) := by
  induction definitions generalizing p with
  | nil => rfl
  | cons t rest ih =>
    have hcreate : createTable d (t, through view p) =
        ((createTable b (t, p)).1, (createTable b (t, p)).2.1, through view (createTable b (t, p)).2.2) :=
      (createTableSql_mirrors hb t.build.text).lift (t.build, p)
    simp only [createEach, hcreate]
    rcases createTable b (t, p) with ⟨_ | _ | _, t', p'⟩
    · rfl
    · rfl
    · simp only [ih p']

theorem createDbWithTables_mirrors (name : String) :
    (createDbWithTables b name).Mirrors (Prod.map id (through view)) (createDbWithTables d name) :=
  (createOrOpen_mirrors hb name Hooks.none).lift.bind fun _ p => createEach_mirrors hb p.1 p.2

theorem chain_mirrors (step : Step) :
    (chain step : Task (Session H P × V) Unit).Mirrors (through view) (chain step) := by
  have hdepth : (Task.read fun p : Session H P × V => p.1.pending).Mirrors (through view)
      (Task.read fun p => p.1.pending) := Task.mirrors_read fun _ => rfl
  unfold chain
  split
  · exact hdepth.bind fun _ => (report_mirrors hb _).bind fun _ => edit_mirrors _
  · exact edit_mirrors _

/-- **Operations mirror one another as soon as calls do.** -/
theorem Operation.perform_mirrors (op : Operation H) : (op.perform b).Mirrors (through view) (op.perform d) := by
  cases op with
  | bind h => exact bind_mirrors hb h
  | setVersion version => exact edit_mirrors fun s => { s with dbVersion := version }
  | setDb name => exact setDb_mirrors hb name
  | createDb name => exact createOrOpen_mirrors hb name Hooks.none
  | createDbWithHooks name hooks => exact createOrOpen_mirrors hb name hooks
  | createDbWithTables name definitions => exact ((createDbWithTables_mirrors hb name).beside definitions).dropAnswer
  | openDb => exact openDb_mirrors hb
  | closeDb => exact Task.mirrors_change fun p => Prod.ext rfl (closeOpen_mirrors hb p)
  | dbExists name => exact (dbExists_mirrors hb name).dropAnswer
  | dropDb name => exact (dropDb_mirrors hb name).dropAnswer
  | destroy => exact destroy_mirrors hb
  | chain step => exact chain_mirrors hb step
  | errand e => exact e.perform_mirrors hb

end Session

/-! ## Calls that are written down -/

theorem Backend.recorded_mirrors [Reporting W] (b : Backend W H P) : b.recorded.Mirrors Prod.snd b where
  report _ _ := rfl
  name _ := rfl
  isOpen _ _ := rfl
  openHandle _ _ := rfl
  closeHandle _ _ := rfl
  release _ _ := rfl
  channel _ := ⟨fun _ _ => rfl, fun _ _ => rfl, fun _ _ _ => rfl, fun _ _ _ _ _ => rfl, fun _ _ _ _ => rfl⟩
  siblings _ _ := rfl
  openDatabase _ _ _ _ := rfl
  listNames _ _ := rfl
  dropDatabase _ _ _ := rfl

theorem Backend.observed_mirrors [Reporting W] (b : Backend W H P) : b.observed.Mirrors Prod.snd b where
  report _ _ := rfl
  name _ := rfl
  isOpen _ _ := rfl
  openHandle _ _ := rfl
  closeHandle _ _ := rfl
  release _ _ := rfl
  channel _ := ⟨fun _ _ => rfl, fun _ _ => rfl, fun _ _ _ => rfl, fun _ _ _ _ _ => rfl, fun _ _ _ _ => rfl⟩
  siblings _ _ := rfl
  openDatabase _ _ _ _ := rfl
  listNames _ _ := rfl
  dropDatabase _ _ _ := rfl

namespace Session

/-- a session, what was seen so far, and the world -/
abbrev Watched (W H P : Type) := Session H P × List (Sighting H P) × W

variable [Reporting W]

/-- the calls of an operation, as a watcher sees them -/
def Operation.calls (b : Backend W H P) (op : Operation H) (p : Session H P × W) : List (Sighting H P) :=
  (op.perform b.observed (p.1, [], p.2)).2.2.1

/-- **Watching changes nothing.** -/
theorem Operation.perform_observed (b : Backend W H P) (op : Operation H) (s : Session H P) (w : W) :
    op.perform b.observed (s, [], w) =
      ((op.perform b (s, w)).1, (op.perform b (s, w)).2.1, op.calls b (s, w), (op.perform b (s, w)).2.2) := by
  have h : op.perform b (s, w) = _ := op.perform_mirrors b.observed_mirrors (s, [], w)
  rw [h]
  rfl

end Session

end FluentSql
