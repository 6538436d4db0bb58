import FluentSql.Proofs.Errands
/-!
What operations are made of. Besides what errands do, an operation asks a provider for names, opens or drops a database,
binds what was opened, lets go of the bound handle, and changes the version or the units that wait. A relation that all
of these go along (`Manages`) is respected by every operation (`Operation.perform_respects`), with two exceptions that a
relation has to be asked about by itself: binding a handle from outside, and naming a database (`setDb_respects`).
-/

namespace FluentSql.Session

variable {W H P α : Type} [Reporting W]

/-- what naming and opening a database is made of goes along a relation, but for taking the name -/
structure Points (b : Backend W H P) (R : Session H P × W → Session H P × W → Prop) : Prop where
  stepwise : Stepwise R
  opening : ∀ h s w, s.handle = some h → R (s, w) (s, (b.openHandle h w).2)
  report : ∀ e s w, R (s, w) (s, Reporting.emit e w)
  refused : ∀ provider name o s w e w', b.openDatabase provider name o w = (.error e, w') → R (s, w) (s, w')
  rebinding : ∀ provider name o s w h w', b.openDatabase provider name o w = (.ok h, w') →
    R (s, w) (rebind b name h (s, w'))

/-- everything that operations are made of goes along a relation, but for binding from outside and naming -/
structure Manages (b : Backend W H P) (R : Session H P × W → Session H P × W → Prop) : Prop extends Admits b R where
  version : ∀ s w version, R (s, w) ({ s with dbVersion := version }, w)
  siblings : ∀ h s w, s.handle = some h → R (s, w) (s, (b.siblings h w).2)
  listNames : ∀ provider s w, R (s, w) (s, (b.listNames provider w).2)
  dropDatabase : ∀ provider name s w, R (s, w) (s, (b.dropDatabase provider name w).2)
  refused : ∀ provider name o s w e w', b.openDatabase provider name o w = (.error e, w') → R (s, w) (s, w')
  rebinding : ∀ provider name o s w h w', b.openDatabase provider name o w = (.ok h, w') →
    R (s, w) (rebind b name h (s, w'))
  unbinding : ∀ p, R p (unbind b p)
  destroying : ∀ p, R p (destroy b p).2

section

variable {b : Backend W H P} {R : Session H P × W → Session H P × W → Prop}

/-! ## Opening by name -/

omit [Reporting W] in
/-- the three ways of opening by name: no provider, the provider refuses, or the session is bound to what it opened -/
theorem createOrOpen_cases (b : Backend W H P) (name : String) (hooks : Hooks) (s : Session H P) (w : W) :
    (s.provider = none ∧ createOrOpen b name hooks (s, w) = (.error (.config .noProvider), s, w)) ∨
    ∃ provider, s.provider = some provider ∧
      ((∃ e w', b.openDatabase provider name ⟨s.dbVersion, hooks⟩ w = (.error e, w') ∧
          createOrOpen b name hooks (s, w) = (.error e, s, w')) ∨
        ∃ h w', b.openDatabase provider name ⟨s.dbVersion, hooks⟩ w = (.ok h, w') ∧
          createOrOpen b name hooks (s, w) = (.ok (), rebind b name h (s, w'))) := by
  unfold createOrOpen
  cases hp : s.provider with
  | none => exact .inl ⟨rfl, rfl⟩
  | some provider =>
    refine .inr ⟨provider, rfl, ?_⟩
    simp only [Task.bind_eq, Task.lift, Task.within, Task.change]
    rcases b.openDatabase provider name ⟨s.dbVersion, hooks⟩ w with ⟨e | h, w'⟩
    · exact .inl ⟨e, w', rfl, rfl⟩
    · exact .inr ⟨h, w', rfl, rfl⟩

theorem Manages.points (hM : Manages b R) : Points b R :=
  ⟨hM.stepwise, hM.opening, hM.report, hM.refused, hM.rebinding⟩

theorem Points.reports (hP : Points b R) : Reports R := fun e p => hP.report e p.1 p.2

theorem createOrOpen_respects (hP : Points b R) (name : String) (hooks : Hooks) :
    (createOrOpen b name hooks).Respects R := by
  rintro ⟨s, w⟩
  rcases createOrOpen_cases b name hooks s w with ⟨-, hrun⟩ | ⟨provider, -, ⟨e, w', hopen, hrun⟩ | ⟨h, w', hopen, hrun⟩⟩
  · rw [hrun]
    exact hP.stepwise.refl (s, w)
  · rw [hrun]
    exact hP.refused provider name _ s w e w' hopen
  · rw [hrun]
    exact hP.rebinding provider name _ s w h w' hopen

/-- naming a database, and opening it at once if a handle of another one is bound -/
theorem setDb_respects (hP : Points b R) {name : String}
    (hname : ∀ s w, R (s, w) ({ s with dbName := some name }, w)) : (setDb b name).Respects R := by
  have hedit : (edit fun s : Session H P => { s with dbName := some name }).Respects R :=
    Task.respects_change fun p => hname p.1 p.2
  refine hedit.bind hP.stepwise fun _ => (Task.respects_read hP.stepwise _).bind hP.stepwise fun mismatched => ?_
  cases mismatched with
  | true =>
    exact (Task.respects_report hP.reports _).bind hP.stepwise fun _ => createOrOpen_respects hP name Hooks.none
  | false => exact Task.respects_pure hP.stepwise ()

omit [Reporting W] in
/-- the ways of opening: the bound handle is opened, the named database is opened by name, or there is nothing to open -/
theorem openDb_cases (b : Backend W H P) (s : Session H P) (w : W) :
    (∃ h, s.handle = some h ∧ openDb b (s, w) = ((b.openHandle h w).1, s, (b.openHandle h w).2)) ∨
    (∃ name, s.dbName = some name ∧ openDb b (s, w) = createOrOpen b name Hooks.none (s, w)) ∨
    openDb b (s, w) = (.error .noDatabaseBound, s, w) := by
  unfold openDb
  cases hh : s.handle with
  | none =>
    cases hn : s.dbName with
    | none => exact .inr (.inr rfl)
    | some name =>
      dsimp only
      split
      · exact .inr (.inl ⟨name, rfl, rfl⟩)
      · exact .inr (.inr rfl)
  | some h =>
    cases hn : s.dbName with
    | none => exact .inl ⟨h, rfl, rfl⟩
    | some name =>
      dsimp only
      split
      · exact .inr (.inl ⟨name, rfl, rfl⟩)
      · exact .inl ⟨h, rfl, rfl⟩

theorem openDb_respects (hP : Points b R) : (openDb b).Respects R := by
  rintro ⟨s, w⟩
  rcases openDb_cases b s w with ⟨h, hs, hrun⟩ | ⟨name, -, hrun⟩ | hrun
  · rw [hrun]
    exact hP.opening h s w hs
  · rw [hrun]
    exact createOrOpen_respects hP name Hooks.none (s, w)
  · rw [hrun]
    exact hP.stepwise.refl (s, w)

/-! ## Other operations -/

theorem closeDb_respects (hM : Manages b R) : (closeDb b).Respects R := by
  refine Task.respects_change fun p => ?_
  obtain ⟨s, w⟩ := p
  unfold closeOpen
  cases hh : s.handle with
  | none => exact hM.stepwise.refl (s, w)
  | some h =>
    dsimp only
    split
    · exact hM.closing h s w hh
    · exact hM.stepwise.refl (s, w)

theorem dbExists_respects (hM : Manages b R) (name : String) : (dbExists b name).Respects R := by
  rintro ⟨s, w⟩
  have hnames : ∀ t : Task W (List String), (((·.contains name) <$> t) w).2 = (t w).2 := fun t =>
    congrArg Prod.snd (Task.bind_pure_eq t _ w)
  unfold dbExists
  cases s.provider with
  | some provider =>
    simp only [Task.lift, Task.within, hnames]
    exact hM.listNames provider s w
  | none =>
    cases hh : s.handle with
    | none => exact hM.stepwise.refl (s, w)
    | some h =>
      simp only [Task.lift, Task.within, hnames]
      exact hM.siblings h s w hh

theorem dropThrough_respects (hM : Manages b R) (name : String) : (dropThrough b name).Respects R := by
  rintro ⟨s, w⟩
  unfold dropThrough
  cases s.provider with
  | none => exact hM.stepwise.refl (s, w)
  | some provider => exact hM.dropDatabase provider name s w

theorem dropDb_respects (hM : Manages b R) (name : String) : (dropDb b name).Respects R := by
  have hdrop := dropThrough_respects hM name
  refine (Task.respects_read hM.stepwise _).bind hM.stepwise fun bound => ?_
  cases bound with
  | true =>
    refine (Task.respects_change hM.unbinding).bind hM.stepwise fun _ => ?_
    exact hdrop.orFalse hM.stepwise hM.toAdmits.reports (fun dropped => ⟨dropped, rfl⟩) fun e => ⟨dropFailed name e, rfl⟩
  | false =>
    exact hdrop.orFalse hM.stepwise hM.toAdmits.reports (fun dropped => ⟨dropped, rfl⟩) fun e => ⟨dropFailed name e, rfl⟩

/-- creating a table as part of a longer operation -/
theorem createEach_respects (hM : Manages b R) (definitions : List Table) (p : Session H P × W) :
    R p (createEach b definitions p).2.2 := by
  induction definitions generalizing p with
  | nil => exact hM.stepwise.refl p
  | cons t rest ih =>
    have hcreate : R p (createTable b (t, p)).2.2 := creating_respects hM.toAdmits t.build.text p
    rw [createEach]
    rcases hrun : createTable b (t, p) with ⟨_ | _ | _, t', p'⟩
    · rw [hrun] at hcreate
      exact hcreate
    · rw [hrun] at hcreate
      exact hcreate
    · rw [hrun] at hcreate
      exact hM.stepwise.trans hcreate (ih p')

theorem createDbWithTables_respects (hM : Manages b R) (name : String) (definitions : List Table) :
    (Task.beside definitions (createDbWithTables b name)).Respects R := by
  intro p
  have hopen : R p (createDb b name p).2 := createOrOpen_respects hM.points name Hooks.none p
  rw [beside_createDbWithTables]
  rcases hrun : createDb b name p with ⟨e | _, q⟩
  · rw [hrun] at hopen
    exact hopen
  · rw [hrun] at hopen
    exact hM.stepwise.trans hopen (createEach_respects hM definitions q)

theorem chain_respects (hM : Manages b R) (step : Step) : (chain step).Respects R := by
  have hpush : ∀ u, (push u).Respects R := fun u =>
    (Task.respects_read hM.stepwise _).bind hM.stepwise fun _ =>
      (Task.respects_report hM.toAdmits.reports _).bind hM.stepwise fun _ =>
        Task.respects_change fun p => hM.taking p.1 p.2 (u :: p.1.stack)
  unfold chain
  split
  · exact hpush _
  · refine Task.respects_change fun p => ?_
    obtain ⟨s, w⟩ := p
    unfold onTop
    cases s.stack with
    | nil => exact hM.stepwise.refl (s, w)
    | cons u rest => exact hM.taking s w _

/-- **An operation is made of nothing else**, unless it binds a handle from outside or names a database. -/
theorem Operation.perform_respects (hM : Manages b R) {op : Operation H} (hbind : ∀ h, op ≠ .bind h)
    (hname : ∀ name, op ≠ .setDb name) : (op.perform b).Respects R := by
  cases op with
  | bind h => exact absurd rfl (hbind h)
  | setVersion version => exact Task.respects_change fun p => hM.version p.1 p.2 version
  | setDb name => exact absurd rfl (hname name)
  | createDb name => exact createOrOpen_respects hM.points name Hooks.none
  | createDbWithHooks name hooks => exact createOrOpen_respects hM.points name hooks
  | createDbWithTables name definitions => exact dropAnswer_respects (createDbWithTables_respects hM name definitions)
  | openDb => exact openDb_respects hM.points
  | closeDb => exact closeDb_respects hM
  | dbExists name => exact dropAnswer_respects (dbExists_respects hM name)
  | dropDb name => exact dropAnswer_respects (dropDb_respects hM name)
  | destroy => exact hM.destroying
  | chain step => exact chain_respects hM step
  | errand e => exact e.perform_respects hM.toAdmits

end

end FluentSql.Session
