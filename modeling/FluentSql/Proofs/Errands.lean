import FluentSql.Proofs.Respect
import FluentSql.Session.Operation
/-!
What errands are made of. An errand opens and closes the bound handle, makes statements on it, reports, and takes a
unit off the stack, and does nothing else: a relation that all of these go along (`Admits`) is respected by every
errand (`Errand.perform_respects`).
-/

namespace FluentSql.Session

variable {W H P α : Type} [Reporting W]

/-- what an errand does while a handle is open goes along a relation -/
structure Works (b : Backend W H P) (h : H) (R : Session H P × W → Session H P × W → Prop) : Prop where
  stepwise : Stepwise R
  statements : ∀ s, s.handle = some h → (b.channel h).Respects fun w w' => R (s, w) (s, w')
  report : ∀ e s w, R (s, w) (s, Reporting.emit e w)
  taking : ∀ s w stack, R (s, w) ({ s with stack := stack }, w)

/-- everything that an errand is made of goes along a relation -/
structure Admits (b : Backend W H P) (R : Session H P × W → Session H P × W → Prop) : Prop where
  stepwise : Stepwise R
  opening : ∀ h s w, s.handle = some h → R (s, w) (s, (b.openHandle h w).2)
  closing : ∀ h s w, s.handle = some h → R (s, w) (s, b.closeHandle h w)
  statements : ∀ h s, s.handle = some h → (b.channel h).Respects fun w w' => R (s, w) (s, w')
  report : ∀ e s w, R (s, w) (s, Reporting.emit e w)
  taking : ∀ s w stack, R (s, w) ({ s with stack := stack }, w)

/-- from a session with a certain handle, along a relation to a session with the same one -/
def Holding (h : H) (R : Session H P × W → Session H P × W → Prop) (p q : Session H P × W) : Prop :=
  p.1.handle = some h → q.1.handle = some h ∧ R p q

section

variable {b : Backend W H P} {R : Session H P × W → Session H P × W → Prop} {h : H}

omit [Reporting W] in
theorem Holding.stepwise (hR : Stepwise R) : Stepwise (Holding h R) where
  refl p hp := ⟨hp, hR.refl p⟩
  trans first second hp := by
    obtain ⟨hq, hpq⟩ := first hp
    obtain ⟨hr, hqr⟩ := second hq
    exact ⟨hr, hR.trans hpq hqr⟩

theorem Admits.works (hA : Admits b R) (h : H) : Works b h R := ⟨hA.stepwise, hA.statements h, hA.report, hA.taking⟩

theorem Works.holding (hW : Works b h R) : Stepwise (Holding h R) := Holding.stepwise hW.stepwise

theorem Works.reports (hW : Works b h R) : Reports (Holding h R) := fun e p hp => ⟨hp, hW.report e p.1 p.2⟩

/-- the part of the relation that leaves a session as it is -/
theorem Works.outside (hW : Works b h R) (s : Session H P) : Stepwise fun w w' => R (s, w) (s, w') where
  refl w := hW.stepwise.refl (s, w)
  trans first second := hW.stepwise.trans first second

omit [Reporting W] in
/-- an action outside goes along a relation as far as the session holds the handle -/
theorem lift_respects {t : Task W α}
    (ht : ∀ s : Session H P, s.handle = some h → t.Respects fun w w' => R (s, w) (s, w')) :
    (Task.lift t : Task (Session H P × W) α).Respects (Holding h R) := fun p hp => ⟨hp, ht p.1 hp p.2⟩

/-! ## The handle around an action -/

omit [Reporting W] in
/-- the three ways of an action with the handle open: it was open, it does not open, it is opened and closed again -/
theorem whileOpen_cases (b : Backend W H P) (h : H) (action : Task (Session H P × W) α) (s : Session H P) (w : W) :
    (b.isOpen h w = true ∧ whileOpen b h action (s, w) = action (s, w)) ∨
    (b.isOpen h w = false ∧ ∃ e w', b.openHandle h w = (.error e, w') ∧
      whileOpen b h action (s, w) = (.error e, s, w')) ∨
    (b.isOpen h w = false ∧ ∃ w', b.openHandle h w = (.ok (), w') ∧
      whileOpen b h action (s, w) =
        ((action (s, w')).1, (action (s, w')).2.1, b.closeHandle h (action (s, w')).2.2)) := by
  cases ho : b.isOpen h w with
  | true => exact .inl ⟨rfl, Task.whileOpen_of_open ho⟩
  | false =>
    have start : Task.lift (V := Session H P) (b.openHandle h) (s, w) =
        ((b.openHandle h w).1, s, (b.openHandle h w).2) := rfl
    rcases hopen : b.openHandle h w with ⟨e | _, w'⟩
    · rw [hopen] at start
      exact .inr (.inl ⟨rfl, e, w', rfl, Task.whileOpen_of_refused ho start⟩)
    · rw [hopen] at start
      exact .inr (.inr ⟨rfl, w', rfl, Task.whileOpen_of_started ho start⟩)

omit [Reporting W] in
/-- the two ways of an action with the bound handle: there is none, or the action has it open -/
theorem withHandle_cases (b : Backend W H P) (action : H → Task (Session H P × W) α) (s : Session H P) (w : W) :
    (s.handle = none ∧ withHandle b action (s, w) = (.error .noDatabaseBound, s, w)) ∨
    ∃ h, s.handle = some h ∧ withHandle b action (s, w) = whileOpen b h (action h) (s, w) := by
  unfold withHandle
  cases s.handle with
  | none => exact .inl ⟨rfl, rfl⟩
  | some h => exact .inr ⟨h, rfl, rfl⟩

omit [Reporting W] in
/-- makes a handle ready for a statement: one that is closed is opened -/
def ready (b : Backend W H P) (h : H) : Task W Unit := fun w =>
  if b.isOpen h w then (.ok (), w) else b.openHandle h w

omit [Reporting W] in
theorem ready_of_open {w : W} (ho : b.isOpen h w = true) : ready b h w = (.ok (), w) := if_pos ho

omit [Reporting W] in
theorem ready_of_closed {w : W} (ho : b.isOpen h w = false) : ready b h w = b.openHandle h w := if_neg (by simp [ho])

omit [Reporting W] in
/-- only opening can fail while a handle is made ready -/
theorem ready_error_iff (b : Backend W H P) (h : H) (w : W) (e : DbError) :
    (ready b h w).1 = .error e ↔ b.isOpen h w = false ∧ (b.openHandle h w).1 = .error e := by
  cases ho : b.isOpen h w with
  | true => simp [ready_of_open ho]
  | false => simp [ready_of_closed ho]

omit [Reporting W] in
/-- an action with the handle open answers what it answers once the handle is ready -/
theorem whileOpen_answer (b : Backend W H P) (h : H) (action : Task (Session H P × W) α) (s : Session H P) (w : W) :
    (whileOpen b h action (s, w)).1 = ((Task.lift (ready b h) >>= fun _ => action) (s, w)).1 := by
  have hready : Task.lift (V := Session H P) (ready b h) (s, w) = ((ready b h w).1, s, (ready b h w).2) := rfl
  rw [Task.bind_eq, hready]
  rcases whileOpen_cases b h action s w with ⟨ho, hrun⟩ | ⟨ho, e, w', hopen, hrun⟩ | ⟨ho, w', hopen, hrun⟩
  · rw [hrun, ready_of_open ho]
  · rw [hrun, ready_of_closed ho, hopen]
  · rw [hrun, ready_of_closed ho, hopen]

theorem whileOpen_respects (hA : Admits b R) {action : Task (Session H P × W) α}
    (haction : action.Respects (Holding h R)) : (whileOpen b h action).Respects (Holding h R) := by
  rintro ⟨s, w⟩ hs
  have hopening := hA.opening h s w hs
  rcases whileOpen_cases b h action s w with ⟨-, hrun⟩ | ⟨-, e, w', hopen, hrun⟩ | ⟨-, w', hopen, hrun⟩
  · rw [hrun]
    exact haction (s, w) hs
  · rw [hopen] at hopening
    rw [hrun]
    exact ⟨hs, hopening⟩
  · rw [hopen] at hopening
    rw [hrun]
    obtain ⟨hheld, hacted⟩ := haction (s, w') hs
    have hclosing := hA.closing h (action (s, w')).2.1 (action (s, w')).2.2 hheld
    exact ⟨hheld, hA.stepwise.trans hopening (hA.stepwise.trans hacted hclosing)⟩

theorem withHandle_respects (hA : Admits b R) {action : H → Task (Session H P × W) α}
    (haction : ∀ h, (action h).Respects (Holding h R)) : (withHandle b action).Respects R := by
  rintro ⟨s, w⟩
  rcases withHandle_cases b action s w with ⟨-, hrun⟩ | ⟨h, hs, hrun⟩
  · rw [hrun]
    exact hA.stepwise.refl (s, w)
  · rw [hrun]
    exact (whileOpen_respects hA (haction h) (s, w) hs).2

/-! ## What is done with the handle -/

theorem popAndRun_respects (hW : Works b h R) : (popAndRun b h).Respects (Holding h R) := by
  rintro ⟨s, w⟩ hs
  unfold popAndRun
  cases hstack : s.stack with
  | nil => simpa only [hstack] using And.intro hs (hW.stepwise.refl (s, w))
  | cons u rest =>
    have hunit : (Task.lift (u.run (b.channel h)) : Task (Session H P × W) Outcome).Respects (Holding h R) :=
      lift_respects fun t ht => u.run_respects (hW.outside t) (hW.statements t ht) fun e => hW.report e t
    have htake : (edit fun t : Session H P => { t with stack := rest }).Respects (W := Session H P × W) (Holding h R) :=
      Task.respects_change fun p hp => ⟨hp, hW.taking p.1 p.2 rest⟩
    exact (htake.bind hW.holding fun _ =>
      (Task.respects_report hW.reports _).bind hW.holding fun _ => hunit) (s, w) hs

/-- executing statements on a handle -/
theorem execute_respects (hW : Works b h R) (sql : String) :
    (Task.lift ((b.channel h).execute sql) : Task (Session H P × W) Unit).Respects (Holding h R) :=
  lift_respects fun s hs => (hW.statements s hs).execute sql

/-- counting the rows of a table on a handle, of which a failure is reported -/
theorem counting_respects (hW : Works b h R) (table : String)
    {next : Except DbError Int64 → Task (Session H P × W) Bool}
    (hok : ∀ n, ∃ answer, next (.ok n) = pure answer)
    (herror : ∀ e, ∃ event, next (.error e) = (report event >>= fun _ => pure false)) :
    (Task.attempt (Task.lift ((b.channel h).countRows table)) >>= next).Respects (Holding h R) := by
  have hcount : (Task.lift ((b.channel h).countRows table) : Task (Session H P × W) Int64).Respects (Holding h R) :=
    lift_respects fun s hs => Channel.countRows_respects (hW.outside s) (hW.statements s hs) table
  exact hcount.orFalse hW.holding hW.reports hok herror

/-! ## Errands -/

theorem run_respects (hA : Admits b R) : (run b).Respects R := by
  intro p
  unfold run
  cases p.1.stack with
  | nil => exact hA.stepwise.refl p
  | cons u rest => exact withHandle_respects hA (fun h => popAndRun_respects (hA.works h)) p

theorem exec_respects (hA : Admits b R) (sql : String) : (exec b sql).Respects R :=
  withHandle_respects hA fun h => execute_respects (hA.works h) sql

theorem tableExists_respects (hA : Admits b R) (table : String) : (tableExists b table).Respects R :=
  withHandle_respects hA fun h =>
    counting_respects (hA.works h) table (fun _ => ⟨true, rfl⟩) fun e => ⟨lookupFailed table e, rfl⟩

theorem tableIsEmpty_respects (hA : Admits b R) (table : String) : (tableIsEmpty b table).Respects R := by
  refine (tableExists_respects hA table).bind hA.stepwise fun found => ?_
  cases found with
  | true =>
    exact withHandle_respects hA fun h =>
      counting_respects (hA.works h) table (fun n => ⟨decide (n < 1), rfl⟩) fun e => ⟨countFailed table e, rfl⟩
  | false => exact Task.respects_fail hA.stepwise _

/-- executing a CREATE statement, from what executing statements does -/
theorem createTableSql_respects (hR : Stepwise R) (hrep : Reports R) {sql : String} (hexec : (exec b sql).Respects R) :
    (createTableSql b sql).Respects R := by
  refine hexec.attempt.bind hR fun x => ?_
  split
  · exact Task.respects_pure hR true
  · exact Task.respects_fail hR _
  · exact (Task.respects_report hrep _).bind hR fun _ => Task.respects_pure hR false

theorem Admits.reports (hA : Admits b R) : Reports R := fun e p => hA.report e p.1 p.2

theorem creating_respects (hA : Admits b R) (sql : String) : (createTableSql b sql).Respects R :=
  createTableSql_respects hA.stepwise hA.reports (exec_respects hA sql)

omit [Reporting W] in
theorem dropAnswer_respects {t : Task (Session H P × W) α} (ht : t.Respects R) : t.dropAnswer.Respects R := by
  intro p
  rw [Task.dropAnswer_eq]
  exact ht p

/-- **An errand is made of nothing else.** -/
theorem Errand.perform_respects (hA : Admits b R) (e : Errand) : (e.perform b).Respects R := by
  cases e with
  | run => exact dropAnswer_respects (run_respects hA)
  | exec sql => exact exec_respects hA sql
  | tableExists table => exact dropAnswer_respects (tableExists_respects hA table)
  | tableIsEmpty table => exact dropAnswer_respects (tableIsEmpty_respects hA table)
  | createTable definition =>
    rw [perform, beside_createTable]
    exact dropAnswer_respects (creating_respects hA _)
  | createTableSql sql => exact dropAnswer_respects (creating_respects hA sql)
  | createNewTable definition =>
    rw [perform, beside_createNewTable]
    exact dropAnswer_respects
      ((exec_respects hA _).bind hA.stepwise fun _ => creating_respects hA _)
  | dropTable table => exact exec_respects hA _

end

end FluentSql.Session
