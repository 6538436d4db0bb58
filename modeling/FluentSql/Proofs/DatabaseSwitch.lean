import FluentSql.Proofs.HostConduct
import FluentSql.Proofs.Mirror
import FluentSql.Proofs.Operations
/-!
Switching the database of a session. Opening a database by name, with or without hooks, and opening the named one are
the ways to do it. Each of them either goes to the provider or opens the bound handle or finds nothing to open
(`Switch.perform_cases`), and going to the provider ends in one of three ways (`createOrOpen_calls`).

So there is no half-switched session: what fails leaves all as it was and closes nothing (`Stays`), and what the provider
opened is bound, after which the handle bound before is closed once (`Switches`). Main result: `switch_atomic`.
-/

namespace FluentSql

variable {W H P : Type}

/-- what a switch relies on: a database is opened under the name that was asked for, a handle that is refused stays open
or closed, and a provider that refuses does not reach into the handles that others own -/
structure Backend.SwitchLaws (b : Backend W H P) : Prop where
  keepsNames : b.KeepsNames
  refusedHandle : ∀ {h w e w'}, b.openHandle h w = (.error e, w') → b.isOpen h w' = b.isOpen h w
  refusedProvider : ∀ {p name o w e w'}, b.openDatabase p name o w = (.error e, w') → ∀ h, b.isOpen h w' = b.isOpen h w

/-- **All handles and providers keep to it.** -/
theorem Host.switchLaws : Host.backend.SwitchLaws where
  keepsNames := Host.keepsNames
  refusedHandle {h _ _ _} hopen := (Host.flagLaws h).refused hopen
  refusedProvider hopen _ := Host.isOpen_of_seats (Host.openDatabase_refused hopen)

namespace Session

/-- a way to switch the database -/
inductive Switch where
  | createDb (name : String)
  | createDbWithHooks (name : String) (hooks : Hooks)
  | openDb

namespace Switch

def operation : Switch → Operation H
  | createDb name => .createDb name
  | createDbWithHooks name hooks => .createDbWithHooks name hooks
  | openDb => .openDb

/-- the database that a provider is asked for, and with which hooks; what is bound already is not asked for -/
def demand? (b : Backend W H P) (s : Session H P) : Switch → Option (String × Hooks)
  | createDb name => some (name, .none)
  | createDbWithHooks name hooks => some (name, hooks)
  | openDb => s.dbName.bind fun name => if s.handle.any fun h => b.name h == name then none else some (name, .none)

end Switch

/-! ## How a switch ends -/

/-- nothing was switched: the session and the flag of its handle are as before, and no handle was closed -/
structure Stays (b : Backend W H P) (s : Session H P) (w : W) (s' : Session H P) (calls : List (Request H P)) (w' : W) :
    Prop where
  session : s' = s
  flag : ∀ h, s.handle = some h → b.isOpen h w' = b.isOpen h w
  unclosed : ∀ h, .closeHandle h ∉ calls

/-- the last calls to a handle that another one replaces -/
def farewellCalls (old : Option H) : List (Request H P) := old.elim [] fun h => [.closeHandle h, .release h]

/-- the provider opened a database, the session is bound to it under its name, and then the handle bound before was
closed once; the version, the units and the provider are as before -/
def Switches (b : Backend W H P) (name : String) (hooks : Hooks) (s : Session H P) (w : W) (s' : Session H P)
    (calls : List (Request H P)) : Prop :=
  ∃ provider h v, s.provider = some provider ∧ b.openDatabase provider name ⟨s.dbVersion, hooks⟩ w = (.ok h, v) ∧
    b.name h = name ∧ s' = { s with handle := some h, dbName := some name } ∧
    calls = .openDatabase provider name ⟨s.dbVersion, hooks⟩ :: farewellCalls s.handle

theorem stays_without_calls (b : Backend W H P) (s : Session H P) (w : W) : Stays b s w s [] w :=
  ⟨rfl, fun _ _ => rfl, fun _ => List.not_mem_nil⟩

/-- the calls of binding a new handle: the one bound before is closed and let go of -/
theorem rebind_calls (b : Backend W H P) (name : String) (h : H) (s : Session H P) (l : List (Request H P)) (w : W) :
    rebind b.recorded name h (s, l, w) =
      ({ s with dbName := some name, handle := some h }, l ++ farewellCalls s.handle, (rebind b name h (s, w)).2) := by
  unfold rebind farewellCalls
  cases s.handle with
  | none => exact congrArg (fun l => (_, l, w)) (List.append_nil l).symm
  | some old => exact congrArg (fun l => (_, l, _)) (List.append_assoc ..)

/-- the three ways of opening by name, with their calls: there is no provider, it refuses, or it opens -/
theorem createOrOpen_calls (b : Backend W H P) (name : String) (hooks : Hooks) (s : Session H P) (w : W) :
    createOrOpen b.recorded name hooks (s, [], w) = (.error (.config .noProvider), s, [], w) ∨
    ∃ provider, s.provider = some provider ∧
      ((∃ e w', b.openDatabase provider name ⟨s.dbVersion, hooks⟩ w = (.error e, w') ∧
          createOrOpen b.recorded name hooks (s, [], w) =
            (.error e, s, [.openDatabase provider name ⟨s.dbVersion, hooks⟩], w')) ∨
        ∃ h v w', b.openDatabase provider name ⟨s.dbVersion, hooks⟩ w = (.ok h, v) ∧
          createOrOpen b.recorded name hooks (s, [], w) =
            (.ok (), { s with handle := some h, dbName := some name },
              .openDatabase provider name ⟨s.dbVersion, hooks⟩ :: farewellCalls s.handle, w')) := by
  rcases createOrOpen_cases b.recorded name hooks s ([], w) with
    ⟨-, hrun⟩ | ⟨provider, hprovider, ⟨e, q, hopen, hrun⟩ | ⟨h, q, hopen, hrun⟩⟩
  · exact .inl hrun
  · refine .inr ⟨provider, hprovider, .inl ?_⟩
    rcases hplain : b.openDatabase provider name ⟨s.dbVersion, hooks⟩ w with ⟨x, w'⟩
    simp only [Backend.recorded, Task.recorded, hplain, Prod.mk.injEq] at hopen
    obtain ⟨rfl, rfl⟩ := hopen
    exact ⟨e, w', rfl, hrun⟩
  · refine .inr ⟨provider, hprovider, .inr ?_⟩
    rcases hplain : b.openDatabase provider name ⟨s.dbVersion, hooks⟩ w with ⟨x, v⟩
    simp only [Backend.recorded, Task.recorded, hplain, Prod.mk.injEq] at hopen
    obtain ⟨rfl, rfl⟩ := hopen
    exact ⟨h, v, _, rfl, hrun.trans (congrArg (Prod.mk _) (rebind_calls b name h s _ v))⟩

/-- opening by name binds what the provider opened, or leaves all as it was -/
theorem createOrOpen_switches {b : Backend W H P} (hb : b.SwitchLaws) (name : String) (hooks : Hooks)
    (s : Session H P) (w : W) :
    ∃ x s' calls w', createOrOpen b.recorded name hooks (s, [], w) = (x, s', calls, w') ∧
      (∀ e, x = .error e → Stays b s w s' calls w') ∧ (x = .ok () → Switches b name hooks s w s' calls) := by
  rcases createOrOpen_calls b name hooks s w with
    hrun | ⟨provider, hprovider, ⟨e, w', hopen, hrun⟩ | ⟨h, v, w', hopen, hrun⟩⟩
  · refine ⟨_, _, _, _, hrun, fun _ _ => stays_without_calls b s w, fun hok => ?_⟩
    cases hok
  · refine ⟨_, _, _, _, hrun, fun _ _ => ⟨rfl, fun h _ => hb.refusedProvider hopen h, fun h hmem => ?_⟩, fun hok => ?_⟩
    · cases List.mem_singleton.1 hmem
    · cases hok
  · refine ⟨_, _, _, _, hrun, fun e herror => ?_, fun _ => ?_⟩
    · cases herror
    · exact ⟨provider, h, v, hprovider, hopen, hb.keepsNames hopen, rfl, rfl⟩

variable [Reporting W]

/-- a switch goes to the provider, opens the bound handle, or finds nothing to open -/
theorem Switch.perform_cases (b : Backend W H P) (op : Switch) (s : Session H P) (w : W) :
    (∃ name hooks, op.demand? b s = some (name, hooks) ∧
      op.operation.perform b (s, w) = createOrOpen b name hooks (s, w)) ∨
    (∃ h, s.handle = some h ∧ op.demand? b s = none ∧
      op.operation.perform b (s, w) = ((b.openHandle h w).1, s, (b.openHandle h w).2)) ∨
    op.operation.perform b (s, w) = (.error .noDatabaseBound, s, w) := by
  cases op with
  | createDb name => exact .inl ⟨name, .none, rfl, rfl⟩
  | createDbWithHooks name hooks => exact .inl ⟨name, hooks, rfl, rfl⟩
  | openDb =>
    show (∃ name hooks, openDb.demand? b s = some (name, hooks) ∧
        Session.openDb b (s, w) = createOrOpen b name hooks (s, w)) ∨
      (∃ h, s.handle = some h ∧ openDb.demand? b s = none ∧
        Session.openDb b (s, w) = ((b.openHandle h w).1, s, (b.openHandle h w).2)) ∨
      Session.openDb b (s, w) = (.error .noDatabaseBound, s, w)
    unfold Session.openDb demand?
    cases hn : s.dbName with
    | none =>
      cases hh : s.handle with
      | none => exact .inr (.inr rfl)
      | some h => exact .inr (.inl ⟨h, rfl, rfl, rfl⟩)
    | some name =>
      cases hh : s.handle with
      | none =>
        cases hp : s.provider with
        | none => exact .inr (.inr rfl)
        | some provider => exact .inl ⟨name, .none, rfl, rfl⟩
      | some h =>
        by_cases heq : b.name h = name
        · have hsame : (b.name h == name) = true := beq_iff_eq.2 heq
          refine .inr (.inl ⟨h, rfl, if_pos hsame, ?_⟩)
          dsimp only
          rw [if_neg (by rw [bne, hsame]; decide)]
          rfl
        · have hother : (b.name h == name) = false := beq_eq_false_iff_ne.2 heq
          refine .inl ⟨name, .none, if_neg (by rw [Option.any, hother]; decide), ?_⟩
          dsimp only
          rw [if_pos (by rw [bne, hother]; decide)]
          rfl

/-- **Switching the database is atomic.** A switch that fails leaves the session and the flag of its handle as they were
and closes nothing. One that goes to the provider and succeeds binds the new handle under the requested name, and closes
the handle bound before once, after the new one was opened. -/
theorem switch_atomic {b : Backend W H P} (hb : b.SwitchLaws) (op : Switch) (s : Session H P) (w : W) :
    ∃ x s' calls w', op.operation.perform b.recorded (s, [], w) = (x, s', calls, w') ∧
      op.operation.perform b (s, w) = (x, s', w') ∧ (∀ e, x = .error e → Stays b s w s' calls w') ∧
      (x = .ok () → ∀ name hooks, op.demand? b s = some (name, hooks) → Switches b name hooks s w s' calls) := by
  -- watching changes nothing, so the ways a watched switch ends are those of the plain one
  have hplain : ∀ {x s' calls w'}, op.operation.perform b.recorded (s, [], w) = (x, s', calls, w') →
      op.operation.perform b (s, w) = (x, s', w') := by
    intro x s' calls w' hrun
    have hmirror := op.operation.perform_mirrors b.recorded_mirrors (s, [], w)
    rw [hrun] at hmirror
    exact hmirror
  rcases op.perform_cases b.recorded s ([], w) with ⟨name, hooks, hdemand, hrun⟩ | ⟨h, hh, hdemand, hrun⟩ | hrun
  · obtain ⟨x, s', calls, w', hcreate, hstays, hswitches⟩ := createOrOpen_switches hb name hooks s w
    refine ⟨x, s', calls, w', hrun.trans hcreate, hplain (hrun.trans hcreate), hstays, fun hok name' hooks' hasked => ?_⟩
    have hsame : some (name, hooks) = some (name', hooks') := hdemand.symm.trans hasked
    cases hsame
    exact hswitches hok
  · refine ⟨_, _, _, _, hrun, hplain hrun, fun e herror => ⟨rfl, fun g hg => ?_, fun g hmem => ?_⟩,
      fun _ name hooks hasked => ?_⟩
    · cases hh.symm.trans hg
      exact hb.refusedHandle (Prod.ext herror rfl)
    · cases List.mem_singleton.1 hmem
    · cases hdemand.symm.trans hasked
  · refine ⟨_, _, _, _, hrun, hplain hrun, fun _ _ => stays_without_calls b s w, fun hok => ?_⟩
    cases hok

/-- a session that is bound to one database and names another, with a unit that waits -/
def misnamed : Session HandleRef Source :=
  ⟨some .script, some (Host.first "a.db"), some "b.db", 3, [WorkUnit.empty]⟩

/-- opening the named database replaces the bound one: open the new one, then close the old one -/
theorem misnamed_replaced :
    Host.backend.SwitchLaws ∧ Switch.openDb.demand? Host.backend misnamed = some ("b.db", .none) ∧
    ∃ w', Session.openDb Host.backend.recorded (misnamed, [], Host.rehearsing "a.db" .standard) =
        (.ok (), ⟨some .script, some ⟨1, "b.db"⟩, some "b.db", 3, [WorkUnit.empty]⟩,
          [.openDatabase .script "b.db" ⟨3, .none⟩, .closeHandle (Host.first "a.db"), .release (Host.first "a.db")], w') ∧
      Switches Host.backend "b.db" .none misnamed (Host.rehearsing "a.db" .standard)
        ⟨some .script, some ⟨1, "b.db"⟩, some "b.db", 3, [WorkUnit.empty]⟩
        [.openDatabase .script "b.db" ⟨3, .none⟩, .closeHandle (Host.first "a.db"), .release (Host.first "a.db")] := by
  obtain ⟨x, s', calls, w', hrun, -, -, hswitches⟩ :=
    switch_atomic Host.switchLaws .openDb misnamed (Host.rehearsing "a.db" .standard)
  cases hrun
  exact ⟨Host.switchLaws, rfl, _, rfl, hswitches rfl "b.db" .none rfl⟩

end Session

end FluentSql
