import FluentSql.Proofs.HandleRelations
/-!
Two runs side by side. Two actions agree along a relation between their states if from related states they answer the
same and end in related states (`Task.Agrees`). Agreement goes through sequences, failures and looks at outcomes, so a
hook agrees with itself as soon as the statements do that it asks for (`Hook.run_agrees`), and openings of one handle
agree as soon as requests, connecting and closing do (`Handle.Corresponds.openUp`).
-/

namespace FluentSql

variable {V W α β : Type} {R : V → W → Prop}

namespace Task

/-- from related states the same answer, and related states afterwards -/
def Agrees (R : V → W → Prop) (t : Task V α) (u : Task W α) : Prop :=
  ∀ v w, R v w → (t v).1 = (u w).1 ∧ R (t v).2 (u w).2

theorem agrees_pure (a : α) : (pure a : Task V α).Agrees R (pure a) := fun _ _ h => ⟨rfl, h⟩

theorem agrees_fail (e : DbError) : (fail e : Task V α).Agrees R (fail e) := fun _ _ h => ⟨rfl, h⟩

theorem agrees_change {f : V → V} {g : W → W} (hfg : ∀ v w, R v w → R (f v) (g w)) : (change f).Agrees R (change g) :=
  fun v w h => ⟨rfl, hfg v w h⟩

/-- where the one action gets, the other one gets, too -/
theorem Agrees.follow {t : Task V α} {u : Task W α} (ht : t.Agrees R u) {v : V} {w w' : W} {x : Except DbError α}
    (h : R v w) (hu : u w = (x, w')) : ∃ v', t v = (x, v') ∧ R v' w' := by
  obtain ⟨hanswer, hafter⟩ := ht v w h
  rw [hu] at hanswer hafter
  exact ⟨(t v).2, Prod.ext hanswer rfl, hafter⟩

theorem Agrees.bind {t : Task V α} {u : Task W α} {next : α → Task V β} {next' : α → Task W β} (ht : t.Agrees R u)
    (hnext : ∀ a, (next a).Agrees R (next' a)) : (t >>= next).Agrees R (u >>= next') := by
  intro v w h
  rcases hw : u w with ⟨x, w'⟩
  obtain ⟨v', hv, hafter⟩ := ht.follow h hw
  rw [bind_eq, bind_eq, hv, hw]
  cases x with
  | error e => exact ⟨rfl, hafter⟩
  | ok a => exact hnext a v' w' hafter

theorem Agrees.attempt {t : Task V α} {u : Task W α} (ht : t.Agrees R u) : (attempt t).Agrees R (attempt u) := by
  intro v w h
  obtain ⟨hanswer, hafter⟩ := ht v w h
  exact ⟨congrArg Except.ok hanswer, hafter⟩

end Task

/-! ## Statements and hooks -/

/-- statement for statement the same answers, and related states afterwards -/
structure Channel.Agrees (R : V → W → Prop) (c : Channel V) (d : Channel W) : Prop where
  execute : ∀ sql, (c.execute sql).Agrees R (d.execute sql)
  query : ∀ q, (c.query q).Agrees R (d.query q)
  insert : ∀ table values, (c.insert table values).Agrees R (d.insert table values)
  update : ∀ table values condition args,
    (c.update table values condition args).Agrees R (d.update table values condition args)
  delete : ∀ table condition args, (c.delete table condition args).Agrees R (d.delete table condition args)

/-- the same of the statements of a kind -/
structure Channel.AgreesOn (Q : Statement → Prop) (R : V → W → Prop) (c : Channel V) (d : Channel W) : Prop where
  execute : ∀ sql, Q (.execute sql) → (c.execute sql).Agrees R (d.execute sql)
  query : ∀ q, Q (.query q) → (c.query q).Agrees R (d.query q)
  insert : ∀ table values, Q (.insert table values) → (c.insert table values).Agrees R (d.insert table values)
  update : ∀ table values condition args, Q (.update table values condition args) →
    (c.update table values condition args).Agrees R (d.update table values condition args)
  delete : ∀ table condition args, Q (.delete table condition args) →
    (c.delete table condition args).Agrees R (d.delete table condition args)

/-- what follows a statement agrees if it agrees after each answer -/
theorem Task.Agrees.andThen {t : Task V α} {u : Task W α} (ht : t.Agrees R u)
    {next : Except DbError α → Task V β} {next' : Except DbError α → Task W β}
    (hnext : ∀ x, (next x).Agrees R (next' x)) :
    Task.Agrees R (fun v => next (t v).1 (t v).2) (fun w => next' (u w).1 (u w).2) := by
  intro v w h
  obtain ⟨hanswer, hafter⟩ := ht v w h
  dsimp only
  rw [hanswer]
  exact hnext _ _ _ hafter

section

variable [Reporting V] [Reporting W] {Q : Statement → Prop} {c : Channel V} {d : Channel W} {isOpen : V → Bool}
  {isOpen' : W → Bool}

/-- **A hook that asks the same finds the same.** -/
theorem Hook.run_agrees (hc : c.AgreesOn Q R d) (hopen : ∀ v w, R v w → isOpen v = isOpen' w)
    (hnote : ∀ n v w, R v w → R (Reporting.note n v) (Reporting.note n w)) (name : String) {hook : Hook}
    (hasks : hook.Asks Q) : (hook.run c name isOpen).Agrees R (hook.run d name isOpen') := by
  induction hook with
  | done => exact Task.agrees_pure ()
  | fail e => exact Task.agrees_fail e
  | look next ih =>
    intro v w h
    have hsame := hopen v w h
    simp only [Hook.run, hsame]
    exact ih _ _ (hasks _ _) v w h
  | note n next ih => exact fun v w h => ih hasks _ _ (hnote n v w h)
  | execute sql next ih => exact (hc.execute sql hasks.1).andThen fun x => ih x (hasks.2 x)
  | query q next ih => exact (hc.query q hasks.1).andThen fun x => ih x (hasks.2 x)
  | insert table values next ih => exact (hc.insert table values hasks.1).andThen fun x => ih x (hasks.2 x)
  | update table values condition args next ih =>
    exact (hc.update table values condition args hasks.1).andThen fun x => ih x (hasks.2 x)
  | delete table condition args next ih =>
    exact (hc.delete table condition args hasks.1).andThen fun x => ih x (hasks.2 x)

omit [Reporting V] [Reporting W] in
/-- statements of a kind are answered alike -/
theorem Channel.AgreesOn.ask (hc : c.AgreesOn Q R d) {s : Statement} (hs : Q s) : (c.ask s).Agrees R (d.ask s) := by
  cases s with
  | execute sql => exact (hc.execute sql hs).bind fun _ => Task.agrees_pure _
  | query q => exact (hc.query q hs).bind fun _ => Task.agrees_pure _
  | insert table values => exact (hc.insert table values hs).bind fun _ => Task.agrees_pure _
  | update table values condition args =>
    exact (hc.update table values condition args hs).bind fun _ => Task.agrees_pure _
  | delete table condition args => exact (hc.delete table condition args hs).bind fun _ => Task.agrees_pure _

end

/-! ## Lifecycles -/

namespace Embedded.Handle

variable {C S : Type} {L : Library C S} [Reporting V] [Reporting W] {Q : String → Prop}
  {R : Handle C × S × V → Handle C × S × W → Prop}

/-- a relation between states with the same handle, but for its connection, along which reports and requests agree -/
structure Corresponds (L : Library C S) (Q : String → Prop) (R : Handle C × S × V → Handle C × S × W → Prop) :
    Prop where
  handle : ∀ p q, R p q → q.1 = { p.1 with connection := q.1.connection }
  emit : ∀ e p q, R p q → R (Reporting.emit e p) (Reporting.emit e q)
  note : ∀ n p q, R p q → R (Reporting.note n p) (Reporting.note n q)
  given : ∀ hooks p q, R p q → R (given hooks p) (given hooks q)
  own : ∀ sql ∈ ownStatements, Q sql
  request : ∀ {α : Type} (r : Request α), (∀ sql, r.text? = some sql → Q sql) →
    (request L r : Act C S V α).Agrees R (request L r)
  lastId : (lastId L : Act C S V Int64).Agrees R (lastId L)

section

variable (hR : Corresponds L Q R)

include hR

theorem Corresponds.isOpen {p : Handle C × S × V} {q : Handle C × S × W} (h : R p q) : p.1.isOpen = q.1.isOpen := by
  rw [hR.handle p q h]

theorem Corresponds.report (e : Event) : (FluentSql.report e : Act C S V Unit).Agrees R (FluentSql.report e) :=
  Task.agrees_change (hR.emit e)

theorem Corresponds.logged (sql : String) (parameters : Nat) :
    (logged sql parameters : Act C S V Unit).Agrees R (logged sql parameters) := by
  intro p q h
  have hsame := hR.handle p q h
  unfold Handle.logged
  rw [show q.1.log = p.1.log by rw [hsame], show q.1.name = p.1.name by rw [hsame]]
  split
  · exact hR.report _ p q h
  · exact ⟨rfl, h⟩

theorem Corresponds.reported {α : Type} (parameters : Nat) (r : Request α) {sql : String} (htext : r.text? = some sql)
    (hsql : Q sql) :
    (do Handle.logged sql parameters; Handle.request L r : Act C S V α).Agrees R
      (do Handle.logged sql parameters; Handle.request L r) :=
  (hR.logged sql parameters).bind fun _ => hR.request r fun other hother => by
    rw [htext] at hother
    cases hother
    exact hsql

theorem Corresponds.execute {sql : String} (hsql : Q sql) :
    (execute L sql : Act C S V Unit).Agrees R (execute L sql) :=
  hR.reported 0 (.batch sql) rfl hsql

theorem Corresponds.channel : (channel L : Channel (Handle C × S × V)).AgreesOn (fun s => Q s.text) R (channel L) where
  execute _ h := hR.execute h
  query q h := hR.reported _ (.query (SqlText.select q) _) rfl h
  insert table values h :=
    (hR.logged _ _).bind fun _ =>
      (hR.request (.change (SqlText.insert table values) values.values) fun _ hother => by cases hother; exact h).bind
        fun _ => hR.lastId
  update table values condition args h := by
    show (Handle.update L table values condition args : Act C S V Nat).Agrees R (Handle.update L table values condition args)
    unfold Handle.update
    split
    · exact Task.agrees_fail _
    · exact hR.reported _ (.change (SqlText.update table values condition) _) rfl h
  delete table condition args h := hR.reported _ (.change (SqlText.delete table condition) _) rfl h

theorem Corresponds.runHook {hook : Hook} (hasks : hook.Asks fun s => Q s.text) :
    (runHook L hook : Act C S V Unit).Agrees R (runHook L hook) := by
  intro p q h
  unfold Handle.runHook
  rw [show q.1.name = p.1.name by rw [hR.handle p q h]]
  exact Hook.run_agrees hR.channel (fun _ _ h => hR.isOpen h) hR.note p.1.name hasks p q h

theorem Corresponds.writeVersion (n : Int) :
    (Handle.request L (.writeVersion n) : Act C S V Unit).Agrees R (Handle.request L (.writeVersion n)) :=
  hR.request _ fun _ htext => by cases htext

variable {hooks : Hooks} (hasks : hooks.Ask fun s => Q s.text)

include hasks

theorem Corresponds.migrate (name : String) (current version : Int) :
    (migrate L name hooks current version : Act C S V Unit).Agrees R (migrate L name hooks current version) := by
  have hwrite := hR.writeVersion version
  have hannounced : ∀ {k : Hook}, k.Asks (fun s => Q s.text) → ∀ e,
      (do
        FluentSql.report e
        Handle.runHook L k
        Handle.request L (.writeVersion version) : Act C S V Unit).Agrees R (do
        FluentSql.report e
        Handle.runHook L k
        Handle.request L (.writeVersion version)) := fun hk e =>
    (hR.report e).bind fun _ => (hR.runHook hk).bind fun _ => hwrite
  unfold Handle.migrate
  dsimp only
  split
  · split
    · rename_i hook hcreate
      exact hannounced (hasks.onCreate hook hcreate) _
    · exact hwrite
  · split
    · rename_i hook hupgrade
      exact hannounced (hasks.onUpgrade hook current version hupgrade) _
    · exact hwrite

theorem Corresponds.migrateOrUndo (name : String) (current version : Int) :
    (migrateOrUndo L name hooks current version : Act C S V Unit).Agrees R
      (migrateOrUndo L name hooks current version) := by
  have hown : ∀ sql ∈ ownStatements, (Handle.execute L sql : Act C S V Unit).Agrees R (Handle.execute L sql) :=
    fun sql hsql => hR.execute (hR.own sql hsql)
  refine (hown "BEGIN" (by decide)).bind fun _ => (hR.migrate hasks name current version).attempt.bind fun x => ?_
  cases x with
  | ok _ => exact hown "COMMIT" (by decide)
  | error e =>
    refine (hown "ROLLBACK" (by decide)).attempt.bind fun y => ?_
    cases y with
    | ok _ => exact Task.agrees_fail e
    | error why => exact (hR.report _).bind fun _ => Task.agrees_fail e

theorem Corresponds.applyHooks (name : String) (current version : Int) :
    (applyHooks L name hooks current version : Act C S V Unit).Agrees R (applyHooks L name hooks current version) := by
  refine Task.Agrees.bind ?_ fun _ => ?_
  · split
    · exact hR.migrateOrUndo hasks name current version
    · exact Task.agrees_pure ()
  · unfold Handle.afterOpening
    cases h : hooks.onOpen with
    | some hook => exact hR.runHook (hasks.onOpen hook h)
    | none => exact Task.agrees_pure ()

end

/-! ## Opening -/

section

variable (hR : Corresponds L Q R) {p : Handle C × S × V} {q : Handle C × S × W}

include hR

theorem Corresponds.runLifecycle (h : R p q) (hasks : p.1.hooks.Ask fun s => Q s.text) :
    (runLifecycle L p).1 = (runLifecycle L q).1 ∧ R (runLifecycle L p).2 (runLifecycle L q).2 := by
  have hsame := hR.handle p q h
  rw [runLifecycle_eq, runLifecycle_eq, show q.1.version = p.1.version by rw [hsame],
    show q.1.name = p.1.name by rw [hsame]]
  split
  · exact ⟨rfl, h⟩
  · rcases hq : storedVersion L q with ⟨x, q'⟩
    obtain ⟨p', hp, hafter⟩ := (hR.request .readVersion fun _ htext => by cases htext).follow h hq
    have hread : storedVersion L p = (x, p') := hp
    have hhooks : (storedVersion L p).2.1.hooks = p.1.hooks := request_hooks _ p
    rw [hread] at hhooks ⊢
    cases x with
    | error e => exact ⟨rfl, hafter⟩
    | ok k =>
      dsimp only
      split
      · exact ⟨rfl, hafter⟩
      · have hbare : R (bare p') (bare q') := hR.given Hooks.none p' q' hafter
        rw [show q'.1.hooks = p'.1.hooks by rw [hR.handle p' q' hafter]]
        have hrun := hR.applyHooks (hhooks ▸ hasks) p.1.name k p.1.version _ _ hbare
        exact ⟨hrun.1, hR.given _ _ _ hrun.2⟩

/-- **Two states with the same handle open alike**, if they connect and close alike. -/
theorem Corresponds.openUp (h : R p q) (hasks : p.1.hooks.Ask fun s => Q s.text)
    (hconnected : p.1.isOpen = false →
      (connected L p).1 = (connected L q).1 ∧ R (connected L p).2 (connected L q).2)
    (hflag : ∀ p q, R p q → R (raised p) (raised q)) (hclose : ∀ p q, R p q → R (close L p) (close L q)) :
    (openUp L p).1 = (openUp L q).1 ∧ R (openUp L p).2 (openUp L q).2 := by
  rw [openUp_eq, openUp_eq, ← hR.isOpen h]
  cases hopen : p.1.isOpen with
  | true => exact ⟨rfl, h⟩
  | false =>
    obtain ⟨hanswer, hafter⟩ := hconnected hopen
    have hhooks := connected_hooks (L := L) p
    simp only [Bool.false_eq_true, if_false]
    rw [start_eq, start_eq]
    rcases hp : connected L p with ⟨x, p'⟩
    rcases hq : connected L q with ⟨y, q'⟩
    rw [hp, hq] at hanswer hafter
    rw [hp] at hhooks
    dsimp only at hanswer
    subst hanswer
    cases x with
    | error e => exact ⟨rfl, hafter⟩
    | ok _ =>
      obtain ⟨hlast, hend⟩ := hR.runLifecycle (hflag p' q' hafter) (p := raised p') (hhooks ▸ hasks)
      dsimp only
      rcases hrun : Handle.runLifecycle L (raised p') with ⟨z, r⟩
      rcases hrun' : Handle.runLifecycle L (raised q') with ⟨z', r'⟩
      rw [hrun, hrun'] at hlast hend
      dsimp only at hlast
      subst hlast
      cases z with
      | error e => exact ⟨rfl, hclose r r' hend⟩
      | ok _ => exact ⟨rfl, hend⟩

end

end Embedded.Handle

end FluentSql
