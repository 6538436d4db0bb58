import FluentSql.Embedded.Provider
import FluentSql.Proofs.HookRuns
/-!
What actions on a handle go along. A relation that reports, notes and the requests of some statements go along is
respected by the hooks that ask for those statements only (`Permits.runHook`). If the requests that an opening makes by
itself go along it, too, and it does not matter that the hooks are out of the handle while they run, it is respected by
whole lifecycles (`Allows.runLifecycle`) and, with what connecting and closing do, by openings (`Allows.openUp`).
-/

namespace FluentSql.Embedded.Handle

variable {C S W α : Type} {L : Library C S} {p q : Handle C × S × W} {c : C} {s : S} {e : DbError}

/-! ## Requests and connections -/

/-- an open handle with a connection passes requests on -/
theorem request_live (r : Request α) (hc : p.1.connection = some c) (ho : p.1.isOpen = true) :
    request L r p = (engineOutcome (L.perform r c p.2.1).1,
      { p.1 with connection := some (L.perform r c p.2.1).2.1 }, (L.perform r c p.2.1).2.2, p.2.2) := by
  unfold request
  rw [hc, ho]

/-- a closed handle refuses requests -/
theorem request_closed (r : Request α) (ho : p.1.isOpen = false) : request L r p = (.error (.notOpen p.1.name), p) := by
  unfold request
  rw [ho]
  split
  · contradiction
  · rfl

/-- requests leave the hooks of a handle alone -/
theorem request_hooks (r : Request α) (p : Handle C × S × W) : (request L r p).2.1.hooks = p.1.hooks := by
  unfold request
  split
  · rfl
  · rfl

/-- a handle that has a connection keeps it -/
theorem connected_of_some (hc : p.1.connection = some c) : connected L p = (.ok (), p) := by
  unfold connected
  rw [hc]

theorem connected_of_ok (hnone : p.1.connection = none) (hconnect : connect L p.1.location p.2.1 = (.ok c, s)) :
    connected L p = (.ok (), { p.1 with connection := some c }, s, p.2.2) := by
  unfold connected
  rw [hnone]
  dsimp only
  rw [hconnect]

theorem connected_of_error (hnone : p.1.connection = none)
    (hconnect : connect L p.1.location p.2.1 = (.error e, s)) : connected L p = (.error e, p.1, s, p.2.2) := by
  unfold connected
  rw [hnone]
  dsimp only
  rw [hconnect]

theorem connected_hooks (p : Handle C × S × W) : (connected L p).2.1.hooks = p.1.hooks := by
  unfold connected
  split
  · rfl
  · split
    · rfl
    · rfl

/-- a handle that had no connection and has connected has made one -/
theorem connected_made (hnone : p.1.connection = none) (h : connected L p = (.ok (), q)) :
    ∃ c s, connect L p.1.location p.2.1 = (.ok c, s) ∧ q = ({ p.1 with connection := some c }, s, p.2.2) := by
  rcases hconnect : connect L p.1.location p.2.1 with ⟨e | c, s⟩
  · rw [connected_of_error hnone hconnect] at h
    cases h
  · rw [connected_of_ok hnone hconnect] at h
    cases h
    exact ⟨c, s, rfl, rfl⟩

/-- a handle that cannot connect has no connection, and is left as it was -/
theorem connected_failed (h : connected L p = (.error e, q)) :
    p.1.connection = none ∧ ∃ s, connect L p.1.location p.2.1 = (.error e, s) ∧ q = (p.1, s, p.2.2) := by
  cases hconnection : p.1.connection with
  | some c =>
    rw [connected_of_some hconnection] at h
    cases h
  | none =>
    rcases hconnect : connect L p.1.location p.2.1 with ⟨x | c, s⟩
    · rw [connected_of_error hconnection hconnect] at h
      cases h
      exact ⟨rfl, s, rfl, rfl⟩
    · rw [connected_of_ok hconnection hconnect] at h
      cases h

/-- before connecting a directory may be made, and nothing else -/
theorem prepare_cases (L : Library C S) (location : Location) (s : S) :
    prepare L location s = (.ok (), s) ∨ ∃ dir, prepare L location s = L.makeDirectories dir s := by
  cases location with
  | own => exact .inl rfl
  | shared address => exact .inl rfl
  | file path =>
    unfold prepare makeParent
    dsimp only
    split
    · exact .inr ⟨_, rfl⟩
    · exact .inl rfl

/-- a connection to a location is made where a directory may have been made before -/
theorem connect_made {location : Location} {s t : S} (h : connect L location s = (.ok c, t)) :
    ∃ s', prepare L location s = (.ok (), s') ∧ L.openAt location s' = (.ok c, t) := by
  unfold connect at h
  rcases hmade : prepare L location s with ⟨e | _, s'⟩
  · rw [hmade] at h
    cases h
  · rw [hmade] at h
    dsimp only at h
    rcases hopen : L.openAt location s' with ⟨e | d, u⟩
    · rw [hopen] at h
      cases h
    · rw [hopen] at h
      cases h
      exact ⟨s', rfl, hopen⟩

/-- where a location is not connected to, a directory is not made, or the engine refuses -/
theorem connect_refused {location : Location} {s t : S} (h : connect L location s = (.error e, t)) :
    (∃ why, prepare L location s = (.error why, t)) ∨
      ∃ s' why, prepare L location s = (.ok (), s') ∧ L.openAt location s' = (.error why, t) := by
  unfold connect at h
  rcases hmade : prepare L location s with ⟨why | _, s'⟩
  · rw [hmade] at h
    cases h
    exact .inl ⟨why, rfl⟩
  · rw [hmade] at h
    dsimp only at h
    rcases hopen : L.openAt location s' with ⟨why | d, u⟩
    · rw [hopen] at h
      cases h
      exact .inr ⟨s', why, rfl, hopen⟩
    · rw [hopen] at h
      cases h

/-! ## Parts of the handle changed -/

/-- the handle without its hooks -/
def bare (p : Handle C × S × W) : Handle C × S × W := ({ p.1 with hooks := Hooks.none }, p.2)

/-- the handle with other hooks -/
def given (hooks : Hooks) (p : Handle C × S × W) : Handle C × S × W := ({ p.1 with hooks := hooks }, p.2)

/-- the handle with its flag raised -/
def raised (p : Handle C × S × W) : Handle C × S × W := ({ p.1 with isOpen := true }, p.2)

theorem withHooksOut_eq (action : Hooks → Act C S W α) (p : Handle C × S × W) :
    withHooksOut action p =
      ((action p.1.hooks (bare p)).1, given p.1.hooks (action p.1.hooks (bare p)).2) :=
  Task.ofExcept_eq _ _

variable [Reporting W]

/-! ## The course of an opening -/

/-- a handle that was opened stays open after an answer, and is closed after an error -/
def orClosed (L : Library C S) : Except DbError Unit × Handle C × S × W → Except DbError Unit × Handle C × S × W
  | (.ok (), r) => (.ok (), r)
  | (.error e, r) => (.error e, close L r)

theorem start_eq (L : Library C S) (p : Handle C × S × W) :
    start L p = match connected L p with
      | (.ok (), q) => orClosed L (runLifecycle L (raised q))
      | (.error e, q) => (.error e, q) := by
  unfold start
  rw [Task.bind_eq]
  rcases connected L p with ⟨e | _, q⟩
  · rfl
  · simp only [Task.bind_eq, Task.change, Task.attempt_eq]
    show _ = orClosed L (runLifecycle L ({ q.1 with isOpen := true }, q.2))
    rcases runLifecycle L ({ q.1 with isOpen := true }, q.2) with ⟨e | _, r⟩
    · rfl
    · rfl

theorem openUp_eq (L : Library C S) (p : Handle C × S × W) :
    openUp L p = if p.1.isOpen then (.ok (), p) else start L p := by
  unfold openUp
  simp only [Task.bind_eq, Task.read]
  split
  · rfl
  · rfl

/-- the course of a lifecycle by the version that is stored -/
theorem runLifecycle_eq (L : Library C S) (p : Handle C × S × W) :
    runLifecycle L p =
      if p.1.version < 1 then (.error (.validation (.versionTooLow p.1.version)), p)
      else match storedVersion L p with
        | (.error e, r) => (.error e, r)
        | (.ok k, r) =>
          if p.1.version < k then (.error (.validation (.downgrade p.1.name k p.1.version)), r)
          else
            let x := applyHooks L p.1.name r.1.hooks k p.1.version (bare r)
            (x.1, given r.1.hooks x.2) := by
  unfold runLifecycle
  simp only [Task.bind_eq, Task.read]
  split
  · rfl
  · simp only [Task.bind_eq]
    rcases storedVersion L p with ⟨e | k, r⟩
    · rfl
    · dsimp only
      split
      · rfl
      · exact withHooksOut_eq _ r

/-! ## Permitted statements -/

/-- reporting a statement cannot fail, and shows in the world only -/
theorem logged_run (sql : String) (parameters : Nat) (p : Handle C × S × W) :
    ∃ w, logged sql parameters p = (.ok (), p.1, p.2.1, w) := by
  unfold logged
  split
  · exact ⟨_, rfl⟩
  · exact ⟨_, rfl⟩

/-- where an action leads that reports a statement first -/
theorem reported_run (sql : String) (parameters : Nat) (t : Act C S W α) (p : Handle C × S × W) :
    ∃ w, (do logged sql parameters; t : Act C S W α) p = t (p.1, p.2.1, w) := by
  obtain ⟨w, hlogged⟩ := logged_run sql parameters p
  refine ⟨w, ?_⟩
  rw [Task.bind_eq, hlogged]

omit [Reporting W] in
/-- asking for the id of the last row changes nothing -/
theorem lastId_state (p : Handle C × S × W) : (lastId L p).2 = p := by
  unfold lastId
  split
  · rfl
  · rfl

/-- a statement is reported and makes one request with its text, unless it is an update that sets nothing -/
theorem after_cases (L : Library C S) (s : Statement) (p : Handle C × S × W) :
    (channel L).after s p = p ∨ ∃ (β : Type) (r : Request β) (w : W), r.text? = some s.text ∧
      (channel L).after s p = (request L r (p.1, p.2.1, w)).2 := by
  cases s with
  | execute sql =>
    obtain ⟨w, hrun⟩ := reported_run sql 0 (request L (.batch sql)) p
    exact .inr ⟨_, _, w, rfl, congrArg Prod.snd hrun⟩
  | query q =>
    obtain ⟨w, hrun⟩ := reported_run (SqlText.select q) q.args.length
      (request L (.query (SqlText.select q) (q.args.map .text))) p
    exact .inr ⟨_, _, w, rfl, congrArg Prod.snd hrun⟩
  | insert table values =>
    obtain ⟨w, hrun⟩ := reported_run (SqlText.insert table values) values.size
      (do let _ ← request L (.change (SqlText.insert table values) values.values); lastId L) p
    refine .inr ⟨_, .change (SqlText.insert table values) values.values, w, rfl, (congrArg Prod.snd hrun).trans ?_⟩
    rw [Task.bind_eq]
    rcases request L (.change (SqlText.insert table values) values.values) (p.1, p.2.1, w) with ⟨e | n, q⟩
    · rfl
    · exact lastId_state q
  | update table values condition args =>
    cases hempty : values.isEmpty with
    | true =>
      refine .inl ?_
      show (update L table values condition args p).2 = p
      rw [update, if_pos hempty]
      rfl
    | false =>
      obtain ⟨w, hrun⟩ := reported_run (SqlText.update table values condition)
        (values.values ++ args.map Value.text).length
        (request L (.change (SqlText.update table values condition) (values.values ++ args.map .text))) p
      refine .inr ⟨_, .change (SqlText.update table values condition) (values.values ++ args.map .text), w, rfl, ?_⟩
      show (update L table values condition args p).2 = _
      rw [update, if_neg (by simp [hempty])]
      exact congrArg Prod.snd hrun
  | delete table condition args =>
    obtain ⟨w, hrun⟩ := reported_run (SqlText.delete table condition) args.length
      (request L (.change (SqlText.delete table condition) (args.map .text))) p
    exact .inr ⟨_, _, w, rfl, congrArg Prod.snd hrun⟩

variable {Q : String → Prop} {R : Handle C × S × W → Handle C × S × W → Prop}

/-- a relation that reports, notes, and requests with texts of a kind go along -/
structure Permits (L : Library C S) (Q : String → Prop) (R : Handle C × S × W → Handle C × S × W → Prop) : Prop where
  stepwise : Stepwise R
  emit : Reports R
  note : ∀ n p, R p (Reporting.note n p)
  request : ∀ {α : Type} (r : Request α) (sql : String), r.text? = some sql → Q sql →
    (request L r : Act C S W α).Respects R

omit [Reporting W] in
theorem lastId_respects (hR : Stepwise R) : (lastId L : Act C S W Int64).Respects R := fun p => by
  rw [lastId_state]
  exact hR.refl p

section

variable (hR : Permits L Q R)

include hR

theorem Permits.logged (sql : String) (parameters : Nat) : (logged sql parameters : Act C S W Unit).Respects R := by
  intro p
  unfold Handle.logged
  split
  · exact hR.emit _ p
  · exact hR.stepwise.refl p

/-- a statement is reported and then asked for -/
theorem Permits.reported (parameters : Nat) (r : Request α) {sql : String} (htext : r.text? = some sql) (hsql : Q sql) :
    (do Handle.logged sql parameters; Handle.request L r : Act C S W α).Respects R :=
  (hR.logged sql parameters).bind hR.stepwise fun _ => hR.request r sql htext hsql

theorem Permits.execute {sql : String} (h : Q sql) : (execute L sql : Act C S W Unit).Respects R :=
  hR.reported 0 (.batch sql) rfl h

theorem Permits.channel : (channel L : Channel (Handle C × S × W)).Obeys (fun s => Q s.text) R where
  execute _ h := hR.execute h
  query q h := hR.reported _ (.query (SqlText.select q) _) rfl h
  insert table values h :=
    (hR.logged _ _).bind hR.stepwise fun _ =>
      (hR.request (.change (SqlText.insert table values) values.values) _ rfl h).bind hR.stepwise fun _ =>
        lastId_respects hR.stepwise
  update table values condition args h := by
    show (Handle.update L table values condition args : Act C S W Nat).Respects R
    unfold Handle.update
    split
    · exact Task.respects_fail hR.stepwise _
    · exact hR.reported _ (.change (SqlText.update table values condition) _) rfl h
  delete table condition args h := hR.reported _ (.change (SqlText.delete table condition) _) rfl h

theorem Permits.runHook {hook : Hook} (hasks : hook.Asks fun s => Q s.text) :
    (runHook L hook : Act C S W Unit).Respects R := fun p =>
  Hook.run_obeys hR.stepwise hR.channel hR.note p.1.name (fun q => q.1.isOpen) hasks p

end

/-! ## Lifecycles -/

/-- the statements that an opening asks for by itself -/
def ownStatements : List String := ["BEGIN", "COMMIT", "ROLLBACK"]

/-- a relation that everything goes along which a lifecycle does with hooks that ask for statements of a kind -/
structure Allows (L : Library C S) (Q : String → Prop) (R : Handle C × S × W → Handle C × S × W → Prop) : Prop
    extends Permits L Q R where
  own : ∀ sql ∈ ownStatements, (Handle.request L (.batch sql) : Act C S W Unit).Respects R
  readVersion : (storedVersion L : Act C S W Int).Respects R
  writeVersion : ∀ n, (Handle.request L (.writeVersion n) : Act C S W Unit).Respects R
  /-- it is no matter that the hooks are out of the handle for a while -/
  around : ∀ p q, R (bare p) q → R p (given p.1.hooks q)

section

variable {hooks : Hooks} (hR : Allows L Q R) (hasks : hooks.Ask fun s => Q s.text)

include hR hasks

/-- the hook of a migration, and the writing of the version -/
theorem Allows.migrate (name : String) (current version : Int) :
    (migrate L name hooks current version : Act C S W Unit).Respects R := by
  have hannounced : ∀ e hook, Hook.Asks (fun s => Q s.text) hook →
      (do
        report e
        Handle.runHook L hook
        Handle.request L (.writeVersion version) : Act C S W Unit).Respects R := fun e hook hhook =>
    (Task.respects_report hR.emit e).bind hR.stepwise fun _ =>
      (hR.runHook hhook).bind hR.stepwise fun _ => hR.writeVersion version
  unfold Handle.migrate
  dsimp only
  split
  · split
    · rename_i hook hcreate
      exact hannounced _ hook (hasks.onCreate hook hcreate)
    · exact hR.writeVersion version
  · split
    · rename_i hook hupgrade
      exact hannounced _ _ (hasks.onUpgrade hook current version hupgrade)
    · exact hR.writeVersion version

theorem Allows.migrateOrUndo (name : String) (current version : Int) :
    (migrateOrUndo L name hooks current version : Act C S W Unit).Respects R := by
  have hown : ∀ sql ∈ ownStatements, (Handle.execute L sql : Act C S W Unit).Respects R := fun sql hsql =>
    (hR.logged sql 0).bind hR.stepwise fun _ => hR.own sql hsql
  refine (hown "BEGIN" (by decide)).bind hR.stepwise fun _ =>
    (hR.migrate hasks name current version).attempt.bind hR.stepwise fun x => ?_
  cases x with
  | ok _ => exact hown "COMMIT" (by decide)
  | error e =>
    refine (hown "ROLLBACK" (by decide)).attempt.bind hR.stepwise fun y => ?_
    cases y with
    | ok _ => exact Task.respects_fail hR.stepwise e
    | error why =>
      exact (Task.respects_report hR.emit _).bind hR.stepwise fun _ => Task.respects_fail hR.stepwise e

theorem Allows.afterOpening : (afterOpening L hooks : Act C S W Unit).Respects R := by
  unfold Handle.afterOpening
  cases h : hooks.onOpen with
  | some hook => exact hR.runHook (hasks.onOpen hook h)
  | none => exact Task.respects_pure hR.stepwise ()

theorem Allows.applyHooks (name : String) (current version : Int) :
    (applyHooks L name hooks current version : Act C S W Unit).Respects R := by
  refine Task.Respects.bind hR.stepwise ?_ fun _ => hR.afterOpening hasks
  split
  · exact hR.migrateOrUndo hasks name current version
  · exact Task.respects_pure hR.stepwise ()

end

section

variable (hR : Allows L Q R)

include hR

theorem Allows.runLifecycle {p : Handle C × S × W} (hasks : p.1.hooks.Ask fun s => Q s.text) :
    R p (runLifecycle L p).2 := by
  have hfirst := hR.readVersion p
  have hhooks : (storedVersion L p).2.1.hooks = p.1.hooks := request_hooks _ p
  rw [runLifecycle_eq]
  split
  · exact hR.stepwise.refl p
  · rcases hrun : storedVersion L p with ⟨e | current, r⟩
    · rw [hrun] at hfirst
      exact hfirst
    · rw [hrun] at hfirst hhooks
      dsimp only
      split
      · exact hfirst
      · refine hR.stepwise.trans hfirst (hR.around r _ (hR.applyHooks ?_ _ _ _ (bare r)))
        exact hhooks ▸ hasks

/-- what follows the connecting of a handle, from what the flag and closing do -/
theorem Allows.connectedUp {q : Handle C × S × W} (hasks : q.1.hooks.Ask fun s => Q s.text)
    (hflag : ∀ p, R p (raised p)) (hclose : ∀ p, R p (close L p)) :
    R q (orClosed L (Handle.runLifecycle L (raised q))).2 := by
  have hbefore := hR.stepwise.trans (hflag q) (hR.runLifecycle (p := raised q) hasks)
  rcases hrun : Handle.runLifecycle L (raised q) with ⟨e | _, r⟩
  · rw [hrun] at hbefore
    exact hR.stepwise.trans hbefore (hclose r)
  · rw [hrun] at hbefore
    exact hbefore

/-- opening, from what connecting, the flag and closing do -/
theorem Allows.openUp {p : Handle C × S × W} (hasks : p.1.hooks.Ask fun s => Q s.text)
    (hconnected : R p (connected L p).2) (hflag : ∀ p, R p (raised p)) (hclose : ∀ p, R p (close L p)) :
    R p (openUp L p).2 := by
  have hhooks : (connected L p).2.1.hooks = p.1.hooks := connected_hooks p
  rw [openUp_eq]
  split
  · exact hR.stepwise.refl p
  · rw [start_eq]
    rcases hc : connected L p with ⟨e | _, q⟩
    · rw [hc] at hconnected
      exact hconnected
    · rw [hc] at hconnected hhooks
      exact hR.stepwise.trans hconnected (hR.connectedUp (hhooks ▸ hasks) hflag hclose)

end

/-- a relation that everything goes along is respected by every statement -/
theorem Allows.statements (hR : Allows L (fun _ => True) R) :
    (Handle.channel L : Channel (Handle C × S × W)).Respects R where
  execute sql := hR.channel.execute sql trivial
  query q := hR.channel.query q trivial
  insert table values := hR.channel.insert table values trivial
  update table values condition args := hR.channel.update table values condition args trivial
  delete table condition args := hR.channel.delete table condition args trivial

end FluentSql.Embedded.Handle
