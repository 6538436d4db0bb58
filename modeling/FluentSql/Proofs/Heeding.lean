import FluentSql.Proofs.EntityOperations
import FluentSql.Proofs.Operations
/-!
Refused calls are not ignored. An action heeds its calls if a good answer means that every call it made was answered
(`Task.Heeds`): what goes on after a refusal has to end in an error or in an answer that is not good. Sequences need a
good answer of their last part only, and an error that is caught needs an answer that is not good.

Statements, units and sessions heed their calls, and an entity operation that answers true does
(`Entity.Operation.perform_heeds`). Nothing is assumed about the calls.
-/

namespace FluentSql

variable {V W H P α β : Type}

/-- every call that was written down since was answered -/
abbrev AllAnswered (l l' : List (Sighting H P)) : Prop := Adds (fun c => c.answered = true) l l'

namespace Task

/-- if the action gives a good answer, then every call that it made was answered -/
def Heeds (log : V → List (Sighting H P)) (good : α → Prop) (t : Task V α) : Prop :=
  ∀ v a v', t v = (.ok a, v') → good a → AllAnswered (log v) (log v')

/-- every answer is good -/
abbrev Careful (log : V → List (Sighting H P)) (t : Task V α) : Prop := t.Heeds log fun _ => True

section

variable {log : V → List (Sighting H P)} {good : α → Prop}

theorem Careful.heeds {t : Task V α} (ht : t.Careful log) : t.Heeds log good := fun v a v' hrun _ =>
  ht v a v' hrun trivial

theorem careful_pure (a : α) : (pure a : Task V α).Careful log := fun _ _ _ hrun _ => by
  cases hrun
  exact adds_refl _ _

theorem Fails.heeds {t : Task V α} (ht : t.Fails) : t.Heeds log good := fun v a v' hrun _ => by
  obtain ⟨e, w, hfailed⟩ := ht v
  rw [hfailed] at hrun
  cases hrun

theorem heeds_fail (e : DbError) : (fail e : Task V α).Heeds log good := (fails_fail e).heeds

theorem careful_read (f : V → α) : (read f).Careful log := fun _ _ _ hrun _ => by
  cases hrun
  exact adds_refl _ _

/-- a change that makes no call, or calls that are always answered -/
theorem careful_change {f : V → V} (hf : ∀ v, AllAnswered (log v) (log (f v))) : (change f).Careful log :=
  fun _ _ _ hrun _ => by
    cases hrun
    exact hf _

theorem careful_report [Reporting V] (hrep : ∀ e v, log (Reporting.emit e v) = log v) (e : Event) :
    (report e : Task V Unit).Careful log :=
  careful_change fun v => by
    rw [hrep]
    exact adds_refl _ _

theorem Heeds.bind {good' : β → Prop} {t : Task V α} {next : α → Task V β} (ht : t.Careful log)
    (hnext : ∀ a, (next a).Heeds log good') : (t >>= next).Heeds log good' := by
  intro u b w hrun hgood
  obtain ⟨a, v, hfirst, hsecond⟩ := bind_eq_ok_iff.1 hrun
  exact (ht u a v hfirst trivial).trans (hnext a v b w hsecond hgood)

/-- an error that is caught is answered by nothing good -/
theorem Heeds.caught {good' : β → Prop} {t : Task V α} {next : Except DbError α → Task V β} (ht : t.Careful log)
    (hok : ∀ a, (next (.ok a)).Heeds log good')
    (herror : ∀ e v answer v', next (.error e) v = (.ok answer, v') → ¬ good' answer) :
    (attempt t >>= next).Heeds log good' := by
  intro v answer v' hrun hgood
  rw [bind_eq, attempt_eq] at hrun
  rcases hfirst : t v with ⟨e | a, u⟩
  · rw [hfirst] at hrun
    exact absurd hgood (herror e u answer v' hrun)
  · rw [hfirst] at hrun
    exact (ht v a u hfirst trivial).trans (hok a u answer v' hrun hgood)

/-- an action on a part of a state, in which the calls are kept -/
theorem Heeds.within {U : Type} {log' : U → List (Sighting H P)} {get : U → V} {put : V → U → U} {t : Task V α}
    (ht : t.Heeds log good) (hget : ∀ u, log (get u) = log' u)
    (hput : ∀ v u, log' (put v u) = log v) : (Task.within get put t).Heeds log' good := by
  intro u a u' hrun hgood
  simp only [Task.within] at hrun
  rcases hpart : t (get u) with ⟨x, v⟩
  rw [hpart] at hrun
  cases hrun
  rw [← hget, hput]
  exact ht (get u) a v hpart hgood

theorem Heeds.lift {S : Type} {t : Task V α} (ht : t.Heeds log good) :
    (Task.lift t : Task (S × V) α).Heeds (fun p => log p.2) good := ht.within (fun _ => rfl) fun _ _ => rfl

end

/-- a call that is written down -/
theorem careful_observed (r : Request H P) (isOpen : W → Bool) (t : Task W α) :
    (t.observed r isOpen).Careful Prod.fst := by
  rintro ⟨l, w⟩ a ⟨l', w'⟩ hrun -
  obtain ⟨rfl, -⟩ := of_observed hrun
  have hanswered : Sighting.answered ⟨r, isOpen w, (Except.ok a : Except DbError α).toBool⟩ = true := rfl
  exact adds_one hanswered l

end Task

/-! ## Statements and units -/

/-- every statement of a handle heeds its call -/
structure Channel.Careful (log : V → List (Sighting H P)) (c : Channel V) : Prop where
  execute : ∀ sql, (c.execute sql).Careful log
  query : ∀ q, (c.query q).Careful log
  insert : ∀ table values, (c.insert table values).Careful log
  update : ∀ table values condition args, (c.update table values condition args).Careful log
  delete : ∀ table condition args, (c.delete table condition args).Careful log

theorem Channel.observed_careful (h : H) (isOpen : W → Bool) (c : Channel W) :
    (c.observed h isOpen).Careful (Prod.fst : List (Sighting H P) × W → _) where
  execute _ := Task.careful_observed _ _ _
  query _ := Task.careful_observed _ _ _
  insert _ _ := Task.careful_observed _ _ _
  update _ _ _ _ := Task.careful_observed _ _ _
  delete _ _ _ := Task.careful_observed _ _ _

section

variable {log : V → List (Sighting H P)} {c : Channel V} (hc : c.Careful log)

include hc

variable [Reporting V]

omit hc in
/-- what catches a refusal in a unit fails in the end -/
theorem Task.careful_compositional (log : V → List (Sighting H P)) :
    Compositional fun _ (t _ : Task V _) => t.Careful log where
  answer := careful_pure
  failure _ := heeds_fail _
  reported event e := (fails_behind (report event) fun _ => fails_fail e).heeds
  sequence ht hnext := Heeds.bind ht hnext
  caught ht hnext hfails := Heeds.caught ht (fun a => hnext (.ok a)) fun e v answer v' hrun => by
    obtain ⟨e', w, hfailed⟩ := hfails e v
    rw [hfailed] at hrun
    cases hrun

theorem WorkUnit.run_careful (u : WorkUnit) : (u.run c).Careful log :=
  u.run_related (Task.careful_compositional log) (c := c) (d := c)
    ⟨hc.execute, hc.query, hc.insert, hc.update, hc.delete⟩

end

/-! ## Sessions -/

namespace Session

/-- what was seen so far -/
abbrev seen (p : Watched W H P) : List (Sighting H P) := p.2.1

variable (b : Backend W H P)

theorem closing_answered (h : H) (p : List (Sighting H P) × W) : AllAnswered p.1 (b.observed.closeHandle h p).1 := by
  have hanswered : Sighting.answered (⟨.closeHandle h, b.isOpen h p.2, true⟩ : Sighting H P) = true := rfl
  exact adds_one hanswered p.1

theorem releasing_answered (h : H) (p : List (Sighting H P) × W) : AllAnswered p.1 (b.observed.release h p).1 := by
  have hanswered : Sighting.answered (⟨.release h, b.isOpen h p.2, true⟩ : Sighting H P) = true := rfl
  exact adds_one hanswered p.1

theorem withHandle_careful {action : H → Task (Watched W H P) α} (haction : ∀ h, (action h).Careful seen) :
    (withHandle b.observed action).Careful seen := by
  rintro ⟨s, l, w⟩ a v' hrun -
  rcases withHandle_cases b.observed action s (l, w) with ⟨-, hnone⟩ | ⟨h, -, hheld⟩
  · rw [hnone] at hrun
    cases hrun
  · rw [hheld] at hrun
    rcases whileOpen_cases b.observed h (action h) s (l, w) with
      ⟨-, hopen⟩ | ⟨-, e, w', -, hrefused⟩ | ⟨-, w', hstart, hstarted⟩
    · rw [hopen] at hrun
      exact haction h _ a v' hrun trivial
    · rw [hrefused] at hrun
      cases hrun
    · rw [hstarted] at hrun
      rcases hact : action h (s, w') with ⟨x, q⟩
      rw [hact] at hrun
      cases hrun
      have hopening : AllAnswered l w'.1 := Task.careful_observed _ _ _ (l, w) () w' hstart trivial
      exact (hopening.trans (haction h _ a q hact trivial)).trans (closing_answered b h q.2)

variable [Reporting W]

theorem seen_report (e : Event) (p : Watched W H P) : seen (Reporting.emit e p) = seen p := rfl

theorem popAndRun_careful (h : H) : (popAndRun b.observed h).Careful seen := by
  rintro ⟨s, l, w⟩ a v' hrun -
  unfold popAndRun at hrun
  dsimp only at hrun
  cases hs : s.stack with
  | nil =>
    rw [hs] at hrun
    cases hrun
    exact adds_refl _ _
  | cons u rest =>
    rw [hs] at hrun
    have hunit : (u.run (b.observed.channel h)).Careful Prod.fst :=
      u.run_careful (Channel.observed_careful h (b.isOpen h) (b.channel h))
    have htake : (edit fun t : Session H P => { t with stack := rest } : Task (Watched W H P) Unit).Careful seen :=
      Task.careful_change fun _ => adds_refl _ _
    exact (htake.bind fun _ => (Task.careful_report seen_report _).bind fun _ => hunit.lift) _ a v' hrun trivial

theorem run_careful : (run b.observed).Careful seen := by
  rintro ⟨s, l, w⟩ a v' hrun -
  unfold run at hrun
  dsimp only at hrun
  cases hs : s.stack with
  | nil =>
    rw [hs] at hrun
    cases hrun
    exact adds_refl _ _
  | cons u rest =>
    rw [hs] at hrun
    exact withHandle_careful b (popAndRun_careful b) _ a v' hrun trivial

omit [Reporting W] in
theorem exec_careful (sql : String) : (exec b.observed sql).Careful seen :=
  withHandle_careful b fun h => (Channel.observed_careful h (b.isOpen h) (b.channel h)).execute sql |>.lift

/-- a table that cannot be created is answered by false -/
theorem createTableSql_heeds (sql : String) : (createTableSql b.observed sql).Heeds seen (· = true) := by
  refine (exec_careful b sql).caught (fun _ => (Task.careful_pure true).heeds) ?_
  intro e v answer v' hrun
  cases e with
  | noDatabaseBound => cases hrun
  | _ =>
    cases hrun
    exact Bool.false_ne_true

omit [Reporting W] in
theorem createOrOpen_careful (name : String) (hooks : Hooks) : (createOrOpen b.observed name hooks).Careful seen := by
  rintro ⟨s, l, w⟩ a v' hrun -
  rcases createOrOpen_cases b.observed name hooks s (l, w) with
    ⟨-, hnone⟩ | ⟨provider, -, ⟨e, w', -, hrefused⟩ | ⟨g, w', hopen, hopened⟩⟩
  · rw [hnone] at hrun
    cases hrun
  · rw [hrefused] at hrun
    cases hrun
  · rw [hopened] at hrun
    cases hrun
    rw [Backend.observed_openDatabase] at hopen
    have hopening : AllAnswered l w'.1 := Task.careful_observed _ _ _ (l, w) g w' hopen trivial
    refine hopening.trans ?_
    unfold rebind
    cases s.handle with
    | none => exact adds_refl _ _
    | some old => exact (closing_answered b old w').trans (releasing_answered b old _)

theorem setDb_careful (name : String) : (setDb b.observed name).Careful seen := by
  have hname : (edit fun s : Session H P => { s with dbName := some name } : Task (Watched W H P) Unit).Careful seen :=
    Task.careful_change fun _ => adds_refl _ _
  refine hname.bind fun _ => (Task.careful_read _).bind fun mismatched => ?_
  cases mismatched with
  | true => exact (Task.careful_report seen_report _).bind fun _ => createOrOpen_careful b name Hooks.none
  | false => exact Task.careful_pure ()

omit [Reporting W] in
theorem openDb_careful : (openDb b.observed).Careful seen := by
  rintro ⟨s, l, w⟩ a v' hrun -
  rcases openDb_cases b.observed s (l, w) with ⟨h, -, hopen⟩ | ⟨name, -, hopen⟩ | hopen
  · rw [hopen] at hrun
    rcases hhandle : b.observed.openHandle h (l, w) with ⟨e | _, w'⟩
    · rw [hhandle] at hrun
      cases hrun
    · rw [hhandle] at hrun
      cases hrun
      exact Task.careful_observed _ _ _ (l, w) () w' hhandle trivial
  · rw [hopen] at hrun
    exact createOrOpen_careful b name Hooks.none (s, l, w) a v' hrun trivial
  · rw [hopen] at hrun
    cases hrun

theorem chain_careful (step : Step) : (chain step : Task (Watched W H P) Unit).Careful seen := by
  have hpush : ∀ u, (push u : Task (Watched W H P) Unit).Careful seen := fun u =>
    (Task.careful_read _).bind fun _ => (Task.careful_report seen_report _).bind fun _ =>
      Task.careful_change fun _ => adds_refl _ _
  unfold chain
  split
  · exact hpush _
  · exact Task.careful_change fun _ => adds_refl _ _

theorem runSteps_careful (steps : List Step) : (runSteps b.observed steps).Careful seen := by
  have hchain : ∀ steps : List Step, (steps.forM chain : Task (Watched W H P) PUnit).Careful seen := by
    intro steps
    induction steps with
    | nil => exact Task.careful_pure _
    | cons step steps ih => exact (chain_careful step).bind fun _ => ih
  exact (hchain steps).bind fun _ => run_careful b

end Session

/-! ## Entities -/

namespace Entity

open Session

variable [Reporting W] (b : Backend W H P)

/-- what was seen so far -/
abbrev noted (p : Entity × Watched W H P) : List (Sighting H P) := seen p.2

theorem enter_careful (e : Entity) : (enter b.observed e).Careful seen :=
  (setDb_careful b e.dbName).bind fun _ => openDb_careful b

theorem onSchema_heeds (dropFirst : Bool) :
    (onSchema (if dropFirst then createNewTable b.observed else createTable b.observed)).Heeds noted (· = true) := by
  have hcreate : (createTable b.observed).Heeds (fun p : Table × Watched W H P => seen p.2) (· = true) := fun p =>
    (createTableSql_heeds b p.1.build.text).lift (p.1.build, p.2)
  have hanew : (createNewTable b.observed).Heeds (fun p : Table × Watched W H P => seen p.2) (· = true) :=
    (Task.careful_read _).bind fun name => (exec_careful b _).lift.bind fun _ => hcreate
  cases dropFirst with
  | true => exact hanew.within (fun _ => rfl) fun _ _ => rfl
  | false => exact hcreate.within (fun _ => rfl) fun _ _ => rfl

theorem judgeUnit_careful (judge : Outcome → Bool) (steps : Entity → List Step) :
    (judgeUnit b.observed judge steps).Careful noted :=
  (Task.careful_read _).bind fun e => (runSteps_careful b (steps e)).lift.bind fun _ => Task.careful_pure _

theorem insertRow_careful (table : String) (r : Record) : (insertRow b.observed table r).Careful seen := by
  rw [insertRow_eq]
  refine (runSteps_careful b _).bind fun outcome => ?_
  cases outcome.rowId? with
  | some id => exact Task.careful_pure id
  | none => exact Task.heeds_fail _

theorem Operation.work_heeds (op : Operation) : (op.work b.observed).Heeds noted (· = true) := by
  cases op with
  | createSchema dropFirst => exact onSchema_heeds b dropFirst
  | create r =>
    have hremember : ∀ id,
        (Task.change fun p : Entity × Watched W H P => ({ p.1 with lastCreatedId := id }, p.2)).Careful noted := fun id =>
      Task.careful_change fun _ => adds_refl _ _
    exact (Task.careful_read _).bind fun e => (insertRow_careful b e.table r).lift.bind fun id =>
      (hremember id).bind fun _ => (Task.careful_pure _).heeds
  | update id r => exact (judgeUnit_careful b _ _).heeds
  | delete id => exact (judgeUnit_careful b _ _).heeds
  | deleteWhere field v => exact (judgeUnit_careful b _ _).heeds
  | deleteMatching r =>
    rw [work]
    split
    · exact Task.heeds_fail _
    · exact (judgeUnit_careful b _ _).heeds
  | hasItems => exact (judgeUnit_careful b _ _).heeds

theorem Operation.bare_heeds (op : Operation) : (op.bare b.observed).Heeds noted (· = true) :=
  (Task.careful_read _).bind fun e => (enter_careful b e).lift.bind fun _ => op.work_heeds b

omit [Reporting W] in
/-- closing is always answered -/
theorem leave_answered (before after : Entity × Watched W H P) :
    AllAnswered (noted after) (noted (leave b.observed before after)) := by
  unfold leave
  split
  · exact adds_refl _ _
  · unfold closeOpen
    cases after.2.1.handle with
    | none => exact adds_refl _ _
    | some h =>
      dsimp only
      split
      · exact closing_answered b h after.2.2
      · exact adds_refl _ _

/-- **An operation that answers true got an answer to every call.** -/
theorem Operation.perform_heeds (op : Operation) : (op.perform b.observed).Heeds noted (· = true) := by
  intro p answer p' hrun hgood
  rw [perform_eq] at hrun
  rcases hbare : op.bare b.observed p with ⟨why | a, q⟩
  · rw [hbare] at hrun
    cases hrun
    cases hgood
  · rw [hbare] at hrun
    cases hrun
    exact (op.bare_heeds b p answer q hbare hgood).trans (leave_answered b p q)

/-- a call that was refused means false -/
theorem Operation.false_of_refused (op : Operation) {p : Entity × Session H P × W} {answer : Bool}
    (hanswer : (op.perform b p).1 = .ok answer) {c : Sighting H P} (hc : c ∈ op.calls b p)
    (hrefused : c.answered = false) : answer = false := by
  cases answer with
  | false => rfl
  | true =>
    have hrun := op.perform_observed b p.1 p.2.1 p.2.2
    rw [hanswer] at hrun
    obtain ⟨new, hnew, hall⟩ := op.perform_heeds b _ true _ hrun rfl
    have hcalls : op.calls b p = new := hnew
    rw [hcalls] at hc
    have hanswered : c.answered = true := hall c hc
    rw [hrefused] at hanswered
    cases hanswered

end Entity

end FluentSql
