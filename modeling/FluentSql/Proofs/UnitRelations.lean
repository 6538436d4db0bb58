import FluentSql.WorkUnit
/-!
Relations between the actions of two worlds. Some are kept whenever actions are put together as units of work put
them together: in sequences, and in looks at failures after which nothing but a failure comes (`Task.Compositional`).
Such a relation holds between the runs of a unit on two channels as soon as it holds between their statements
(`WorkUnit.run_related`).

A property of actions is a relation that does not look at its second action, so what a unit keeps to is said in the
same way.
-/

namespace FluentSql

variable {V W α β : Type}

namespace Task

/-- the action fails, wherever it begins -/
def Fails (t : Task V α) : Prop := ∀ v, ∃ e v', t v = (.error e, v')

theorem fails_fail (e : DbError) : (fail e : Task V α).Fails := fun v => ⟨e, v, rfl⟩

theorem fails_behind (t : Task V α) {next : α → Task V β} (hnext : ∀ a, (next a).Fails) : (t >>= next).Fails := by
  intro v
  rw [bind_eq]
  rcases t v with ⟨e | a, v'⟩
  · exact ⟨e, v', rfl⟩
  · exact hnext a v'

/-- a relation between actions that is kept when they are put together -/
structure Compositional [Reporting V] [Reporting W] (P : (α : Type) → Task V α → Task W α → Prop) : Prop where
  answer : ∀ {α : Type} (a : α), P α (pure a) (pure a)
  failure : ∀ {α : Type} (e : DbError), P α (fail e) (fail e)
  reported : ∀ {α : Type} (event : Event) (e : DbError),
    P α (report event >>= fun _ => fail e) (report event >>= fun _ => fail e)
  sequence : ∀ {α β : Type} {t : Task V α} {u : Task W α} {next : α → Task V β} {next' : α → Task W β},
    P α t u → (∀ a, P β (next a) (next' a)) → P β (t >>= next) (u >>= next')
  caught : ∀ {α β : Type} {t : Task V α} {u : Task W α} {next : Except DbError α → Task V β}
    {next' : Except DbError α → Task W β}, P α t u → (∀ x, P β (next x) (next' x)) →
    (∀ e, (next (.error e)).Fails) → P β (attempt t >>= next) (attempt u >>= next')

end Task

/-- every statement of one handle is related to that of another -/
structure Channel.Related (P : (α : Type) → Task V α → Task W α → Prop) (c : Channel V) (d : Channel W) : Prop where
  execute : ∀ sql, P Unit (c.execute sql) (d.execute sql)
  query : ∀ q, P Rows (c.query q) (d.query q)
  insert : ∀ table values, P Int64 (c.insert table values) (d.insert table values)
  update : ∀ table values condition args, P Nat (c.update table values condition args) (d.update table values condition args)
  delete : ∀ table condition args, P Nat (c.delete table condition args) (d.delete table condition args)

section

variable [Reporting V] [Reporting W] {P : (α : Type) → Task V α → Task W α → Prop} (hP : Task.Compositional P)
  {c : Channel V} {d : Channel W} (hc : c.Related P d)

include hP

theorem Task.ofExcept_related (x : Except DbError α) : P α (ofExcept x) (ofExcept x) := by
  cases x with
  | error e => exact hP.failure e
  | ok a => exact hP.answer a

include hc

theorem Select.run_related (s : Select) : P Rows (s.run c) (s.run d) :=
  hP.sequence (Task.ofExcept_related hP _) fun _ => hc.query _

theorem Update.run_related (s : Update) : P Nat (s.run c) (s.run d) :=
  hP.sequence (Task.ofExcept_related hP _) fun _ => hc.update _ _ _ _

theorem Delete.run_related (s : Delete) : P Nat (s.run c) (s.run d) :=
  hP.sequence (Task.ofExcept_related hP _) fun _ => hc.delete _ _ _

theorem Insert.insertEach_related (table : String) (rs : RecordSet) :
    P (List Int64) (insertEach c table rs) (insertEach d table rs) := by
  induction rs with
  | nil => exact hP.answer []
  | cons r rs ih => exact hP.sequence (hc.insert table r) fun _ => hP.sequence ih fun _ => hP.answer _

/-- the error of a row that was refused is the end, whatever becomes of the way back -/
theorem Insert.insertAll_related (table : String) (rs : RecordSet) :
    P (List Int64) (insertAll c table rs) (insertAll d table rs) := by
  have hundo : P Unit (undo c) (undo d) := hP.sequence (hc.execute _) fun _ => hc.execute _
  refine hP.sequence (hc.execute _) fun _ => hP.caught (insertEach_related hP hc table rs) (fun x => ?_) fun e => ?_
  · cases x with
    | ok ids => exact hP.sequence (hc.execute _) fun _ => hP.answer ids
    | error e =>
      refine hP.caught hundo (fun y => ?_) fun _ => Task.fails_behind _ fun _ => Task.fails_fail e
      cases y with
      | ok _ => exact hP.failure e
      | error why => exact hP.reported _ e
  · refine Task.fails_behind _ fun y => ?_
    cases y with
    | ok _ => exact Task.fails_fail e
    | error why => exact Task.fails_behind _ fun _ => Task.fails_fail e

theorem Insert.run_related (s : Insert) : P (List Int64) (s.run c) (s.run d) := by
  refine hP.sequence (Task.ofExcept_related hP _) fun _ => ?_
  unfold Insert.execute
  cases s.records with
  | some records => exact insertAll_related hP hc s.table records
  | none => exact hP.sequence (hc.insert _ _) fun _ => hP.answer _

/-- **What is kept when actions are put together holds for a unit as soon as it holds for the statements.** -/
theorem WorkUnit.run_related (u : WorkUnit) : P Outcome (u.run c) (u.run d) := by
  unfold WorkUnit.run
  cases u.verb with
  | none => exact hP.answer _
  | some verb =>
    cases verb with
    | select => exact hP.sequence (Select.run_related hP hc _) fun _ => Task.ofExcept_related hP _
    | insert => exact hP.sequence (Insert.run_related hP hc _) fun _ => hP.answer _
    | update => exact hP.sequence (Update.run_related hP hc _) fun _ => hP.answer _
    | delete => exact hP.sequence (Delete.run_related hP hc _) fun _ => hP.answer _

end

end FluentSql
