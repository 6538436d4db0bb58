import FluentSql.Proofs.UnitRelations
/-!
Backends that write down their calls. A recorded call goes to the end of a list and is then carried out as
before, so a recorded run shows what reached the handles, in order, and nothing else changes.

What runs on a recorded channel adds to the list without looking at it (`Task.Appends`): its calls are the same
whatever stood there before. The property goes through sequences, failures and looks at outcomes, so every unit of
work has it (`WorkUnit.run_appends`).
-/

namespace FluentSql

/-! ## Calls -/

/-- a statement as a handle gets it -/
inductive Statement where
  | execute (sql : String)
  | query (q : Query)
  | insert (table : String) (values : Record)
  | update (table : String) (values : Record) (condition : Option String) (args : List String)
  | delete (table : String) (condition : Option String) (args : List String)

/-- a call to a handle or to a provider; asking for a name or whether a handle is open is none -/
inductive Request (H P : Type) where
  | openHandle (h : H)
  | closeHandle (h : H)
  | release (h : H)
  | statement (h : H) (s : Statement)
  | siblings (h : H)
  | openDatabase (p : P) (name : String) (o : OpenOptions)
  | listNames (p : P)
  | dropDatabase (p : P) (name : String)

variable {W H P R α β : Type}

/-- writes a call down and carries it out -/
def Task.recorded (r : R) (t : Task W α) : Task (List R × W) α := fun p =>
  ((t p.2).1, p.1 ++ [r], (t p.2).2)

/-- writes down every statement -/
def Channel.recorded (tag : Statement → R) (c : Channel W) : Channel (List R × W) where
  execute sql := (c.execute sql).recorded (tag (.execute sql))
  query q := (c.query q).recorded (tag (.query q))
  insert table values := (c.insert table values).recorded (tag (.insert table values))
  update table values condition args :=
    (c.update table values condition args).recorded (tag (.update table values condition args))
  delete table condition args := (c.delete table condition args).recorded (tag (.delete table condition args))

/-- writes down every call -/
def Backend.recorded (b : Backend W H P) : Backend (List (Request H P) × W) H P where
  name := b.name
  isOpen h p := b.isOpen h p.2
  openHandle h := (b.openHandle h).recorded (.openHandle h)
  closeHandle h p := (p.1 ++ [.closeHandle h], b.closeHandle h p.2)
  release h p := (p.1 ++ [.release h], b.release h p.2)
  channel h := (b.channel h).recorded (.statement h)
  siblings h := (b.siblings h).recorded (.siblings h)
  openDatabase p name o := (b.openDatabase p name o).recorded (.openDatabase p name o)
  listNames p := (b.listNames p).recorded (.listNames p)
  dropDatabase p name := (b.dropDatabase p name).recorded (.dropDatabase p name)

/-! ## Adding to the list -/

/-- an action adds its calls behind the earlier ones and does not look at them -/
def Task.Appends (t : Task (List R × W) α) : Prop :=
  ∀ l w, t (l, w) = ((t ([], w)).1, l ++ (t ([], w)).2.1, (t ([], w)).2.2)

namespace Task

theorem appends_pure (a : α) : (pure a : Task (List R × W) α).Appends := fun l w => by
  simp [pure_eq]

theorem appends_fail (e : DbError) : (fail e : Task (List R × W) α).Appends := fun l w => by
  simp [fail]

theorem appends_report [Reporting W] (e : Event) : (report e : Task (List R × W) Unit).Appends := fun l w => by
  simp [report, change, Reporting.emit]

theorem appends_recorded (r : R) (t : Task W α) : (t.recorded r).Appends := fun l w => by
  simp [recorded]

theorem Appends.bind {t : Task (List R × W) α} {next : α → Task (List R × W) β} (ht : t.Appends)
    (hnext : ∀ a, (next a).Appends) : (t >>= next).Appends := by
  intro l w
  rw [bind_eq, bind_eq, ht l w]
  rcases t ([], w) with ⟨e | a, l', w'⟩
  · rfl
  · dsimp only
    rw [hnext a (l ++ l') w', hnext a l' w', List.append_assoc]

theorem Appends.attempt {t : Task (List R × W) α} (ht : t.Appends) : (attempt t).Appends := fun l w => by
  rw [attempt_eq, attempt_eq, ht l w]

end Task

/-! ## Units on a recorded channel -/

section

variable [Reporting W] (tag : Statement → R) (c : Channel W)

theorem Task.appends_compositional : Compositional fun _ (t _ : Task (List R × W) _) => t.Appends where
  answer := appends_pure
  failure := appends_fail
  reported event e := (appends_report event).bind fun _ => appends_fail e
  sequence ht hnext := ht.bind hnext
  caught ht hnext _ := ht.attempt.bind hnext

theorem WorkUnit.run_appends (u : WorkUnit) : (u.run (c.recorded tag)).Appends :=
  u.run_related Task.appends_compositional (c := c.recorded tag) (d := c.recorded tag)
    ⟨fun _ => Task.appends_recorded _ _, fun _ => Task.appends_recorded _ _, fun _ _ => Task.appends_recorded _ _,
      fun _ _ _ _ => Task.appends_recorded _ _, fun _ _ _ => Task.appends_recorded _ _⟩

end

end FluentSql
