import FluentSql.Proofs.UnitRelations
/-!
Actions that go along a relation. An action respects a relation between states if it leads along it from every
state, whether it answers or fails (`Task.Respects`). A relation that can be gone along step by step (`Stepwise`) is
respected by sequences, by failures and by looks at outcomes as soon as their parts respect it.

So what the statements of a handle respect, a whole unit of work on that handle respects (`WorkUnit.run_respects`).
-/

namespace FluentSql

variable {W V α β : Type}

/-- relations that can be gone along step by step -/
structure Stepwise (R : W → W → Prop) : Prop where
  refl : ∀ w, R w w
  trans : ∀ {u v w}, R u v → R v w → R u w

/-- what leads to a state leads to the other one too -/
def Continues (R : W → W → Prop) (v w : W) : Prop := ∀ u, R u v → R u w

theorem Continues.stepwise (R : W → W → Prop) : Stepwise (Continues R) where
  refl _ _ hu := hu
  trans first second u hu := second u (first u hu)

/-- reports go along a relation -/
def Reports [Reporting W] (R : W → W → Prop) : Prop := ∀ e w, R w (Reporting.emit e w)

namespace Task

/-- the action leads along the relation from every state -/
def Respects (R : W → W → Prop) (t : Task W α) : Prop := ∀ w, R w (t w).2

section

variable {R : W → W → Prop} (hR : Stepwise R)

include hR

theorem respects_pure (a : α) : (pure a : Task W α).Respects R := fun w => hR.refl w

theorem respects_fail (e : DbError) : (fail e : Task W α).Respects R := fun w => hR.refl w

theorem respects_read (f : W → α) : (read f).Respects R := fun w => hR.refl w

theorem respects_ofExcept (x : Except DbError α) : (ofExcept x : Task W α).Respects R := by
  cases x with
  | error e => exact respects_fail hR e
  | ok a => exact respects_pure hR a

theorem Respects.bind {t : Task W α} {next : α → Task W β} (ht : t.Respects R)
    (hnext : ∀ a, (next a).Respects R) : (t >>= next).Respects R := by
  intro w
  have first := ht w
  rw [bind_eq]
  rcases h : t w with ⟨e | a, v⟩
  · rw [h] at first
    exact first
  · rw [h] at first
    exact hR.trans first (hnext a v)

end

/-- a relation that cannot be gone along step by step still goes through what continues it -/
theorem Respects.continued {R : W → W → Prop} {t : Task W α} {next : α → Task W β} (ht : t.Respects R)
    (hnext : ∀ a, (next a).Respects (Continues R)) : (t >>= next).Respects R := by
  intro w
  have first := ht w
  rw [bind_eq]
  rcases h : t w with ⟨e | a, v⟩
  · rw [h] at first
    exact first
  · rw [h] at first
    exact hnext a v w first

theorem Respects.attempt {R : W → W → Prop} {t : Task W α} (ht : t.Respects R) : (attempt t).Respects R := ht

theorem respects_change {R : W → W → Prop} {f : W → W} (hf : ∀ w, R w (f w)) : (change f).Respects R := hf

theorem respects_report [Reporting W] {R : W → W → Prop} (hrep : Reports R) (e : Event) :
    (report e : Task W Unit).Respects R := hrep e

/-- an action of which a failure is reported and answered by false -/
theorem Respects.orFalse [Reporting W] {R : W → W → Prop} {t : Task W α} {next : Except DbError α → Task W Bool}
    (ht : t.Respects R) (hR : Stepwise R) (hrep : Reports R) (hok : ∀ a, ∃ answer, next (.ok a) = pure answer)
    (herror : ∀ e, ∃ event, next (.error e) = (report event >>= fun _ => pure false)) :
    (Task.attempt t >>= next).Respects R := by
  refine ht.attempt.bind hR fun x => ?_
  cases x with
  | ok a =>
    obtain ⟨answer, heq⟩ := hok a
    rw [heq]
    exact respects_pure hR answer
  | error e =>
    obtain ⟨event, heq⟩ := herror e
    rw [heq]
    exact (respects_report hrep event).bind hR fun _ => respects_pure hR false

end Task

/-! ## Statements, units and hooks -/

/-- every statement of a handle respects a relation -/
structure Channel.Respects (R : W → W → Prop) (c : Channel W) : Prop where
  execute : ∀ sql, (c.execute sql).Respects R
  query : ∀ q, (c.query q).Respects R
  insert : ∀ table values, (c.insert table values).Respects R
  update : ∀ table values condition args, (c.update table values condition args).Respects R
  delete : ∀ table condition args, (c.delete table condition args).Respects R

section

variable {R : W → W → Prop} (hR : Stepwise R) {c : Channel W} (hc : c.Respects R)

include hR hc

theorem Channel.countRows_respects (table : String) : (c.countRows table).Respects R :=
  (hc.query _).bind hR fun _ => Task.respects_ofExcept hR _

omit hc in
theorem Task.respects_compositional [Reporting W] (hrep : Reports R) :
    Compositional fun _ (t _ : Task W _) => t.Respects R where
  answer := respects_pure hR
  failure := respects_fail hR
  reported event e := (respects_report hrep event).bind hR fun _ => respects_fail hR e
  sequence ht hnext := ht.bind hR hnext
  caught ht hnext _ := ht.attempt.bind hR hnext

theorem WorkUnit.run_respects [Reporting W] (hrep : Reports R) (u : WorkUnit) : (u.run c).Respects R :=
  u.run_related (Task.respects_compositional hR hrep) (c := c) (d := c)
    ⟨hc.execute, hc.query, hc.insert, hc.update, hc.delete⟩

end

end FluentSql
