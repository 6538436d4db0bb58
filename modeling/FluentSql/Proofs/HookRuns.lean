import FluentSql.Proofs.Recording
import FluentSql.Proofs.Respect
/-!
Lifecycle hooks by the statements that they ask for. A hook may ask for statements of a kind only, whatever it is
answered (`Hook.Asks`); then it goes along every relation that those statements go along (`Hook.run_obeys`). What a
hook gets to depends on the answers, so a condition on the states in which it asks is one on its run on a handle
(`Hook.Issues`), and an invariant of the statements that are asked for in such states is one of the run
(`Hook.run_keeps`).
-/

namespace FluentSql

variable {W α : Type}

/-! ## Statements -/

/-- the text of a statement -/
def Statement.text : Statement → String
  | execute sql => sql
  | query q => SqlText.select q
  | insert table values => SqlText.insert table values
  | update table values condition _ => SqlText.update table values condition
  | delete table condition _ => SqlText.delete table condition

/-- what a statement is answered -/
inductive StatementReply where
  | done
  | rows (r : Rows)
  | rowId (id : Int64)
  | touched (n : Nat)

/-- asks for a statement -/
def Channel.ask (c : Channel W) : Statement → Task W StatementReply
  | .execute sql => do
    c.execute sql
    pure .done
  | .query q => do
    let r ← c.query q
    pure (.rows r)
  | .insert table values => do
    let id ← c.insert table values
    pure (.rowId id)
  | .update table values condition args => do
    let n ← c.update table values condition args
    pure (.touched n)
  | .delete table condition args => do
    let n ← c.delete table condition args
    pure (.touched n)

/-- the state after a statement -/
def Channel.after (c : Channel W) : Statement → W → W
  | .execute sql, w => (c.execute sql w).2
  | .query q, w => (c.query q w).2
  | .insert table values, w => (c.insert table values w).2
  | .update table values condition args, w => (c.update table values condition args w).2
  | .delete table condition args, w => (c.delete table condition args w).2

/-- the statements of a kind respect a relation -/
structure Channel.Obeys (Q : Statement → Prop) (R : W → W → Prop) (c : Channel W) : Prop where
  execute : ∀ sql, Q (.execute sql) → (c.execute sql).Respects R
  query : ∀ q, Q (.query q) → (c.query q).Respects R
  insert : ∀ table values, Q (.insert table values) → (c.insert table values).Respects R
  update : ∀ table values condition args, Q (.update table values condition args) →
    (c.update table values condition args).Respects R
  delete : ∀ table condition args, Q (.delete table condition args) → (c.delete table condition args).Respects R

section

variable {Q : Statement → Prop} {R : W → W → Prop} {c : Channel W}

/-- what every statement of a kind respects, a question for one respects -/
theorem Channel.Obeys.ask (hc : c.Obeys Q R) (hR : Stepwise R) {s : Statement} (hs : Q s) : (c.ask s).Respects R := by
  cases s with
  | execute sql => exact (hc.execute sql hs).bind hR fun _ => Task.respects_pure hR _
  | query q => exact (hc.query q hs).bind hR fun _ => Task.respects_pure hR _
  | insert table values => exact (hc.insert table values hs).bind hR fun _ => Task.respects_pure hR _
  | update table values condition args =>
    exact (hc.update table values condition args hs).bind hR fun _ => Task.respects_pure hR _
  | delete table condition args => exact (hc.delete table condition args hs).bind hR fun _ => Task.respects_pure hR _

end

/-! ## What a hook asks for -/

namespace Hook

/-- a hook asks for statements of a kind only, whatever it is answered -/
def Asks (Q : Statement → Prop) : Hook → Prop
  | done => True
  | fail _ => True
  | look next => ∀ name isOpen, (next name isOpen).Asks Q
  | note _ next => next.Asks Q
  | execute sql next => Q (.execute sql) ∧ ∀ x, (next x).Asks Q
  | query q next => Q (.query q) ∧ ∀ x, (next x).Asks Q
  | insert table values next => Q (.insert table values) ∧ ∀ x, (next x).Asks Q
  | update table values condition args next => Q (.update table values condition args) ∧ ∀ x, (next x).Asks Q
  | delete table condition args next => Q (.delete table condition args) ∧ ∀ x, (next x).Asks Q

theorem asks_any (hook : Hook) : hook.Asks fun _ => True := by
  induction hook with
  | done => trivial
  | fail e => trivial
  | look next ih => exact ih
  | note n next ih => exact ih
  | execute sql next ih => exact ⟨trivial, ih⟩
  | query q next ih => exact ⟨trivial, ih⟩
  | insert table values next ih => exact ⟨trivial, ih⟩
  | update table values condition args next ih => exact ⟨trivial, ih⟩
  | delete table condition args next ih => exact ⟨trivial, ih⟩

variable [Reporting W] {Q : Statement → Prop} {R : W → W → Prop} {c : Channel W}

theorem run_obeys (hR : Stepwise R) (hc : c.Obeys Q R) (hnote : ∀ n w, R w (Reporting.note n w)) (name : String)
    (isOpen : W → Bool) {hook : Hook} (hasks : hook.Asks Q) : (hook.run c name isOpen).Respects R := by
  induction hook with
  | done => exact Task.respects_pure hR ()
  | fail e => exact Task.respects_fail hR e
  | look next ih => exact fun w => ih _ _ (hasks _ _) w
  | note n next ih => exact fun w => hR.trans (hnote n w) (ih hasks _)
  | execute sql next ih => exact fun w => hR.trans (hc.execute sql hasks.1 w) (ih _ (hasks.2 _) _)
  | query q next ih => exact fun w => hR.trans (hc.query q hasks.1 w) (ih _ (hasks.2 _) _)
  | insert table values next ih => exact fun w => hR.trans (hc.insert table values hasks.1 w) (ih _ (hasks.2 _) _)
  | update table values condition args next ih =>
    exact fun w => hR.trans (hc.update table values condition args hasks.1 w) (ih _ (hasks.2 _) _)
  | delete table condition args next ih =>
    exact fun w => hR.trans (hc.delete table condition args hasks.1 w) (ih _ (hasks.2 _) _)

/-! ## The states in which a hook asks -/

/-- in a run of the hook on a handle every statement is asked for in a state that satisfies a condition -/
def Issues (c : Channel W) (name : String) (isOpen : W → Bool) (P : Statement → W → Prop) : Hook → W → Prop
  | done, _ => True
  | fail _, _ => True
  | look next, w => (next name (isOpen w)).Issues c name isOpen P w
  | note n next, w => next.Issues c name isOpen P (Reporting.note n w)
  | execute sql next, w =>
    P (.execute sql) w ∧ (next (c.execute sql w).1).Issues c name isOpen P (c.execute sql w).2
  | query q next, w => P (.query q) w ∧ (next (c.query q w).1).Issues c name isOpen P (c.query q w).2
  | insert t r next, w => P (.insert t r) w ∧ (next (c.insert t r w).1).Issues c name isOpen P (c.insert t r w).2
  | update t r cond args next, w =>
    P (.update t r cond args) w ∧
      (next (c.update t r cond args w).1).Issues c name isOpen P (c.update t r cond args w).2
  | delete t cond args next, w =>
    P (.delete t cond args) w ∧ (next (c.delete t cond args w).1).Issues c name isOpen P (c.delete t cond args w).2

/-- statements are asked for in states with a property that notes and the statements of their kind keep -/
theorem Asks.issues {P : Statement → W → Prop} {I : W → Prop} (hP : ∀ s w, Q s → I w → P s w)
    (hstep : ∀ s w, Q s → I w → I (c.after s w)) (hnote : ∀ n w, I w → I (Reporting.note n w)) (name : String)
    (isOpen : W → Bool) {hook : Hook} (hasks : hook.Asks Q) : ∀ {w}, I w → hook.Issues c name isOpen P w := by
  induction hook with
  | done => exact fun _ => trivial
  | fail e => exact fun _ => trivial
  | look next ih => exact fun hw => ih _ _ (hasks _ _) hw
  | note n next ih => exact fun hw => ih hasks (hnote n _ hw)
  | execute sql next ih =>
    exact fun hw => ⟨hP _ _ hasks.1 hw, ih _ (hasks.2 _) (hstep (.execute sql) _ hasks.1 hw)⟩
  | query q next ih => exact fun hw => ⟨hP _ _ hasks.1 hw, ih _ (hasks.2 _) (hstep (.query q) _ hasks.1 hw)⟩
  | insert t r next ih => exact fun hw => ⟨hP _ _ hasks.1 hw, ih _ (hasks.2 _) (hstep (.insert t r) _ hasks.1 hw)⟩
  | update t r cond args next ih =>
    exact fun hw => ⟨hP _ _ hasks.1 hw, ih _ (hasks.2 _) (hstep (.update t r cond args) _ hasks.1 hw)⟩
  | delete t cond args next ih =>
    exact fun hw => ⟨hP _ _ hasks.1 hw, ih _ (hasks.2 _) (hstep (.delete t cond args) _ hasks.1 hw)⟩

/-- what notes and statements keep, where they are asked for, a run keeps -/
theorem run_keeps {P : Statement → W → Prop} {I : W → Prop} (hstep : ∀ s w, P s w → I w → I (c.after s w))
    (hnote : ∀ n w, I w → I (Reporting.note n w)) (name : String) (isOpen : W → Bool) {hook : Hook} :
    ∀ {w}, hook.Issues c name isOpen P w → I w → I (hook.run c name isOpen w).2 := by
  induction hook with
  | done => exact fun _ hw => hw
  | fail e => exact fun _ hw => hw
  | look next ih => exact fun h hw => ih _ _ h hw
  | note n next ih => exact fun h hw => ih h (hnote n _ hw)
  | execute sql next ih => exact fun h hw => ih _ h.2 (hstep (.execute sql) _ h.1 hw)
  | query q next ih => exact fun h hw => ih _ h.2 (hstep (.query q) _ h.1 hw)
  | insert t r next ih => exact fun h hw => ih _ h.2 (hstep (.insert t r) _ h.1 hw)
  | update t r cond args next ih => exact fun h hw => ih _ h.2 (hstep (.update t r cond args) _ h.1 hw)
  | delete t cond args next ih => exact fun h hw => ih _ h.2 (hstep (.delete t cond args) _ h.1 hw)

end Hook

/-! ## The hooks of a database -/

/-- every hook of a database asks for statements of a kind only -/
structure Hooks.Ask (Q : Statement → Prop) (h : Hooks) : Prop where
  onCreate : ∀ k, h.onCreate = some k → k.Asks Q
  onUpgrade : ∀ k current requested, h.onUpgrade = some k → (k current requested).Asks Q
  onOpen : ∀ k, h.onOpen = some k → k.Asks Q

theorem Hooks.none_asks (Q : Statement → Prop) : Hooks.none.Ask Q :=
  ⟨fun k hk => (by cases hk), fun k _ _ hk => (by cases hk), fun k hk => (by cases hk)⟩

theorem Hooks.ask_any (h : Hooks) : h.Ask fun _ => True :=
  ⟨fun k _ => k.asks_any, fun k current requested _ => (k current requested).asks_any, fun k _ => k.asks_any⟩

end FluentSql
