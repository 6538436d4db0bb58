import FluentSql.Proofs.Respect
/-!
Inserting a record set into a store with savepoints. The rows go in between a savepoint and its release, and a row that
is refused takes the store back to the savepoint, so the rows are all there or none is. One exit is left out: the
release itself can be refused, as a deferred constraint does at the outermost savepoint. Then the rows stay, the
savepoint too, and the answer is an error all the same (`twoRows_kept`).

What a store with savepoints is, is said by `SavepointLaws`; any call may fail, except going back to a savepoint that is
there. Main result: `run_recordSet`, with one part for each way to end.
-/

namespace FluentSql

variable {W S : Type}

/-- what a store holds -/
structure Ledger (S : Type) where
  now : S
  /-- what it held at each savepoint of record sets, the latest first -/
  marks : List S

/-- a store with savepoints: a call that fails changes nothing, and going back to a savepoint that is there does not
fail -/
structure SavepointLaws [Reporting W] (c : Channel W) (ledger : W → Ledger S) (put : String → Record → Int64 → S → S) :
    Prop where
  executeFails : ∀ {sql w e w'}, c.execute sql w = (.error e, w') → ledger w' = ledger w
  insertFails : ∀ {table r w e w'}, c.insert table r w = (.error e, w') → ledger w' = ledger w
  inserted : ∀ {table r w id w'}, c.insert table r w = (.ok id, w') →
    ledger w' = { ledger w with now := put table r id (ledger w).now }
  marked : ∀ {w w'}, c.execute Insert.savepointSql w = (.ok (), w') →
    ledger w' = { ledger w with marks := (ledger w).now :: (ledger w).marks }
  released : ∀ {w w'}, c.execute Insert.releaseSql w = (.ok (), w') →
    ledger w' = { ledger w with marks := (ledger w).marks.tail }
  wentBack : ∀ {w m rest}, (ledger w).marks = m :: rest →
    ∃ w', c.execute Insert.rollbackSql w = (.ok (), w') ∧ ledger w' = ⟨m, m :: rest⟩
  report : ∀ e w, ledger (Reporting.emit e w) = ledger w

/-! ## A small store -/

/-- rows of all tables in one list, and the savepoints of record sets -/
structure Slate where
  rows : List (String × Record)
  marks : List (List (String × Record))
  /-- an insert beyond so many rows is refused -/
  room : Nat
  /-- a release is refused while there are more rows, as a deferred constraint does -/
  lawful : Nat

namespace Slate

instance : Reporting Slate := ⟨fun _ s => s, fun _ s => s⟩

def ledger (s : Slate) : Ledger (List (String × Record)) := ⟨s.rows, s.marks⟩

def put (table : String) (r : Record) (_ : Int64) (rows : List (String × Record)) : List (String × Record) :=
  rows ++ [(table, r)]

def execute (sql : String) : Task Slate Unit := fun s =>
  if sql = Insert.savepointSql then (.ok (), { s with marks := s.rows :: s.marks })
  else match s.marks with
    | [] => (.error (.engine (.noSavepoint Insert.savepoint)), s)
    | mark :: rest =>
      if sql = Insert.rollbackSql then (.ok (), { s with rows := mark })
      else if sql ≠ Insert.releaseSql then (.error (.engine (.badStatement sql)), s)
      else if s.lawful < s.rows.length then (.error (.engine .brokenReference), s)
      else (.ok (), { s with marks := rest })

def insert (table : String) (r : Record) : Task Slate Int64 := fun s =>
  if s.rows.length < s.room then (.ok (.ofNat (s.rows.length + 1)), { s with rows := put table r 0 s.rows })
  else (.error (.engine .full), s)

/-- record sets go in; nothing else is asked of a slate -/
def channel : Channel Slate where
  execute := execute
  query _ := Task.fail (.engine .readOnly)
  insert := insert
  update _ _ _ _ := Task.fail (.engine .readOnly)
  delete _ _ _ := Task.fail (.engine .readOnly)

theorem release_ne_savepoint : Insert.releaseSql ≠ Insert.savepointSql := by decide

theorem rollback_ne_savepoint : Insert.rollbackSql ≠ Insert.savepointSql := by decide

theorem release_ne_rollback : Insert.releaseSql ≠ Insert.rollbackSql := by decide

theorem execute_fails {sql : String} {s s' : Slate} {e : DbError} (hrun : execute sql s = (.error e, s')) : s' = s := by
  unfold execute at hrun
  split at hrun
  · cases hrun
  · split at hrun
    · cases hrun
      rfl
    · split at hrun
      · cases hrun
      · split at hrun
        · cases hrun
          rfl
        · split at hrun
          · cases hrun
            rfl
          · cases hrun

theorem release_ok {s s' : Slate} (hrun : execute Insert.releaseSql s = (.ok (), s')) :
    s' = { s with marks := s.marks.tail } := by
  simp only [execute, release_ne_savepoint, release_ne_rollback, if_false, ne_eq, not_true_eq_false] at hrun
  split at hrun
  · cases hrun
  · rename_i mark rest hmarks
    split at hrun
    · cases hrun
    · cases hrun
      rw [hmarks]
      rfl

theorem laws : SavepointLaws channel ledger put where
  executeFails hrun := by rw [execute_fails hrun]
  insertFails {table r w e w'} hrun := by
    simp only [channel, insert] at hrun
    split at hrun
    · cases hrun
    · cases hrun
      rfl
  inserted {table r w id w'} hrun := by
    simp only [channel, insert] at hrun
    split at hrun
    · cases hrun
      rfl
    · cases hrun
  marked {w w'} hrun := by
    simp only [channel, execute, if_true] at hrun
    cases hrun
    rfl
  released hrun := by
    rw [release_ok hrun]
    rfl
  wentBack {w m rest} hm := by
    have hmarks : w.marks = m :: rest := hm
    refine ⟨{ w with rows := m }, ?_, by rw [ledger, hmarks]⟩
    simp only [channel, execute, rollback_ne_savepoint, if_false, hmarks, if_true]
  report _ _ := rfl

end Slate

namespace Insert

/-- puts rows in one after the other, each with its id -/
def putAll (put : String → Record → Int64 → S → S) (table : String) : RecordSet → List Int64 → S → S
  | r :: rs, id :: ids, s => putAll put table rs ids (put table r id s)
  | _, _, s => s

variable {c : Channel W} {ledger : W → Ledger S} {put : String → Record → Int64 → S → S}

section

variable [Reporting W] (laws : SavepointLaws c ledger put)

include laws

/-! ## The rows -/

/-- rows that all go in are there in order, each under its id -/
theorem insertEach_ok {table : String} {rs : RecordSet} {w w' : W} {ids : List Int64}
    (hrun : insertEach c table rs w = (.ok ids, w')) :
    ids.length = rs.length ∧ ledger w' = { ledger w with now := putAll put table rs ids (ledger w).now } := by
  induction rs generalizing w ids with
  | nil =>
    cases hrun
    exact ⟨rfl, rfl⟩
  | cons r rs ih =>
    obtain ⟨id, v, hinsert, hrest⟩ := Task.bind_eq_ok_iff.1 hrun
    obtain ⟨ids', v', hrows, hpure⟩ := Task.bind_eq_ok_iff.1 hrest
    cases hpure
    obtain ⟨hlength, hledger⟩ := ih hrows
    rw [laws.inserted hinsert] at hledger
    exact ⟨congrArg Nat.succ hlength, hledger⟩

/-- rows leave the savepoints alone, also when one is refused -/
theorem insertEach_marks (table : String) (rs : RecordSet) :
    (insertEach c table rs).Respects fun w w' => (ledger w').marks = (ledger w).marks := by
  have hR : Stepwise fun w w' => (ledger w').marks = (ledger w).marks :=
    ⟨fun _ => rfl, fun first second => second.trans first⟩
  have hinsert : ∀ r, (c.insert table r).Respects fun w w' => (ledger w').marks = (ledger w).marks := by
    intro r w
    rcases hrun : c.insert table r w with ⟨e | id, w'⟩
    · rw [laws.insertFails hrun]
    · rw [laws.inserted hrun]
  induction rs with
  | nil => exact Task.respects_pure hR []
  | cons r rs ih => exact (hinsert r).bind hR fun _ => ih.bind hR fun _ => Task.respects_pure hR _

/-- going back to the savepoint restores what was there, whether or not it can be given up afterwards -/
theorem undo_restores {w : W} {m : S} {rest : List S} (hm : (ledger w).marks = m :: rest) :
    (ledger (undo c w).2).now = m := by
  obtain ⟨v, hback, hledger⟩ := laws.wentBack hm
  rw [undo, Task.bind_eq, hback]
  dsimp only
  rcases hrelease : c.execute releaseSql v with ⟨e | _, w'⟩
  · rw [laws.executeFails hrelease, hledger]
  · rw [laws.released hrelease, hledger]

end

/-! ## The record set -/

/-- the rows went in and the release behind them was refused -/
def ReleaseRefused (c : Channel W) (s : Insert) (rs : RecordSet) (w : W) : Prop :=
  s.validate = .ok () ∧ ∃ v ids v' e w', c.execute savepointSql w = (.ok (), v) ∧
    insertEach c s.table rs v = (.ok ids, v') ∧ c.execute releaseSql v' = (.error e, w')

variable [Reporting W]

/-- the four ways of inserting a record set: no savepoint, a row is refused, the release is refused, all goes well -/
theorem insertAll_cases (c : Channel W) (table : String) (rs : RecordSet) (w : W) :
    (∃ e w', c.execute savepointSql w = (.error e, w') ∧ insertAll c table rs w = (.error e, w')) ∨
    (∃ v e v', c.execute savepointSql w = (.ok (), v) ∧ insertEach c table rs v = (.error e, v') ∧
      (insertAll c table rs w = (.error e, (undo c v').2) ∨
        ∃ event, insertAll c table rs w = (.error e, Reporting.emit event (undo c v').2))) ∨
    (∃ v ids v', c.execute savepointSql w = (.ok (), v) ∧ insertEach c table rs v = (.ok ids, v') ∧
      ((∃ e w', c.execute releaseSql v' = (.error e, w') ∧ insertAll c table rs w = (.error e, w')) ∨
        ∃ w', c.execute releaseSql v' = (.ok (), w') ∧ insertAll c table rs w = (.ok ids, w'))) := by
  rcases hmark : c.execute savepointSql w with ⟨e | _, v⟩
  · refine .inl ⟨e, v, rfl, ?_⟩
    simp only [insertAll, Task.bind_eq, hmark]
  · right
    rcases hrows : insertEach c table rs v with ⟨e | ids, v'⟩
    · refine .inl ⟨v, e, v', rfl, hrows, ?_⟩
      rcases hundo : undo c v' with ⟨why | _, w'⟩
      · right
        refine ⟨undoFailed table why, ?_⟩
        simp only [insertAll, Task.bind_eq, hmark, Task.attempt_eq, hrows, hundo, report, Task.change, Task.fail]
      · left
        simp only [insertAll, Task.bind_eq, hmark, Task.attempt_eq, hrows, hundo, Task.fail]
    · refine .inr ⟨v, ids, v', rfl, hrows, ?_⟩
      rcases hrelease : c.execute releaseSql v' with ⟨e | _, w'⟩
      · left
        refine ⟨e, w', rfl, ?_⟩
        simp only [insertAll, Task.bind_eq, hmark, Task.attempt_eq, hrows, hrelease]
      · right
        refine ⟨w', rfl, ?_⟩
        simp only [insertAll, Task.bind_eq, hmark, Task.attempt_eq, hrows, hrelease, Task.pure_eq]

theorem run_eq {s : Insert} {rs : RecordSet} (hrs : s.records = some rs) (c : Channel W) (w : W) :
    s.run c w = match s.validate with
      | .ok () => insertAll c s.table rs w
      | .error e => (.error e, w) := by
  rw [run, Task.bind_eq, Task.ofExcept_eq]
  cases s.validate with
  | error e => rfl
  | ok _ => simp only [execute, hrs]

section

variable (laws : SavepointLaws c ledger put)

include laws

theorem insertAll_ok {table : String} {rs : RecordSet} {w w' : W} {ids : List Int64}
    (hrun : insertAll c table rs w = (.ok ids, w')) :
    ids.length = rs.length ∧ ledger w' = { ledger w with now := putAll put table rs ids (ledger w).now } := by
  rcases insertAll_cases c table rs w with
    ⟨e, v, -, heq⟩ | ⟨v, e, v', -, -, heq | ⟨event, heq⟩⟩ |
    ⟨v, ids', v', hmark, hrows, ⟨e, v'', -, heq⟩ | ⟨v'', hrelease, heq⟩⟩
  · rw [heq] at hrun
    cases hrun
  · rw [heq] at hrun
    cases hrun
  · rw [heq] at hrun
    cases hrun
  · rw [heq] at hrun
    cases hrun
  · rw [heq] at hrun
    cases hrun
    obtain ⟨hlength, hledger⟩ := insertEach_ok laws hrows
    exact ⟨hlength, by rw [laws.released hrelease, hledger, laws.marked hmark]; rfl⟩

/-- an error before the release leaves what was there -/
theorem insertAll_error {table : String} {rs : RecordSet} {w w' : W} {e : DbError}
    (hrun : insertAll c table rs w = (.error e, w'))
    (hrelease : ∀ v ids v' e w', c.execute savepointSql w = (.ok (), v) → insertEach c table rs v = (.ok ids, v') →
      c.execute releaseSql v' ≠ (.error e, w')) : (ledger w').now = (ledger w).now := by
  rcases insertAll_cases c table rs w with
    ⟨e', v, hmark, heq⟩ | ⟨v, e', v', hmark, hrows, hundo⟩ |
    ⟨v, ids, v', hmark, hrows, ⟨e', v'', hrefused, -⟩ | ⟨v'', -, heq⟩⟩
  · rw [heq] at hrun
    cases hrun
    rw [laws.executeFails hmark]
  · have hmarks : (ledger v').marks = (ledger w).now :: (ledger w).marks := by
      have hkept := insertEach_marks laws table rs v
      rw [hrows, laws.marked hmark] at hkept
      exact hkept
    have hback := undo_restores laws hmarks
    rcases hundo with heq | ⟨event, heq⟩
    · rw [heq] at hrun
      cases hrun
      exact hback
    · rw [heq] at hrun
      cases hrun
      rw [laws.report]
      exact hback
  · exact absurd hrefused (hrelease v ids v' e' v'' hmark hrows)
  · rw [heq] at hrun
    cases hrun

/-- **A record set goes in as a whole or not at all, unless its release is refused.** If all goes well, the rows are in
the store in order and the savepoint is given up; after any other error the store holds what it held before. A refused
release is an error that leaves all the rows, and the savepoint. -/
theorem run_recordSet {s : Insert} {rs : RecordSet} (hrs : s.records = some rs) (w : W) :
    (∀ ids w', s.run c w = (.ok ids, w') → ids.length = rs.length ∧
      ledger w' = { ledger w with now := putAll put s.table rs ids (ledger w).now }) ∧
    (∀ e w', s.run c w = (.error e, w') → ¬ ReleaseRefused c s rs w → (ledger w').now = (ledger w).now) ∧
    (ReleaseRefused c s rs w → ∃ ids e w', s.run c w = (.error e, w') ∧ ids.length = rs.length ∧
      ledger w' = ⟨putAll put s.table rs ids (ledger w).now, (ledger w).now :: (ledger w).marks⟩) := by
  rw [run_eq hrs]
  cases hvalid : s.validate with
  | error e =>
    refine ⟨fun ids w' hrun => ?_, fun e' w' hrun _ => ?_, fun hrefused => ?_⟩
    · cases hrun
    · cases hrun
      rfl
    · rw [hrefused.1] at hvalid
      cases hvalid
  | ok _ =>
    refine ⟨fun ids w' hrun => insertAll_ok laws hrun, fun e w' hrun hnot => ?_, fun hrefused => ?_⟩
    · refine insertAll_error laws hrun fun v ids v' e' v'' hmark hrows hrelease => hnot ?_
      exact ⟨hvalid, v, ids, v', e', v'', hmark, hrows, hrelease⟩
    · obtain ⟨-, v, ids, v', e, w', hmark, hrows, hrelease⟩ := hrefused
      obtain ⟨hlength, hledger⟩ := insertEach_ok laws hrows
      have hrun : insertAll c s.table rs w = (.error e, w') := by
        simp only [insertAll, Task.bind_eq, hmark, Task.attempt_eq, hrows, hrelease]
      exact ⟨ids, e, w', hrun, hlength, by rw [laws.executeFails hrelease, hledger, laws.marked hmark]⟩

end

/-- two empty rows for a table -/
def twoRows : Insert := (empty.intoTable "t").withRecords [.empty, .empty]

/-- with room for one row only, the second is refused and the first is taken back -/
theorem twoRows_refused :
    SavepointLaws Slate.channel Slate.ledger Slate.put ∧ twoRows.records = some [.empty, .empty] ∧
    ∃ w', twoRows.run Slate.channel ⟨[], [], 1, 2⟩ = (.error (.engine .full), w') ∧ (Slate.ledger w').now = [] := by
  have hnot : ¬ ReleaseRefused Slate.channel twoRows [.empty, .empty] ⟨[], [], 1, 2⟩ := by
    rintro ⟨-, v, ids, v', e, w', hmark, hrows, -⟩
    cases hmark
    cases hrows
  obtain ⟨-, herror, -⟩ := run_recordSet Slate.laws (s := twoRows) rfl ⟨[], [], 1, 2⟩
  exact ⟨Slate.laws, rfl, _, rfl, herror _ _ rfl hnot⟩

/-- **A refused release keeps the rows**, though the answer is an error. -/
theorem twoRows_kept :
    SavepointLaws Slate.channel Slate.ledger Slate.put ∧ twoRows.records = some [.empty, .empty] ∧
    twoRows.run Slate.channel ⟨[], [], 2, 1⟩ =
      (.error (.engine .brokenReference), ⟨[("t", .empty), ("t", .empty)], [[]], 2, 1⟩) :=
  ⟨Slate.laws, rfl, rfl⟩

end Insert

end FluentSql
