import FluentSql.Proofs.Joining
/-!
What one connection can do to a vault, inside a transaction and outside. Inside, a command adds to what the connection
holds (`Connection.performData_inside`); outside, it leaves the vault as it was or with another committed database
(`Connection.performData_alone`). Either way a command that answers shows the connection what `Database.apply` says, and
one that fails shows it what it saw before.

A rollback ends at the vault that the transaction found, a commit at that vault with the work of the transaction
(`Connection.execute_rollback`, `Connection.execute_commit`).
-/

namespace FluentSql.Engine

variable {before v u : Vault} {c : Connection} {args : List Value} {cmd : DataCommand}

namespace Vault

theorem leave_with (v : Vault) (sharing : Sharing) (id : Nat) (db : Database) (n : Nat) :
    ({ v with db := db, commits := n } : Vault).leave sharing id
      = { v.leave sharing id with db := db, commits := n } := rfl

/-- nobody wrote to a vault that the connection has become the writer of -/
theorem Joined.unwritten {id : Nat} (h : Joined before id v) (hidle : before.Idle id) (hw : v.isWriter id = true) :
    before.writer = none := by
  have hwriter := (h.entered hidle hw).writer
  rw [hw] at hwriter
  exact hwriter

end Vault

open Vault

namespace Connection

/-! ## What is seen -/

theorem view_of_unwritten (c : Connection) (h : v.writer = none) : c.view v = v.db := by
  simp [view, h]

theorem view_setWork (c : Connection) (hw : v.isWriter c.id = true) (work : Database) (changed : Bool) :
    c.view (v.setWork work changed) = work := by
  unfold isWriter at hw
  cases hv : v.writer with
  | none => simp [hv] at hw
  | some w =>
    rw [hv] at hw
    have hid : w.id = c.id := by simpa using hw
    simp [view, setWork, hv, hid]

theorem enter_view {writes exclusive : Bool} (h : v.enter c.sharing c.id writes exclusive = some u) :
    c.view u = c.view v := by
  unfold enter at h
  split at h
  · cases h
    rfl
  · rename_i hout
    split at h
    · rename_i hadmits
      cases hwrites : writes with
      | false =>
        simp only [hwrites] at h
        cases h
        rfl
      | true =>
        -- the new writer starts from the committed database, which is what was seen while nobody wrote
        have hnone : v.writer = none := by
          have hno : v.isWriter c.id = false := by
            rw [← Bool.not_eq_true]
            intro hw
            simp [hw] at hout
          have hothers : (v.writer.any fun w => w.id != c.id) = false := by
            cases hs : c.sharing with
            | cache =>
              simp only [admits, hs, hwrites, Bool.and_eq_true, Bool.not_eq_true', Bool.true_and] at hadmits
              exact hadmits.1.1
            | file =>
              simp only [admits, hs, hwrites, Bool.and_eq_true, Bool.not_eq_true', Bool.true_and] at hadmits
              exact hadmits.1.2
          unfold isWriter at hno
          cases hv : v.writer with
          | none => rfl
          | some w =>
            rw [hv] at hno hothers
            simp only [Option.any_some, bne, Bool.not_eq_false'] at hno hothers
            rw [hothers] at hno
            cases hno
        cases h
        simp [view, hwrites, hnone]
    · cases h

theorem claim_writer (id : Nat) (tables : List (String × Bool)) (v : Vault) :
    (Vault.claim id tables v).2.writer = v.writer := by
  induction tables generalizing v with
  | nil => rfl
  | cons t rest ih =>
    unfold Vault.claim
    split
    · rfl
    · exact ih _

theorem view_congr (c : Connection) (hdb : u.db = v.db) (hwriter : u.writer = v.writer) : c.view u = c.view v := by
  simp [view, hdb, hwriter]

/-- taking hold of something shows nothing new -/
theorem secure_view (c : Connection) (v : Vault) (d : Option Demand) : c.view (c.secure v d).2 = c.view v := by
  unfold secure
  split
  · rfl
  · split
    · rfl
    · rename_i entered henter
      split
      · rw [← enter_view henter]
        exact c.view_congr (Vault.claim_db _ _ _) (claim_writer _ _ _)
      · exact enter_view henter

/-- taking hold of what a command needs adds to what is held; a command that changes anything gets to be the writer -/
theorem secure_joined (hjoined : Joined before c.id v) (hidle : before.Idle c.id) (db : Database)
    (cmd : DataCommand) :
    Joined before c.id (c.secure v (Demand.of? db cmd)).2 ∧
      ((c.secure v (Demand.of? db cmd)).1 = true → (Demand.of? db cmd).any Demand.writes = true →
        (c.secure v (Demand.of? db cmd)).2.isWriter c.id = true) := by
  cases hd : Demand.of? db cmd with
  | none => exact ⟨hjoined, fun _ h => by cases h⟩
  | some d =>
    simp only [secure]
    cases henter : v.enter c.sharing c.id d.writes false with
    | none => exact ⟨hjoined, fun h => by cases h⟩
    | some entered =>
      obtain ⟨hentered, hw⟩ := hjoined.enter hidle henter
      cases c.sharing with
      | file => exact ⟨hentered, fun _ hwrites => hw hwrites⟩
      | cache =>
        refine ⟨hentered.claim hidle d.tables fun t ht hchange => hw (Demand.of?_writes hd ht hchange), ?_⟩
        intro _ hwrites
        have hsame : (Vault.claim c.id d.tables entered).2.isWriter c.id = entered.isWriter c.id := by
          simp only [isWriter, claim_writer]
        exact hsame.trans (hw hwrites)

/-- a command that changes nothing makes nobody the writer -/
theorem secure_reading {d : Option Demand} (hreads : d.any Demand.writes = false) :
    (c.secure v d).2.writer = v.writer := by
  unfold secure
  split
  · rfl
  · rename_i d
    have hno : d.writes = false := by simpa using hreads
    split
    · rfl
    · rename_i entered henter
      have hentered : entered.writer = v.writer := by
        unfold enter at henter
        split at henter
        · cases henter
          rfl
        · split at henter
          · cases henter
            simp [hno]
          · cases henter
      split
      · exact (claim_writer _ _ _).trans hentered
      · exact hentered

/-! ## The ways a command ends -/

/-- why a connection cannot begin to read; only where something else is in the place of the journal its transaction
ends -/
theorem obstacle_cases {e : EngineFault} (h : c.obstacle v = some e) :
    e = .notADatabase ∨ e = .ioFailed ∧ c.condition = .unreadable := by
  unfold obstacle at h
  split at h
  · cases h
  · split at h
    · cases h
      exact .inl rfl
    · rename_i hcondition
      cases h
      exact .inr ⟨rfl, hcondition⟩
    · cases h

/-- **A command ends in one of three ways**: refused before it took hold of anything, refused later, or with a reply.
What it took hold of is all that happened to the vault until then. -/
theorem performData_cases (args : List Value) (cmd : DataCommand) (hjoined : Joined before c.id v)
    (hidle : before.Idle c.id) :
    (∃ e t, performData args cmd c v = (.error e, { c with transaction := t }, v) ∧
      (t = c.transaction ∨ t = none ∧ c.condition = .unreadable)) ∨
    (∃ e held n, performData args cmd c v = (.error e, c, c.afterFailure held) ∧ Joined before c.id held ∧
      c.view held = { c.view v with unmet := n } ∧
      (n = (c.view v).unmet ∨ ∃ e', (c.view v).apply args cmd = .error e')) ∨
    ∃ reply held, (c.view v).apply args cmd = .ok reply ∧ Joined before c.id held ∧ c.view held = c.view v ∧
      (held.isWriter c.id = false → reply.db = c.view v) ∧
      ((Demand.of? (c.view v) cmd).any Demand.writes = false → held.writer = v.writer) ∧
      ((Demand.of? (c.view v) cmd).any Demand.writes = true → held.isWriter c.id = true) ∧
      performData args cmd c v = c.afterSuccess held cmd reply := by
  have hsecured := secure_joined hjoined hidle (c.view v) cmd
  have hview := c.secure_view v (Demand.of? (c.view v) cmd)
  unfold performData
  split
  · exact .inl ⟨_, c.transaction, rfl, .inl rfl⟩
  · dsimp only
    split
    · rename_i e hobstacle
      obtain ⟨_, _, hobstacle⟩ := Option.bind_eq_some_iff.1 hobstacle
      rcases obstacle_cases hobstacle with rfl | ⟨rfl, hcondition⟩
      · exact .inl ⟨_, c.transaction, rfl, .inl rfl⟩
      · exact .inl ⟨_, none, rfl, .inr ⟨rfl, hcondition⟩⟩
    · rename_i e hresult _
      split
      · exact .inl ⟨_, c.transaction, rfl, .inl rfl⟩
      · split
        · rename_i held hsecure
          rw [hsecure] at hsecured hview
          exact .inr (.inl ⟨_, held, (c.view v).unmet, rfl, hsecured.1, hview, .inl rfl⟩)
        · rename_i held hsecure
          rw [hsecure] at hsecured hview
          cases hw : held.isWriter c.id with
          | false => exact .inr (.inl ⟨_, held, (c.view v).unmet, rfl, hsecured.1, hview, .inl rfl⟩)
          | true =>
            exact .inr (.inl ⟨_, _, _, rfl, hsecured.1.setWork hidle hw _ _, c.view_setWork hw _ _, .inr ⟨_, hresult⟩⟩)
    · rename_i reply hresult _
      split
      · rename_i held hsecure
        rw [hsecure] at hsecured hview
        exact .inr (.inl ⟨_, held, (c.view v).unmet, rfl, hsecured.1, hview, .inl rfl⟩)
      · rename_i held hsecure
        rw [hsecure] at hsecured hview
        have hreading := secure_reading (c := c) (v := v) (d := Demand.of? (c.view v) cmd)
        rw [hsecure] at hreading
        refine .inr (.inr ⟨reply, held, hresult, hsecured.1, hview, fun hw => ?_, hreading, hsecured.2 rfl, rfl⟩)
        -- without the right to write the command was a reading one
        refine Database.apply_of_reading ?_ hresult
        rw [← Bool.not_eq_true]
        intro hwrites
        rw [hsecured.2 rfl hwrites] at hw
        cases hw

/-! ## Inside a transaction -/

/-- **A command inside a transaction adds to what its connection holds**, and nothing else changes. If it answers, the
connection sees the database that it made; if it fails, what it saw, perhaps with another number of references that lead
nowhere. -/
theorem performData_inside (args : List Value) (cmd : DataCommand) (htransaction : c.transaction.isSome = true)
    (hfit : c.condition ≠ .unreadable) (hidle : before.Idle c.id) (hjoined : Joined before c.id v) :
    ∃ x id u, performData args cmd c v = (x, { c with lastId := id }, u) ∧ Joined before c.id u ∧
      ((∃ e n, x = .error e ∧ c.view u = { c.view v with unmet := n } ∧
          (n = (c.view v).unmet ∨ ∃ e', (c.view v).apply args cmd = .error e')) ∨
        ∃ reply, (c.view v).apply args cmd = .ok reply ∧ x = .ok ⟨reply.rows, reply.count⟩ ∧ c.view u = reply.db) := by
  have hfailure : ∀ w, c.afterFailure w = w := fun w => by simp [afterFailure, htransaction]
  rcases performData_cases args cmd hjoined hidle with
    ⟨e, t, hrun, rfl | ⟨_, hcondition⟩⟩ | ⟨e, held, n, hrun, hheld, hview⟩ | ⟨reply, held, hresult, hheld, hview, hreads, _, _, hrun⟩
  · exact ⟨_, c.lastId, v, hrun, hjoined, .inl ⟨_, (c.view v).unmet, rfl, rfl, .inl rfl⟩⟩
  · exact absurd hcondition hfit
  · rw [hfailure] at hrun
    exact ⟨_, c.lastId, held, hrun, hheld, .inl ⟨_, n, rfl, hview⟩⟩
  · rw [hrun]
    unfold afterSuccess
    dsimp only
    split
    · rw [hfailure]
      exact ⟨_, c.lastId, held, rfl, hheld, .inl ⟨_, (c.view v).unmet, rfl, hview, .inl rfl⟩⟩
    · cases hw : held.isWriter c.id with
      | true =>
        exact ⟨_, _, _, rfl, hheld.setWork hidle hw _ _, .inr ⟨reply, hresult, rfl, c.view_setWork hw _ _⟩⟩
      | false => exact ⟨_, _, _, rfl, hheld, .inr ⟨reply, hresult, rfl, hview.trans (hreads hw).symm⟩⟩

/-! ## Outside a transaction -/

/-- publishing leaves the vault as it was, or with the work as its committed database -/
theorem publish_cases {left : Vault} (hjoined : Joined before c.id v) (hidle : before.Idle c.id)
    (h : c.publish v = .ok left) :
    left = before ∧ v.isWriter c.id = false ∨
      before.writer = none ∧ v.isWriter c.id = true ∧
        ∃ n, left = { before with db := { c.view v with unmet := 0 }, commits := n } := by
  cases hw : v.isWriter c.id with
  | false =>
    simp only [publish, hw, hjoined.leave hidle] at h
    cases h
    exact .inl ⟨rfl, rfl⟩
  | true =>
    simp only [publish, hw, Bool.not_true, Bool.false_eq_true, if_false] at h
    split at h
    · cases h
    · split at h
      · cases h
      · split at h
        · cases h
        · cases h
          rw [leave_with, hjoined.leave hidle]
          exact .inr ⟨hjoined.unwritten hidle hw, rfl, _, rfl⟩

/-- **A command outside a transaction leaves the vault as it was, or with another committed database**: the one that the
command made, if it answers and is one that changes something. -/
theorem performData_alone (args : List Value) (cmd : DataCommand) (htransaction : c.transaction = none)
    (hidle : v.Idle c.id) :
    ∃ x id u, performData args cmd c v = (x, { c with lastId := id }, u) ∧ (∀ e, x = .error e → u = v) ∧
      ∀ a, x = .ok a → ∃ reply, (c.view v).apply args cmd = .ok reply ∧ a = ⟨reply.rows, reply.count⟩ ∧
        ((Demand.of? (c.view v) cmd).any Demand.writes = false ∧ u = v ∨
          v.writer = none ∧ (Demand.of? v.db cmd).any Demand.writes = true ∧
            ∃ n, u = { v with db := { reply.db with unmet := 0 }, commits := n }) := by
  have hfailure : ∀ w, Joined v c.id w → c.afterFailure w = v := fun w h => by
    simpa [afterFailure, htransaction] using h.leave hidle c.sharing
  rcases performData_cases args cmd (.inl rfl) hidle with
    ⟨e, t, hrun, hnone⟩ | ⟨e, held, n, hrun, hheld, _⟩ |
      ⟨reply, held, hresult, hheld, hview, hreads, hreading, hwriting, hrun⟩
  · have ht : t = c.transaction := by
      rcases hnone with rfl | ⟨rfl, _⟩
      · rfl
      · exact htransaction.symm
    subst ht
    exact ⟨_, c.lastId, v, hrun, fun _ _ => rfl, fun a h => by cases h⟩
  · rw [hfailure held hheld] at hrun
    exact ⟨_, c.lastId, v, hrun, fun _ _ => rfl, fun a h => by cases h⟩
  · rw [hrun]
    unfold afterSuccess
    dsimp only
    split
    · rw [hfailure held hheld]
      exact ⟨_, c.lastId, v, rfl, fun _ _ => rfl, fun a h => by cases h⟩
    · generalize hworked : (if held.isWriter c.id = true then _ else held) = worked
      have hjoined : Joined v c.id worked := by
        subst hworked
        cases hw : held.isWriter c.id with
        | true => exact hheld.setWork hidle hw _ _
        | false => exact hheld
      have hmade : c.view worked = reply.db := by
        subst hworked
        cases hw : held.isWriter c.id with
        | true => exact c.view_setWork hw _ _
        | false => exact hview.trans (hreads hw).symm
      have hsame : worked.isWriter c.id = held.isWriter c.id := by
        subst hworked
        cases hw : held.isWriter c.id with
        | true => exact (isWriter_setWork held c.id _ _).trans hw
        | false => exact hw
      split
      · rename_i hsome
        simp [htransaction] at hsome
      · cases hpublish : c.publish worked with
        | error e => exact ⟨_, _, v, by rw [hjoined.leave hidle], fun _ _ => rfl, fun a h => by cases h⟩
        | ok left =>
          refine ⟨_, _, left, rfl, fun e h => (by cases h), fun a h => ⟨reply, hresult, by cases h; rfl, ?_⟩⟩
          rcases publish_cases hjoined hidle hpublish with ⟨rfl, hw⟩ | ⟨hnone, hw, n, hleft⟩
          · refine .inl ⟨?_, rfl⟩
            rw [← Bool.not_eq_true]
            intro hwrites
            rw [hsame, hwriting hwrites] at hw
            cases hw
          · rw [hmade] at hleft
            refine .inr ⟨hnone, ?_, n, hleft⟩
            -- only a command that changes something gets to write
            rw [c.view_of_unwritten hnone] at hreading
            rw [← Bool.not_eq_false]
            intro hno
            have hheldNone : held.writer = none := (hreading hno).trans hnone
            have hnot : held.isWriter c.id = false := by simp [isWriter, hheldNone]
            rw [hsame, hnot] at hw
            cases hw

/-! ## The statements of a transaction -/

/-- beginning takes hold of nothing -/
theorem execute_begin (c : Connection) (v : Vault) :
    execute "BEGIN" c v =
      if c.isShutOut v then (.error .locked, c, v)
      else match c.transaction with
        | none => (.ok (), { c with transaction := some ⟨true, []⟩ }, v)
        | some _ => (.error .nestedTransaction, c, v) := by
  have hread : Grammar.commands "BEGIN" = [.ok ⟨.control (.begin .deferred), 0⟩] := rfl
  simp only [execute, hread, batch, perform, performControl]
  cases c.isShutOut v with
  | true => rfl
  | false => cases ht : c.transaction with
    | none => simp [begin, ht, Except.map]
    | some t => simp [begin, ht, Except.map]

/-- **A rollback gives the vault back as the transaction found it.** -/
theorem execute_rollback (htransaction : c.transaction.isSome = true) (hjoined : Joined before c.id v)
    (hidle : before.Idle c.id) (hshut : c.isShutOut v = false) :
    execute "ROLLBACK" c v = (.ok (), { c with transaction := none }, before) := by
  have hread : Grammar.commands "ROLLBACK" = [.ok ⟨.control .rollback, 0⟩] := rfl
  obtain ⟨t, ht⟩ := Option.isSome_iff_exists.1 htransaction
  simp [execute, hread, batch, perform, performControl, hshut, ht, rollback, Except.map, hjoined.leave hidle]

/-- **A commit keeps the work of the transaction as the committed database**, if it answers; if not, the transaction
stays as it was, or it is forgotten. -/
theorem execute_commit (htransaction : c.transaction.isSome = true) (hjoined : Joined before c.id v)
    (hidle : before.Idle c.id) :
    (∃ u, execute "COMMIT" c v = (.ok (), { c with transaction := none }, u) ∧
      (u = before ∧ v.isWriter c.id = false ∨ before.writer = none ∧ v.isWriter c.id = true ∧
        ∃ n, u = { before with db := { c.view v with unmet := 0 }, commits := n })) ∨
    ∃ e, execute "COMMIT" c v = (.error e, { c with transaction := none }, before) ∨
      ∃ u, execute "COMMIT" c v = (.error e, c, u) ∧ Joined before c.id u ∧ c.view u = c.view v := by
  have hread : Grammar.commands "COMMIT" = [.ok ⟨.control .commit, 0⟩] := rfl
  obtain ⟨t, ht⟩ := Option.isSome_iff_exists.1 htransaction
  simp only [execute, hread, batch, perform, performControl, ht]
  cases c.isShutOut v with
  | true => exact .inr ⟨.locked, .inr ⟨v, by simp [Except.map], hjoined, rfl⟩⟩
  | false =>
    unfold commit
    cases hpublish : c.publish v with
    | ok left => exact .inl ⟨left, rfl, publish_cases hjoined hidle hpublish⟩
    | error e =>
      by_cases he : e = .ioFailed
      · subst he
        exact .inr ⟨.ioFailed, .inl (by simp [Except.map, hjoined.leave hidle])⟩
      · refine .inr ⟨e, .inr ⟨{ v with waiting := v.waiting || e == .locked }, by simp [Except.map], ?_, ?_⟩⟩
        · -- only a writer can be refused, so it is the writer who makes others wait
          have hw : v.isWriter c.id = true := by
            rw [← Bool.not_eq_false]
            intro hw
            simp [publish, hw] at hpublish
          exact hjoined.awaited hidle hw _
        · rfl

end Connection

end FluentSql.Engine
