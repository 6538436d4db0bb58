import FluentSql.Engine.Connection
/-!
One connection among others. A connection that holds nothing is idle (`Vault.Idle`); what it takes hold of can be given
up again, and then the vault is what it was before (`Vault.Joined.leave`). So a command inside a transaction adds to
what its connection holds and nothing else (`Connection.performData_joined`), and a command outside one leaves the vault
as it was or with another committed database (`Connection.performData_alone`).
-/

namespace FluentSql.Engine

namespace Vault

/-- the connection neither holds nor changes anything -/
structure Idle (v : Vault) (id : Nat) : Prop where
  writer : v.isWriter id = false
  active : v.isActive id = false

/-- a vault that the connection has entered, while nobody was waiting; apart from that connection it is as before -/
structure Entered (before : Vault) (id : Nat) (v : Vault) : Prop where
  db : v.db = before.db
  commits : v.commits = before.commits
  holds : v.holds.filter (fun h => h.owner != id) = before.holds
  writer : if v.isWriter id then before.writer = none else v.writer = before.writer
  calm : before.waiting = false
  waiting : v.waiting = true → v.isWriter id = true

/-- nothing has happened to a vault but that the connection may have entered it -/
def Joined (before : Vault) (id : Nat) (v : Vault) : Prop := v = before ∨ Entered before id v

variable {before v u : Vault} {id : Nat} {sharing : Sharing} {writes exclusive : Bool}

/-! ## Leaving -/

theorem Idle.holds (h : v.Idle id) : v.holds.filter (fun h => h.owner != id) = v.holds := by
  refine List.filter_eq_self.2 fun x hx => ?_
  have hactive := h.active
  simp only [isActive, List.any_eq_false] at hactive
  have hne : ¬ (x.owner == id) = true := hactive x hx
  simpa [bne] using hne

theorem Idle.leave (h : v.Idle id) (sharing : Sharing) : v.leave sharing id = v := by
  have hlast : (sharing = .cache && v.isActive id && v.holds.length = 2 : Bool) = false := by simp [h.active]
  simp only [Vault.leave, h.writer, h.holds, hlast]
  simp

/-- **Giving everything up restores the vault.** -/
theorem Joined.leave (hjoined : Joined before id v) (hidle : before.Idle id) (sharing : Sharing) :
    v.leave sharing id = before := by
  rcases hjoined with rfl | h
  · exact hidle.leave sharing
  · have hwriter := h.writer
    cases before with
    | mk db writer holds waiting commits =>
      have hcalm : waiting = false := h.calm
      cases hw : v.isWriter id with
      | true =>
        rw [hw] at hwriter
        simp only [Vault.leave, hw, h.db, h.commits, h.holds, hcalm]
        simpa using hwriter.symm
      | false =>
        have hwaiting : v.waiting = false := by
          rw [← Bool.not_eq_true]
          intro hv
          simp [h.waiting hv] at hw
        rw [hw] at hwriter
        simp only [Vault.leave, hw, h.db, h.commits, h.holds, hwaiting, hcalm]
        simpa using hwriter

/-! ## Entering -/

theorem Joined.db (h : Joined before id v) : v.db = before.db := by
  rcases h with rfl | h
  · rfl
  · exact h.db

theorem Joined.commits (h : Joined before id v) : v.commits = before.commits := by
  rcases h with rfl | h
  · rfl
  · exact h.commits

/-- a connection that was idle has become the writer by entering -/
theorem Joined.entered (h : Joined before id v) (hidle : before.Idle id) (hw : v.isWriter id = true) :
    Entered before id v := by
  rcases h with rfl | h
  · rw [hidle.writer] at hw
    cases hw
  · exact h

/-- only a writer makes others wait, and that is nothing that leaving would not undo -/
theorem Joined.awaited (h : Joined before id v) (hidle : before.Idle id) (hw : v.isWriter id = true) (waiting : Bool) :
    Joined before id { v with waiting := waiting } := by
  have hentered := h.entered hidle hw
  exact .inr ⟨hentered.db, hentered.commits, hentered.holds, hentered.writer, hentered.calm, fun _ => hw⟩

theorem Joined.calm (h : Joined before id v) (hcalm : v.waiting = false) : before.waiting = false := by
  rcases h with rfl | h
  · exact hcalm
  · exact h.calm

theorem Joined.holds (h : Joined before id v) (hidle : before.Idle id) :
    v.holds.filter (fun x => x.owner != id) = before.holds := by
  rcases h with rfl | h
  · exact hidle.holds
  · exact h.holds

/-- a connection that has not become the writer left that to whom it was -/
theorem Joined.writer (h : Joined before id v) (hnot : v.isWriter id = false) : v.writer = before.writer := by
  rcases h with rfl | h
  · rfl
  · have hwriter := h.writer
    rw [hnot] at hwriter
    simpa using hwriter

/-- whoever is admitted found nobody waiting -/
theorem Joined.waiting_of_admits (h : Joined before id v) (hidle : before.Idle id) (hnot : v.isWriter id = false)
    (hadmits : v.admits sharing id writes exclusive = true) : v.waiting = false := by
  rcases h with rfl | h
  · cases sharing with
    | cache =>
      simp only [admits, Bool.and_eq_true, Bool.not_eq_true'] at hadmits
      exact hadmits.1.2
    | file =>
      simp only [admits, hidle.active, Bool.and_eq_true, Bool.not_eq_true', Bool.or_eq_true,
        Bool.false_eq_true, false_or, Bool.or_eq_false_iff] at hadmits
      exact hadmits.1.1.1
  · rw [← Bool.not_eq_true]
    intro hw
    simp [h.waiting hw] at hnot

/-- whoever is admitted to write writes where nobody writes -/
theorem writer_of_admits (hnot : v.isWriter id = false) (hadmits : v.admits sharing id true exclusive = true) :
    v.writer = none := by
  have hothers : (v.writer.any fun w => w.id != id) = false := by
    cases sharing with
    | cache =>
      simp only [admits, Bool.and_eq_true, Bool.not_eq_true', Bool.true_and] at hadmits
      exact hadmits.1.1
    | file =>
      simp only [admits, Bool.and_eq_true, Bool.not_eq_true', Bool.true_and] at hadmits
      exact hadmits.1.2
  unfold isWriter at hnot
  cases hv : v.writer with
  | none => rfl
  | some w =>
    rw [hv] at hothers hnot
    simp only [Option.any_some, bne, Bool.not_eq_false'] at hothers hnot
    rw [hothers] at hnot
    cases hnot

/-- entering adds what the connection holds and nothing else -/
theorem Joined.enter (hjoined : Joined before id v) (hidle : before.Idle id)
    (henter : v.enter sharing id writes exclusive = some u) :
    Joined before id u ∧ (writes = true → u.isWriter id = true) := by
  unfold Vault.enter at henter
  split at henter
  · rename_i hin
    cases henter
    refine ⟨hjoined, fun hwrites => ?_⟩
    simpa [hwrites] using hin
  · rename_i hout
    split at henter
    · rename_i hadmits
      have hnot : v.isWriter id = false := by
        rw [← Bool.not_eq_true]
        intro hw
        simp [hw] at hout
      have hcalm : v.waiting = false := hjoined.waiting_of_admits hidle hnot hadmits
      have hbefore : v.writer = before.writer := hjoined.writer hnot
      have hholds : (if v.isActive id then v.holds else v.holds ++ [⟨id, [(Demand.catalogueName, false)]⟩]).filter
          (fun x => x.owner != id) = before.holds := by
        split
        · exact hjoined.holds hidle
        · simpa using hjoined.holds hidle
      cases henter
      cases writes with
      | true =>
        refine ⟨.inr ⟨hjoined.db, hjoined.commits, hholds, ?_, hjoined.calm hcalm, fun _ => ?_⟩, fun _ => ?_⟩
        · simp [isWriter, ← hbefore, writer_of_admits hnot hadmits]
        · simp [isWriter]
        · simp [isWriter]
      | false =>
        have hstill : (v.writer.any fun w => w.id == id) = false := hnot
        refine ⟨.inr ⟨hjoined.db, hjoined.commits, hholds, ?_, hjoined.calm hcalm, fun hw => ?_⟩, fun h => by cases h⟩
        · simpa [isWriter, hstill] using hbefore
        · simp [hcalm] at hw
    · cases henter

theorem isWriter_hold (v : Vault) (id other : Nat) (t : String × Bool) :
    (v.hold other t).isWriter id = v.isWriter id := rfl

theorem Joined.hold (hjoined : Joined before id v) (hidle : before.Idle id) (t : String × Bool) :
    Joined before id (v.hold id t) := by
  have hothers : (v.hold id t).holds.filter (fun h => h.owner != id) = v.holds.filter fun h => h.owner != id := by
    simp only [Vault.hold, List.filter_map]
    induction v.holds with
    | nil => rfl
    | cons x rest ih =>
      by_cases hx : x.owner = id
      · simpa [List.filter_cons, hx] using ih
      · simpa [List.filter_cons, hx] using ih
  rcases hjoined with rfl | h
  · -- who holds nothing cannot hold a table more
    have hsame : v.hold id t = v := by
      have hmap : (v.holds.map fun h => if h.owner == id then { h with tables := t :: h.tables } else h) = v.holds := by
        refine (List.map_congr_left fun x hx => ?_).trans (List.map_id _)
        have hne := List.any_eq_false.1 hidle.active x hx
        simpa using fun he => absurd he (by simpa using hne)
      simp only [Vault.hold, hmap]
    exact .inl hsame
  · exact .inr ⟨h.db, h.commits, hothers.trans h.holds, h.writer, h.calm, h.waiting⟩

/-- holding tables; only a writer may ask for a change -/
theorem Joined.claim (hidle : before.Idle id) (tables : List (String × Bool)) :
    ∀ {v : Vault}, Joined before id v → (∀ t ∈ tables, t.2 = true → v.isWriter id = true) →
      Joined before id (Vault.claim id tables v).2 := by
  induction tables with
  | nil => exact fun hjoined _ => hjoined
  | cons t rest ih =>
    intro v hjoined hwriter
    unfold Vault.claim
    split
    · cases ht : t.2 with
      | false => simpa using hjoined
      | true => exact hjoined.awaited hidle (hwriter t List.mem_cons_self ht) _
    · refine ih (hjoined.hold hidle t) fun x hx hchange => ?_
      rw [isWriter_hold]
      exact hwriter x (List.mem_cons_of_mem t hx) hchange

theorem isWriter_setWork (v : Vault) (id : Nat) (work : Database) (changed : Bool) :
    (v.setWork work changed).isWriter id = v.isWriter id := by
  cases h : v.writer with
  | none => simp [isWriter, setWork, h]
  | some w => simp [isWriter, setWork, h]

theorem Joined.setWork (hjoined : Joined before id v) (hidle : before.Idle id) (hw : v.isWriter id = true)
    (work : Database) (changed : Bool) : Joined before id (v.setWork work changed) := by
  have h := hjoined.entered hidle hw
  have hwriter := h.writer
  refine .inr ⟨h.db, h.commits, h.holds, ?_, h.calm, fun _ => ?_⟩
  · rw [isWriter_setWork, hw]
    rw [hw] at hwriter
    exact hwriter
  · rw [isWriter_setWork]
    exact hw

end Vault

/-! ## What commands need -/

/-- only a command that needs to be the writer asks for tables to change -/
theorem Demand.of?_writes {db : Database} {cmd : DataCommand} {d : Demand} (h : Demand.of? db cmd = some d)
    {t : String × Bool} (ht : t ∈ d.tables) (hchange : t.2 = true) : d.writes = true := by
  cases cmd with
  | read r =>
    simp only [Demand.of?] at h
    split at h
    · cases h
    · cases h
      obtain ⟨x, _, rfl⟩ := List.mem_map.1 ht
      cases hchange
  | createTable ifMissing source =>
    simp only [Demand.of?] at h
    split at h
    · cases h
      cases ht
    · cases h
      rfl
  | dropTable ifThere table =>
    simp only [Demand.of?] at h
    split at h
    · cases h
      cases ht
    · cases h
      rfl
  | readVersion =>
    cases h
    cases ht
  | insert _ _ _ => cases h; rfl
  | update _ _ _ => cases h; rfl
  | delete _ _ => cases h; rfl
  | addColumn _ _ _ => cases h; rfl
  | writeVersion _ => cases h; rfl

/-- a command that need not be the writer answers the database as it is -/
theorem Database.apply_of_reading {db : Database} {args : List Value} {cmd : DataCommand} {reply : Reply}
    (hreads : (Demand.of? db cmd).any Demand.writes = false) (h : db.apply args cmd = .ok reply) : reply.db = db := by
  cases cmd with
  | read r =>
    simp only [Database.apply] at h
    cases hr : r.run db args with
    | error e => rw [hr] at h; cases h
    | ok rows => rw [hr] at h; cases h; rfl
  | readVersion => cases h; rfl
  | createTable ifMissing source =>
    simp only [Demand.of?] at hreads
    split at hreads
    · rename_i hthere
      simp only [Database.apply, Database.createTable, hthere, if_true] at h
      cases hname : Database.isReservedName source.name with
      | true =>
        simp only [hname, if_true] at h
        cases h
      | false =>
        simp only [hname, Bool.false_eq_true, if_false] at h
        cases ifMissing with
        | true => cases h; rfl
        | false => cases h
    · simp at hreads
  | dropTable ifThere table =>
    simp only [Demand.of?] at hreads
    split at hreads
    · rename_i hmissing
      have hnone : db.table? table = none := by simpa using hmissing
      simp only [Database.apply, Database.dropTable, hnone] at h
      split at h
      · cases h; rfl
      · split at h
        · cases h
        · cases h
    · simp at hreads
  | insert _ _ _ => simp [Demand.of?] at hreads
  | update _ _ _ => simp [Demand.of?] at hreads
  | delete _ _ => simp [Demand.of?] at hreads
  | addColumn _ _ _ => simp [Demand.of?] at hreads
  | writeVersion _ => simp [Demand.of?] at hreads

end FluentSql.Engine
