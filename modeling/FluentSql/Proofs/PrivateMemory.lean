import FluentSql.Proofs.FileTree
import FluentSql.Proofs.VaultConduct
/-!
The account of a database in memory that belongs to one handle, as the engine of this project keeps it
(`Storage.privateMemory`): it is a vault of its own, and the connection does to it what a connection does to its vault.

Main result: the engine does what the account says (`Storage.privateMemory_followed`).
-/

namespace FluentSql

open Engine Embedded

/-! ## The account -/

namespace Storage

open Connection

variable {c : Connection} {s : Storage} {v : Vault} {n : Nat}

/-- numbers of databases were given in order -/
def Counted (s : Storage) : Prop := ∀ e ∈ s.vaults, e.1 < s.next

/-- a connection to a database in memory that has no name -/
structure Private (n : Nat) (v : Vault) (c : Connection) (s : Storage) : Prop where
  counted : s.Counted
  target : c.target = .memory n
  sharing : c.sharing = .file
  vault : s.vault? n = some v
  proper : c.Proper v

/-- databases in memory that belong to one handle: a new connection finds an empty one, which is gone when it ends -/
def privateMemory : Account Connection Storage (List StoredTable) where
  ready := Counted
  found _ := Database.empty.content
  live c s := ∃ n v, Private n v c s
  stored c s := ((s.vault? c.target.number).elim Database.empty Vault.db).content
  work c s :=
    if c.transaction.isSome then some ((s.vault? c.target.number).elim Database.empty c.view).content else none
  lasts := False
  empty := []
  controls sql := ∃ k, Command.control k ∈ Grammar.readable sql
  revises sql := ∃ n, Command.data (.writeVersion n) ∈ Grammar.readable sql

/-- texts of which all commands are calm -/
theorem privateMemory_calm {sql : String} (h : (Grammar.readable sql).all Command.isCalm = true) :
    ¬ privateMemory.controls sql ∧ ¬ privateMemory.revises sql := by
  refine ⟨fun ⟨k, hk⟩ => Grammar.readable_calm h k hk, fun ⟨_, hn⟩ => ?_⟩
  have hcalm := List.all_eq_true.1 h _ hn
  cases hcalm

/-- a world without databases -/
theorem empty_counted : Counted empty := fun _ he => by cases he

theorem Private.stored (h : Private n v c s) : privateMemory.stored c s = v.db.content := by
  show ((s.vault? c.target.number).elim Database.empty Vault.db).content = _
  rw [h.target, Target.number, h.vault]
  rfl

theorem Private.work (h : Private n v c s) : privateMemory.work c s = c.work? v := by
  show (if c.transaction.isSome then some ((s.vault? c.target.number).elim Database.empty c.view).content else none) = _
  rw [h.target, Target.number, h.vault]
  rfl

theorem Counted.setVault (h : s.Counted) (n : Nat) (v : Vault) : (s.setVault n v).Counted := by
  intro e he
  obtain ⟨x, hx, rfl⟩ := List.mem_map.1 he
  split
  · rename_i hn
    exact hn ▸ h x hx
  · exact h x hx

/-- a vault that is added last is found if no other one has its number -/
theorem findVault_new (l : List (Nat × Vault)) (h : ∀ e ∈ l, e.1 < n) (v : Vault) :
    findVault n (l ++ [(n, v)]) = some v := by
  induction l with
  | nil => simp [findVault]
  | cons e rest ih =>
    have hne : ¬ e.1 = n := Nat.ne_of_lt (h e List.mem_cons_self)
    rw [List.cons_append, findVault, if_neg hne]
    exact ih fun x hx => h x (List.mem_cons_of_mem e hx)

/-- a new database in memory, with its connection -/
theorem Counted.connectPrivate (h : s.Counted) :
    ∃ n, Private n Vault.empty s.connectPrivate.1 s.connectPrivate.2 ∧ s.connectPrivate.1.transaction = none := by
  refine ⟨s.next, ⟨fun e he => ?_, rfl, rfl, findVault_new s.vaults h Vault.empty, proper_outside rfl ⟨rfl, rfl⟩⟩, rfl⟩
  have hlt : e.1 < s.next + 1 := by
    rcases List.mem_append.1 he with hold | hnew
    · exact Nat.lt_succ_of_lt (h e hold)
    · rw [List.mem_singleton.1 hnew]
      exact Nat.lt_succ_self _
  exact Nat.lt_succ_of_lt hlt

theorem Private.sole (h : Private n v c s) : c.fileless.Sole v := fileless_sole h.sharing h.proper

/-- what happens on the connection goes no further than its vault -/
theorem Private.perform {α : Type} (h : Private n v c s) (r : Embedded.Request α) {x : Except EngineFault α}
    {c' : Connection} {s' : Storage} (hrun : library.perform r c s = (x, c', s')) :
    ∃ v', answer r c.fileless v = (x, c', v') ∧ s' = s.setVault n v' ∧ Private n v' c' s' := by
  have haccess : library.perform r c s = _ := access_memory h.target h.vault (answer r)
  have hsame := ((answer_carries r).kin c.fileless v).same
  have hsole := (answer_carries r).sole h.sole
  rw [hrun] at haccess
  cases haccess
  refine ⟨_, rfl, rfl, h.counted.setVault n _, hsame.target.trans h.target, hsame.sharing.trans h.sharing, ?_,
    hsole.proper⟩
  rw [vault?_setVault, if_pos rfl, h.vault]
  rfl

/-- a statement that does not control transactions -/
theorem calm_commands {sql : String} (hcontrols : ¬ privateMemory.controls sql) :
    ∀ k, Command.control k ∉ Grammar.readable sql := fun k hk => hcontrols ⟨k, hk⟩

/-- inside a transaction statements that do not control it leave alone what is committed, and stay inside -/
theorem Private.statement_inside {α : Type} {r : Embedded.Request α} {sql : String} (h : Private n v c s)
    (htext : r.text? = some sql) (hcontrols : ¬ privateMemory.controls sql)
    (hwork : (privateMemory.work c s).isSome = true) :
    privateMemory.stored (library.perform r c s).2.1 (library.perform r c s).2.2 = privateMemory.stored c s ∧
      (privateMemory.work (library.perform r c s).2.1 (library.perform r c s).2.2).isSome = true := by
  rw [h.work] at hwork
  rcases hrun : library.perform r c s with ⟨x, c', s'⟩
  obtain ⟨v', hanswer, -, hafter⟩ := h.perform r hrun
  obtain ⟨hsome, hdb, -⟩ := h.sole.statement_inside htext (calm_commands hcontrols) (inside_of_work? (c := c) hwork)
    (P := fun _ => True) trivial fun d _ => keeps_any d
  rw [hanswer] at hsome hdb
  rw [hafter.stored, h.stored, hafter.work, work?_inside hsome]
  exact ⟨by rw [hdb], rfl⟩

theorem privateMemory_steadfast : privateMemory.Steadfast library := fun _ _ _ _ ⟨_, _, h⟩ htext hcontrols hwork =>
  (h.statement_inside htext hcontrols hwork).2

/-- statements that do not write the version keep it, inside a transaction and outside -/
theorem Private.statement_version {α : Type} {r : Embedded.Request α} {sql : String} (h : Private n v c s)
    (htext : r.text? = some sql) (hcontrols : ¬ privateMemory.controls sql) (hrevises : ¬ privateMemory.revises sql) :
    (∀ w w', privateMemory.work c s = some w →
      privateMemory.work (library.perform r c s).2.1 (library.perform r c s).2.2 = some w' → w'.version = w.version) ∧
      (privateMemory.work c s = none →
        (privateMemory.stored (library.perform r c s).2.1 (library.perform r c s).2.2).version =
          (privateMemory.stored c s).version) := by
  have hkeeps : ∀ k d, Command.data d ∈ Grammar.readable sql → Keeps (fun db => db.version = k) d := by
    intro k d hd
    refine keeps_version ?_ k
    cases d with
    | writeVersion m => exact absurd ⟨m, hd⟩ hrevises
    | _ => rfl
  rcases hrun : library.perform r c s with ⟨x, c', s'⟩
  obtain ⟨v', hanswer, -, hafter⟩ := h.perform r hrun
  rw [h.work, h.stored, hafter.work, hafter.stored]
  refine ⟨fun w w' hw hw' => ?_, fun hw => ?_⟩
  · have hsome := inside_of_work? (c := c) (v := v) (by rw [hw]; rfl)
    obtain ⟨hstill, -, hversion⟩ := h.sole.statement_inside htext (calm_commands hcontrols) hsome
      (P := fun db => db.version = (c.view v).version) rfl (hkeeps _)
    rw [hanswer] at hstill hversion
    rw [work?_inside hstill] at hw'
    rw [work?_inside hsome] at hw
    cases hw
    cases hw'
    exact congrArg (fun k => (Int64.ofInt k).toInt) hversion
  · obtain ⟨-, hversion⟩ := h.sole.statement_outside htext (calm_commands hcontrols) (outside_of_work? (c := c) hw)
      (P := fun db => db.version = v.db.version) rfl (hkeeps _)
    rw [hanswer] at hversion
    exact congrArg (fun k => (Int64.ofInt k).toInt) hversion

/-! ### The laws -/

/-- the end of the connection leaves all others counted -/
theorem Private.disconnect (h : Private n v c s) : (s.disconnect c).Counted := by
  have hsharing : ¬ c.sharing = .cache := by rw [h.sharing]; simp
  unfold Storage.disconnect
  dsimp only
  rw [if_neg hsharing, h.target, Target.number, h.vault]
  unfold settle
  rw [h.target]
  exact h.counted.setVault n _

/-- **The engine does to a database in memory of its own what the account says.** -/
theorem privateMemory_followed : privateMemory.Followed library .own where
  prepared dir s hready := by
    refine ⟨?_, rfl⟩
    show Counted (makeDirectories dir s).2
    unfold makeDirectories
    split
    · exact hready
    · exact hready
  opened {s c t} hready hopen := by
    obtain ⟨n, hprivate, hnone⟩ := Counted.connectPrivate hready
    cases hopen
    exact ⟨⟨n, _, hprivate⟩, hprivate.work.trans (work?_outside hnone _), hprivate.stored⟩
  refused hready hopen := by cases hopen
  closed := fun ⟨_, _, h⟩ => ⟨h.disconnect, fun hlasts => hlasts.elim⟩
  passing _ _ _ := rfl
  live {α} r {c s} := fun ⟨n, _, h⟩ => by
    rcases hrun : library.perform r c s with ⟨x, c', s'⟩
    obtain ⟨v', -, -, hafter⟩ := h.perform r hrun
    exact ⟨n, v', hafter⟩
  inside _ := fun ⟨_, _, h⟩ htext hcontrols hwork => by
    obtain ⟨hstored, hsome⟩ := h.statement_inside htext hcontrols hwork
    refine ⟨hstored, fun hnone => ?_⟩
    rw [hnone] at hsome
    cases hsome
  outside {α} r {sql c s} := fun ⟨n, v, h⟩ htext hcontrols hwork => by
    rw [h.work] at hwork
    rcases hrun : library.perform r c s with ⟨x, c', s'⟩
    obtain ⟨v', hanswer, -, hafter⟩ := h.perform r hrun
    obtain ⟨hnone, -⟩ := h.sole.statement_outside htext (calm_commands hcontrols) (outside_of_work? (c := c) hwork)
      (P := fun _ => True) trivial fun d _ => keeps_any d
    rw [hanswer] at hnone
    rw [hafter.work]
    exact work?_outside hnone v'
  unrevised r := fun ⟨n, v, h⟩ htext hcontrols hrevises => h.statement_version htext hcontrols hrevises
  readVersion := fun ⟨n, v, h⟩ hrun => by
    obtain ⟨v', hanswer, -, hafter⟩ := h.perform _ hrun
    obtain ⟨hdb, hwork, hread⟩ := h.sole.readVersion hanswer
    unfold Account.seen
    rw [hafter.stored, h.stored, hafter.work, h.work, hdb]
    exact ⟨rfl, .inl hwork, hread⟩
  writeInside := fun ⟨n, v, h⟩ hw hrun => by
    rw [h.work] at hw
    obtain ⟨v', hanswer, -, hafter⟩ := h.perform _ hrun
    obtain ⟨hdb, hok, herror⟩ := h.sole.writeVersion_inside hw hanswer
    rw [hafter.stored, h.stored, hafter.work, hdb]
    exact ⟨rfl, fun hx => ⟨_, hok hx, Database.readAs_fitVersion⟩, fun e hx => .inl (herror e hx)⟩
  writeOutside {c s k x c' s'} := fun ⟨n, v, h⟩ hw hrun => by
    rw [h.work] at hw
    obtain ⟨v', hanswer, -, hafter⟩ := h.perform _ hrun
    obtain ⟨hnone, hok, herror⟩ := h.sole.writeVersion_outside (outside_of_work? (c := c) hw) hanswer
    rw [hafter.stored, h.stored, hafter.work]
    exact ⟨work?_outside hnone v', fun hx => ⟨_, hok hx, Database.readAs_fitVersion⟩, fun e hx => by rw [herror e hx]⟩
  begins := fun ⟨n, v, h⟩ hrun => by
    obtain ⟨v', hanswer, -, hafter⟩ := h.perform _ hrun
    obtain ⟨hsame, hok, herror⟩ := h.sole.begins hanswer
    subst hsame
    rw [hafter.stored, h.stored, hafter.work, h.work]
    exact ⟨rfl, fun hx => ⟨work?_outside (hok hx).1 v', (hok hx).2⟩, fun e hx => by rw [herror e hx]; rfl⟩
  commits := fun ⟨n, v, h⟩ hrun => by
    obtain ⟨v', hanswer, -, hafter⟩ := h.perform _ hrun
    obtain ⟨hok, herror⟩ := h.sole.commits hanswer
    rw [hafter.stored, h.stored, hafter.work, h.work]
    refine ⟨fun hx => ⟨(hok hx).1, work?_outside (hok hx).2 v'⟩, fun e hx => ?_⟩
    obtain ⟨hdb, hends⟩ := herror e hx
    exact ⟨by rw [hdb], hends.imp_right fun hnone => work?_outside hnone v'⟩
  rollsBack := fun ⟨n, v, h⟩ hrun => by
    obtain ⟨v', hanswer, -, hafter⟩ := h.perform _ hrun
    obtain ⟨hdb, hnone⟩ := h.sole.rollsBack hanswer
    rw [hafter.stored, h.stored, hafter.work, hdb]
    exact ⟨rfl, work?_outside hnone v'⟩

end Storage

end FluentSql
