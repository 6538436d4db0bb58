import FluentSql.Proofs.CommandRuns
import FluentSql.Proofs.Joining
/-!
Connections that have nothing to do with a vault. What a connection does to a vault is a row of a few steps, so a
relation that these go along (`Vault.Permits`) is gone along by every command (`Connection.perform_akin`). Whatever a
connection does, it does in its own name: whoever else held nothing of the vault holds nothing afterwards
(`Connection.perform_kin`), and nobody is noted twice (`Vault.Single`).
-/

namespace FluentSql.Engine

namespace Vault

variable {v u w : Vault} {id : Nat}

/-! ## Steps of a connection -/

/-- everything that a connection does to a vault goes along a relation, which is told the number of the connection -/
structure Permits (Q : Nat → Vault → Vault → Prop) : Prop where
  trans : ∀ {id v u w}, Q id v u → Q id u w → Q id v w
  same : ∀ {id v u}, u.writer = v.writer → u.holds = v.holds → Q id v u
  enter : ∀ {id v u sharing writes exclusive}, v.enter sharing id writes exclusive = some u → Q id v u
  hold : ∀ id v t, Q id v (v.hold id t)
  leave : ∀ id v sharing, Q id v (v.leave sharing id)
  setWork : ∀ id v work changed, Q id v (v.setWork work changed)

theorem Permits.refl {Q : Nat → Vault → Vault → Prop} (hQ : Permits Q) (id : Nat) (v : Vault) : Q id v v :=
  hQ.same rfl rfl

theorem Permits.claim {Q : Nat → Vault → Vault → Prop} (hQ : Permits Q) (id : Nat) (tables : List (String × Bool)) :
    ∀ v : Vault, Q id v (Vault.claim id tables v).2 := by
  induction tables with
  | nil => exact fun v => hQ.refl id v
  | cons t rest ih =>
    intro v
    unfold Vault.claim
    split
    · exact hQ.same rfl rfl
    · exact hQ.trans (hQ.hold id v t) (ih _)

/-! ## Strangers -/

/-- whoever other than one connection had nothing to do with a vault still has not -/
def Strange (id : Nat) (v u : Vault) : Prop := ∀ other, other ≠ id → v.Idle other → u.Idle other

theorem Idle.congr (h : v.Idle id) (hwriter : u.writer = v.writer) (hholds : u.holds = v.holds) : u.Idle id := by
  refine ⟨?_, ?_⟩
  · rw [isWriter, hwriter]
    exact h.writer
  · rw [isActive, hholds]
    exact h.active

theorem enter_strange {sharing : Sharing} {writes exclusive : Bool} (h : v.enter sharing id writes exclusive = some u) :
    Strange id v u := by
  intro other hne hidle
  have hne' : (id == other) = false := by simpa using fun he : id = other => hne he.symm
  have hactive : (v.holds.any fun x => x.owner == other) = false := hidle.active
  have hwriter : (v.writer.any fun x => x.id == other) = false := hidle.writer
  unfold enter at h
  split at h
  · cases h
    exact hidle
  · split at h
    · cases h
      refine ⟨?_, ?_⟩
      · cases writes with
        | true => simpa [isWriter] using hne'
        | false => simpa [isWriter] using hwriter
      · rw [isActive]
        dsimp only
        split
        · exact hactive
        · simp [List.any_append, hactive, hne']
    · cases h

theorem hold_strange (v : Vault) (owner : Nat) (t : String × Bool) : Strange id v (v.hold owner t) := by
  intro other _ hidle
  refine ⟨hidle.writer, ?_⟩
  have hactive : (v.holds.any fun x => x.owner == other) = false := hidle.active
  rw [isActive, hold, List.any_map, ← hactive]
  congr 1
  funext x
  simp only [Function.comp]
  split
  · rfl
  · rfl

theorem leave_strange (v : Vault) (sharing : Sharing) (owner : Nat) : Strange id v (v.leave sharing owner) := by
  intro other _ hidle
  have hactive : (v.holds.any fun x => x.owner == other) = false := hidle.active
  refine ⟨?_, ?_⟩
  · rw [isWriter]
    dsimp only [leave]
    split
    · rfl
    · exact hidle.writer
  · simp only [isActive, leave, List.any_filter]
    rw [List.any_eq_false] at hactive ⊢
    intro x hx
    simp [hactive x hx]

theorem setWork_strange (v : Vault) (work : Database) (changed : Bool) : Strange id v (v.setWork work changed) := by
  intro other _ hidle
  refine ⟨?_, hidle.active⟩
  rw [isWriter_setWork]
  exact hidle.writer

theorem permits_strange : Permits Strange where
  trans first second other hne h := second other hne (first other hne h)
  same hwriter hholds _ _ h := h.congr hwriter hholds
  enter := enter_strange
  hold id v t := hold_strange v id t
  leave id v sharing := leave_strange v sharing id
  setWork _ v := setWork_strange v

/-! ## What is held once -/

/-- no connection is noted twice -/
def Single (v : Vault) : Prop := (v.holds.map Hold.owner).Nodup

theorem enter_single {sharing : Sharing} {writes exclusive : Bool} (h : v.enter sharing id writes exclusive = some u)
    (hv : v.Single) : u.Single := by
  unfold enter at h
  split at h
  · cases h
    exact hv
  · split at h
    · cases h
      unfold Single
      dsimp only
      split
      · exact hv
      · next hactive =>
        have hnew : id ∉ v.holds.map Hold.owner := by simpa [isActive] using hactive
        rw [List.map_append]
        refine List.nodup_append.2 ⟨hv, by simp, fun a ha b hb heq => ?_⟩
        rw [heq, List.mem_singleton.1 hb] at ha
        exact hnew ha
    · cases h

theorem hold_owners (v : Vault) (owner : Nat) (t : String × Bool) :
    (v.hold owner t).holds.map Hold.owner = v.holds.map Hold.owner := by
  rw [hold, List.map_map]
  refine List.map_congr_left fun x _ => ?_
  simp only [Function.comp]
  split
  · rfl
  · rfl

theorem leave_single (sharing : Sharing) (owner : Nat) (hv : v.Single) : (v.leave sharing owner).Single :=
  hv.sublist (List.filter_sublist.map _)

theorem permits_single : Permits fun _ v u => v.Single → u.Single where
  trans first second h := second (first h)
  same _ hholds h := by
    rw [Single, hholds]
    exact h
  enter := enter_single
  hold id v t h := by
    rw [Single, hold_owners]
    exact h
  leave id _ sharing := leave_single sharing id
  setWork _ _ _ _ h := h

end Vault

open Vault

namespace Connection

variable {c : Connection} {v : Vault}

/-- the same connection but for what its transaction and the files changed, and a vault that it alone has dealt with -/
structure Kin (a b : Connection × Vault) : Prop where
  id : b.1.id = a.1.id
  target : b.1.target = a.1.target
  sharing : b.1.sharing = a.1.sharing
  strange : Strange a.1.id a.2 b.2

theorem Kin.stepwise : Stepwise Kin where
  refl _ := ⟨rfl, rfl, rfl, permits_strange.refl _ _⟩
  trans first second :=
    ⟨second.id.trans first.id, second.target.trans first.target, second.sharing.trans first.sharing,
      permits_strange.trans first.strange (first.id ▸ second.strange)⟩

/-- the same connection but for what its transaction and the files changed, and a vault further along a relation -/
structure Akin (Q : Nat → Vault → Vault → Prop) (a b : Connection × Vault) : Prop where
  id : b.1.id = a.1.id
  target : b.1.target = a.1.target
  sharing : b.1.sharing = a.1.sharing
  vault : Q a.1.id a.2 b.2

section

variable {Q : Nat → Vault → Vault → Prop} (hQ : Permits Q)

include hQ

theorem Akin.refl (a : Connection × Vault) : Akin Q a a := ⟨rfl, rfl, rfl, hQ.refl _ _⟩

theorem secure_permitted (c : Connection) (v : Vault) (d : Option Demand) : Q c.id v (c.secure v d).2 := by
  unfold secure
  split
  · exact hQ.refl _ _
  · split
    · exact hQ.refl _ _
    · rename_i entered henter
      split
      · exact hQ.trans (hQ.enter henter) (hQ.claim _ _ _)
      · exact hQ.enter henter

theorem afterFailure_permitted (c : Connection) (v : Vault) : Q c.id v (c.afterFailure v) := by
  unfold afterFailure
  split
  · exact hQ.refl _ _
  · exact hQ.leave _ _ _

theorem publish_permitted {left : Vault} (h : c.publish v = .ok left) : Q c.id v left := by
  unfold publish at h
  dsimp only at h
  split at h
  · cases h
    exact hQ.leave _ _ _
  · split at h
    · cases h
    · split at h
      · cases h
      · split at h
        · cases h
        · cases h
          refine hQ.trans ?_ (hQ.leave _ _ _)
          exact hQ.same rfl rfl

theorem afterSuccess_akin (c : Connection) (v : Vault) (cmd : DataCommand) (reply : Reply) :
    Akin Q (c, v) (c.afterSuccess v cmd reply).2 := by
  unfold afterSuccess
  dsimp only
  generalize hworked : (if v.isWriter c.id = true then _ else v) = worked
  have hpermitted : Q c.id v worked := by
    subst hworked
    split
    · exact hQ.setWork _ _ _ _
    · exact hQ.refl _ _
  split
  · exact ⟨rfl, rfl, rfl, afterFailure_permitted hQ c v⟩
  · split
    · exact ⟨rfl, rfl, rfl, hpermitted⟩
    · split
      · rename_i left hpublish
        exact ⟨rfl, rfl, rfl, hQ.trans hpermitted (publish_permitted hQ hpublish)⟩
      · exact ⟨rfl, rfl, rfl, hQ.trans hpermitted (hQ.leave _ _ _)⟩

theorem performData_akin (args : List Value) (cmd : DataCommand) : Upholds (Akin Q) (performData args cmd) := by
  intro c v
  have hsecured := secure_permitted hQ c v (Demand.of? (c.view v) cmd)
  unfold performData
  split
  · exact Akin.refl hQ _
  · dsimp only
    split
    · exact ⟨rfl, rfl, rfl, hQ.refl _ _⟩
    · split
      · exact Akin.refl hQ _
      · split
        · rename_i held hsecure
          rw [hsecure] at hsecured
          exact ⟨rfl, rfl, rfl, hQ.trans hsecured (afterFailure_permitted hQ c held)⟩
        · rename_i held hsecure
          rw [hsecure] at hsecured
          refine ⟨rfl, rfl, rfl, hQ.trans hsecured (hQ.trans ?_ (afterFailure_permitted hQ c _))⟩
          split
          · exact hQ.setWork _ _ _ _
          · exact hQ.refl _ _
    · split
      · rename_i held hsecure
        rw [hsecure] at hsecured
        exact ⟨rfl, rfl, rfl, hQ.trans hsecured (afterFailure_permitted hQ c held)⟩
      · rename_i held hsecure
        rw [hsecure] at hsecured
        have hdone := afterSuccess_akin hQ c held cmd ‹Reply›
        exact ⟨hdone.id, hdone.target, hdone.sharing, hQ.trans hsecured hdone.vault⟩

theorem commit_akin (c : Connection) (v : Vault) : Akin Q (c, v) (c.commit v).2 := by
  unfold commit
  split
  · rename_i left hpublish
    exact ⟨rfl, rfl, rfl, publish_permitted hQ hpublish⟩
  · exact ⟨rfl, rfl, rfl, hQ.leave _ _ _⟩
  · exact ⟨rfl, rfl, rfl, hQ.same rfl rfl⟩

omit hQ in
/-- how beginning a transaction can end: refused, refused although something is held now, or begun -/
theorem begin_cases (how : Beginning) (c : Connection) (v : Vault) :
    (∃ e, c.begin how v = (.error e, c, v)) ∨
      ∃ u, (u = v ∨ v.enter c.sharing c.id true (how = .exclusive) = some u) ∧
        ((∃ e t, c.transaction = some t ∧ c.begin how v = (.error e, c, u)) ∨
          c.transaction = none ∧ c.begin how v = (.ok (), { c with transaction := some ⟨true, []⟩ }, u)) := by
  have hentered : ∀ u, (if how = .deferred then some v else v.enter c.sharing c.id true (how = .exclusive)) = some u →
      u = v ∨ v.enter c.sharing c.id true (how = .exclusive) = some u := by
    intro u hu
    split at hu
    · exact .inl (Option.some.inj hu).symm
    · exact .inr hu
  unfold begin
  dsimp only
  generalize (if how = .deferred then none else c.obstacle v) = blocked
  cases blocked with
  | some e => exact .inl ⟨_, rfl⟩
  | none =>
    generalize (if how = .deferred then some v else v.enter c.sharing c.id true (how = .exclusive)) = entered
      at hentered
    cases entered with
    | none => exact .inl ⟨_, rfl⟩
    | some u =>
      refine .inr ⟨u, hentered u rfl, ?_⟩
      simp only [Option.elim]
      cases ht : c.transaction with
      | none => exact .inr ⟨rfl, rfl⟩
      | some t => exact .inl ⟨_, t, rfl, rfl⟩

theorem begin_akin (how : Beginning) (c : Connection) (v : Vault) : Akin Q (c, v) (c.begin how v).2 := by
  rcases begin_cases how c v with ⟨e, hrun⟩ | ⟨u, hu, hend⟩
  · rw [hrun]
    exact Akin.refl hQ _
  · have hheld : Q c.id v u := by
      rcases hu with rfl | hu
      · exact hQ.refl _ _
      · exact hQ.enter hu
    rcases hend with ⟨e, t, _, hrun⟩ | ⟨_, hrun⟩
    · rw [hrun]
      exact ⟨rfl, rfl, rfl, hheld⟩
    · rw [hrun]
      exact ⟨rfl, rfl, rfl, hheld⟩

theorem savepoint_akin (name : String) (c : Connection) (v : Vault) : Akin Q (c, v) (c.savepoint name v, v) := by
  unfold savepoint
  split
  · exact ⟨rfl, rfl, rfl, hQ.refl _ _⟩
  · exact ⟨rfl, rfl, rfl, hQ.refl _ _⟩

theorem release_akin (name : String) (t : Transaction) (c : Connection) (v : Vault) :
    Akin Q (c, v) (c.release name t v).2 := by
  unfold release
  split
  · exact Akin.refl hQ _
  · split
    · exact commit_akin hQ c v
    · exact ⟨rfl, rfl, rfl, hQ.refl _ _⟩

theorem rollbackTo_akin (name : String) (t : Transaction) (c : Connection) (v : Vault) :
    Akin Q (c, v) (c.rollbackTo name t v).2 := by
  unfold rollbackTo
  split
  · exact Akin.refl hQ _
  · refine ⟨rfl, rfl, rfl, ?_⟩
    dsimp only
    split
    · exact hQ.setWork _ _ _ _
    · exact hQ.refl _ _

theorem performControl_akin (cmd : Control) : Upholds (Akin Q) (performControl cmd) := by
  intro c v
  unfold performControl
  split
  · exact Akin.refl hQ _
  · split
    · exact begin_akin hQ _ c v
    · exact commit_akin hQ c v
    · exact ⟨rfl, rfl, rfl, hQ.leave _ _ _⟩
    · exact savepoint_akin hQ _ c v
    · exact release_akin hQ _ _ c v
    · exact rollbackTo_akin hQ _ _ c v
    all_goals exact Akin.refl hQ _

/-- **A command is a row of steps of its connection**, so it goes along what these go along. -/
theorem perform_akin (args : List Value) (cmd : Command) : Upholds (Akin Q) (perform args cmd) := by
  cases cmd with
  | data d => exact performData_akin hQ args d
  | control k => exact performControl_akin hQ k

end

/-- **A command is carried out in the name of its connection only.** -/
theorem perform_kin (args : List Value) (cmd : Command) : Upholds Kin (perform args cmd) := fun c v =>
  have h := perform_akin permits_strange args cmd c v
  ⟨h.id, h.target, h.sharing, h.vault⟩

theorem Carries.kin {α : Type} {cmds : List Command}
    {f : Connection → Vault → Except EngineFault α × Connection × Vault} (hf : Carries cmds f) : Upholds Kin f :=
  hf Kin Kin.stepwise fun cmd _ args => perform_kin args cmd

/-- a vault that notes nobody twice goes on like that -/
theorem Carries.single {α : Type} {cmds : List Command}
    {f : Connection → Vault → Except EngineFault α × Connection × Vault} (hf : Carries cmds f) :
    Upholds (fun a b => a.2.Single → b.2.Single) f :=
  hf _ ⟨fun _ h => h, fun first second h => second (first h)⟩ fun cmd _ args c v =>
    (perform_akin permits_single args cmd c v).vault

/-! ## One connection in several states -/

/-- two states of one connection -/
structure Same (c d : Connection) : Prop where
  id : d.id = c.id
  target : d.target = c.target
  sharing : d.sharing = c.sharing

theorem Kin.same {a b : Connection × Vault} (h : Kin a b) : Same a.1 b.1 := ⟨h.id, h.target, h.sharing⟩

end Connection

end FluentSql.Engine
