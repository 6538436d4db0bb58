import FluentSql.Storage.Library
import FluentSql.Proofs.Respect
/-!
Requests as the commands that they carry out. What a request does to its connection and the vault is a run of commands
(`Connection.Carries`), so a relation that every command goes along is gone along by the request (`answer_carries`).
-/

namespace FluentSql

open Engine Embedded

/-- the commands of a text that can be read -/
def Engine.Grammar.readable (sql : String) : List Command :=
  (commands sql).filterMap fun p => p.toOption.map Prepared.command

/-- the commands that a request can get to -/
def Embedded.Request.commands {α : Type} : Request α → List Command
  | .batch sql => Grammar.readable sql
  | .query sql _ => Grammar.readable sql
  | .change sql _ => Grammar.readable sql
  | .readVersion => [.data .readVersion]
  | .writeVersion version => [.data (.writeVersion version)]

namespace Engine.Connection

variable {α β : Type} {cmds : List Command}

/-- an action on a connection and a vault leads along a relation -/
def Upholds (J : Connection × Vault → Connection × Vault → Prop)
    (f : Connection → Vault → Except EngineFault α × Connection × Vault) : Prop :=
  ∀ c v, J (c, v) (f c v).2

/-- an action on a connection and a vault carries out some commands and does nothing else to them -/
def Carries (cmds : List Command) (f : Connection → Vault → Except EngineFault α × Connection × Vault) : Prop :=
  ∀ J, Stepwise J → (∀ cmd ∈ cmds, ∀ args, Upholds J (perform args cmd)) → Upholds J f

theorem batch_upholds {J : Connection × Vault → Connection × Vault → Prop} (hJ : Stepwise J)
    (ps : List (Except EngineFault Grammar.Prepared))
    (h : ∀ p, .ok p ∈ ps → Upholds J (perform [] p.command)) : Upholds J (batch ps) := by
  induction ps with
  | nil => exact fun c v => hJ.refl (c, v)
  | cons p rest ih =>
    intro c v
    cases p with
    | error e => exact hJ.refl (c, v)
    | ok p =>
      have hfirst := h p List.mem_cons_self c v
      unfold batch
      rcases hrun : perform [] p.command c v with ⟨e | a, c', v'⟩
      · rw [hrun] at hfirst
        exact hfirst
      · rw [hrun] at hfirst
        exact hJ.trans hfirst (ih (fun q hq => h q (List.mem_cons_of_mem _ hq)) c' v')

theorem execute_carries (sql : String) : Carries (Grammar.readable sql) (execute sql) := by
  intro J hJ h
  refine batch_upholds hJ _ fun p hp => h p.command ?_ []
  exact List.mem_filterMap.2 ⟨_, hp, rfl⟩

theorem run_carries (sql : String) (args : List Value) : Carries (Grammar.readable sql) (run sql args) := by
  intro J hJ h c v
  unfold run
  cases hread : Grammar.commands sql with
  | nil => exact hJ.refl (c, v)
  | cons p rest =>
    cases p with
    | error e => exact hJ.refl (c, v)
    | ok p =>
      dsimp only
      split
      · refine h p.command ?_ _ c v
        rw [Grammar.readable, hread]
        exact List.mem_filterMap.2 ⟨_, List.mem_cons_self, rfl⟩
      · exact hJ.refl (c, v)

/-- what is made of the answer is no matter -/
theorem Carries.answered {f : Connection → Vault → Except EngineFault α × Connection × Vault}
    {g : Connection → Vault → Except EngineFault β × Connection × Vault} (hf : Carries cmds f)
    (hsame : ∀ c v, (g c v).2 = (f c v).2) : Carries cmds g := by
  intro J hJ h c v
  rw [hsame]
  exact hf J hJ h c v

theorem change_carries (sql : String) (args : List Value) : Carries (Grammar.readable sql) (change sql args) := by
  refine (run_carries sql args).answered fun c v => ?_
  unfold change
  rcases run sql args c v with ⟨e | a, c', v'⟩
  · rfl
  · dsimp only
    split
    · rfl
    · rfl

theorem performData_carries (args : List Value) (cmd : DataCommand) : Carries [.data cmd] (performData args cmd) :=
  fun _ _ h => h (.data cmd) List.mem_cons_self args

/-- **A request carries out its commands**, and does nothing else to its connection and the vault. -/
theorem answer_carries (r : Embedded.Request α) : Carries r.commands (answer r) := by
  cases r with
  | batch sql => exact execute_carries sql
  | query sql args => exact (run_carries sql args).answered fun _ _ => rfl
  | change sql args => exact change_carries sql args
  | readVersion => exact (performData_carries [] .readVersion).answered fun _ _ => rfl
  | writeVersion version => exact (performData_carries [] (.writeVersion version)).answered fun _ _ => rfl

end Engine.Connection

end FluentSql
