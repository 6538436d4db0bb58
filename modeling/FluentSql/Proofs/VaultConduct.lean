import FluentSql.Proofs.Accounts
import FluentSql.Proofs.Bystanders
import FluentSql.Proofs.TransactionScope
import FluentSql.Proofs.VersionFrame
/-!
A connection with a cache of its own, and its vault. It holds something of the vault only while a transaction is open,
and can give it back (`Connection.Proper`). Inside a transaction what is committed stays, and only the work changes;
outside of one there is no work, and what a statement answers is committed (`Connection.Inside`,
`Connection.Outside`). What a request does to the committed database and to the work (`Connection.work?`) is said once
for all kinds of requests, whatever world the vault is in (`Connection.Sole`).
-/

namespace FluentSql

open Engine Embedded

/-- what is stored, with the version as it is read -/
def Engine.Database.content (db : Database) : Content (List StoredTable) := ⟨db.tables, (Int64.ofInt db.version).toInt⟩

/-- versions are stored as they are, up to the greatest -/
theorem Engine.Database.readAs_fitVersion {n : Int} (hlow : 1 ≤ n) (hhigh : n ≤ greatestVersion) :
    (Int64.ofInt (fitVersion n)).toInt = n := by
  have hmin : Int32.minValue.toInt = -2147483648 := rfl
  have hmax : Int32.maxValue.toInt = 2147483647 := rfl
  unfold greatestVersion at hhigh
  unfold fitVersion
  rw [hmin, hmax, if_pos ⟨by omega, hhigh⟩]
  exact Int64.toInt_ofInt_of_le (by omega) (by omega)

/-- the command neither controls transactions nor writes the version -/
def Engine.Command.isCalm : Command → Bool
  | .data d => !d.isVersionWrite
  | .control _ => false

/-- calm commands do not control transactions -/
theorem Engine.Grammar.readable_calm {sql : String} (h : (readable sql).all Command.isCalm = true) (k : Control) :
    Command.control k ∉ readable sql := fun hk => by
  have hcalm := List.all_eq_true.1 h _ hk
  cases hcalm

namespace Engine.Connection

variable {c : Connection} {v v₀ : Vault} {P : Database → Prop}

/-! ## What a connection holds -/

/-- nothing is held outside a transaction; inside one, giving back what is held leads to a vault of others -/
def Proper (c : Connection) (v : Vault) : Prop :=
  ∃ v₀ : Vault, v₀.Idle c.id ∧ (c.transaction = none ∧ v = v₀ ∨ c.transaction.isSome = true ∧ v₀.Joined c.id v)

theorem proper_outside (hnone : c.transaction = none) (hidle : v.Idle c.id) : Proper c v :=
  ⟨v, hidle, .inl ⟨hnone, rfl⟩⟩

theorem proper_inside (hsome : c.transaction.isSome = true) (hidle : v₀.Idle c.id) (hjoined : v₀.Joined c.id v) :
    Proper c v := ⟨v₀, hidle, .inr ⟨hsome, hjoined⟩⟩

/-- inside a transaction or not, what is held was added to what others have -/
theorem Proper.joined (h : Proper c v) : ∃ v₀ : Vault, v₀.Idle c.id ∧ v₀.Joined c.id v := by
  obtain ⟨v₀, hidle, ⟨_, rfl⟩ | ⟨_, hjoined⟩⟩ := h
  · exact ⟨v, hidle, .inl rfl⟩
  · exact ⟨v₀, hidle, hjoined⟩

theorem Proper.idle (h : Proper c v) (hnone : c.transaction = none) : v.Idle c.id := by
  obtain ⟨v₀, hidle, ⟨_, rfl⟩ | ⟨hsome, _⟩⟩ := h
  · exact hidle
  · rw [hnone] at hsome
    cases hsome

theorem performData_proper (args : List Value) (cmd : DataCommand) (hfit : c.condition ≠ .unreadable)
    (h : Proper c v) : Proper (performData args cmd c v).2.1 (performData args cmd c v).2.2 ∧
      (performData args cmd c v).2.1.condition = c.condition := by
  obtain ⟨v₀, hidle, ⟨hnone, rfl⟩ | ⟨hsome, hjoined⟩⟩ := h
  · obtain ⟨x, id, u, hrun, hrefused, hanswered⟩ := performData_alone args cmd hnone hidle
    rw [hrun]
    refine ⟨proper_outside hnone ?_, rfl⟩
    cases x with
    | error e =>
      rw [hrefused e rfl]
      exact hidle
    | ok a =>
      obtain ⟨_, _, _, ⟨_, rfl⟩ | ⟨_, _, n, rfl⟩⟩ := hanswered a rfl
      · exact hidle
      · exact hidle.congr rfl rfl
  · obtain ⟨x, id, u, hrun, hafter, _⟩ := performData_inside args cmd hsome hfit hidle hjoined
    rw [hrun]
    exact ⟨proper_inside hsome hidle hafter, rfl⟩

theorem commit_proper (hsome : c.transaction.isSome = true) (hidle : v₀.Idle c.id) (hjoined : v₀.Joined c.id v) :
    Proper (c.commit v).2.1 (c.commit v).2.2 ∧ (c.commit v).2.1.condition = c.condition := by
  unfold commit
  split
  · rename_i left hpublish
    refine ⟨proper_outside rfl ?_, rfl⟩
    rcases publish_cases hjoined hidle hpublish with ⟨rfl, _⟩ | ⟨_, _, n, rfl⟩
    · exact hidle
    · exact hidle.congr rfl rfl
  · refine ⟨proper_outside rfl ?_, rfl⟩
    rw [hjoined.leave hidle]
    exact hidle
  · rename_i e _ hpublish
    refine ⟨?_, rfl⟩
    -- only a writer can be refused, so it is the writer who makes others wait
    have hw : v.isWriter c.id = true := by
      rw [← Bool.not_eq_false]
      intro hw
      simp [publish, hw] at hpublish
    exact proper_inside hsome hidle (hjoined.awaited hidle hw _)

theorem begin_proper (how : Beginning) (h : Proper c v) :
    Proper (c.begin how v).2.1 (c.begin how v).2.2 ∧ (c.begin how v).2.1.condition = c.condition := by
  obtain ⟨v₀, hidle, hjoined⟩ := h.joined
  rcases begin_cases how c v with ⟨e, hrun⟩ | ⟨u, hu, hend⟩
  · rw [hrun]
    exact ⟨h, rfl⟩
  · have hentered : v₀.Joined c.id u := by
      rcases hu with rfl | hu
      · exact hjoined
      · exact (hjoined.enter hidle hu).1
    rcases hend with ⟨e, t, ht, hrun⟩ | ⟨_, hrun⟩
    · rw [hrun]
      exact ⟨proper_inside (by rw [ht]; rfl) hidle hentered, rfl⟩
    · rw [hrun]
      exact ⟨proper_inside rfl hidle hentered, rfl⟩

theorem savepoint_proper (name : String) (h : Proper c v) :
    Proper (c.savepoint name v) v ∧ (c.savepoint name v).condition = c.condition := by
  obtain ⟨v₀, hidle, hjoined⟩ := h.joined
  unfold savepoint
  split
  · exact ⟨proper_inside rfl hidle hjoined, rfl⟩
  · exact ⟨proper_inside rfl hidle hjoined, rfl⟩

theorem performControl_proper (cmd : Control) (h : Proper c v) :
    Proper (performControl cmd c v).2.1 (performControl cmd c v).2.2 ∧
      (performControl cmd c v).2.1.condition = c.condition := by
  obtain ⟨v₀, hidle, hjoined⟩ := h.joined
  unfold performControl
  split
  · exact ⟨h, rfl⟩
  · split
    · exact begin_proper _ h
    · rename_i t ht
      exact commit_proper (by rw [ht]; rfl) hidle hjoined
    · refine ⟨proper_outside rfl ?_, rfl⟩
      show (v.leave c.sharing c.id).Idle c.id
      rw [hjoined.leave hidle]
      exact hidle
    · exact savepoint_proper _ h
    · rename_i name t ht
      have hsome : c.transaction.isSome = true := by rw [ht]; rfl
      unfold release
      split
      · exact ⟨h, rfl⟩
      · split
        · exact commit_proper hsome hidle hjoined
        · exact ⟨proper_inside rfl hidle hjoined, rfl⟩
    · unfold rollbackTo
      split
      · exact ⟨h, rfl⟩
      · refine ⟨proper_inside rfl hidle ?_, rfl⟩
        dsimp only
        split
        · rename_i hw
          exact hjoined.setWork hidle hw _ _
        · exact hjoined
    all_goals exact ⟨h, rfl⟩

/-- **Every command leaves a connection that can give back what it holds**, where its file can be read. -/
theorem perform_proper (args : List Value) (cmd : Command) (hfit : c.condition ≠ .unreadable) (h : Proper c v) :
    Proper (perform args cmd c v).2.1 (perform args cmd c v).2.2 ∧ (perform args cmd c v).2.1.condition = c.condition := by
  cases cmd with
  | data d => exact performData_proper args d hfit h
  | control k => exact performControl_proper k h

/-- a connection with a cache of its own, which can give back what it holds -/
structure Sole (c : Connection) (v : Vault) : Prop where
  sharing : c.sharing = .file
  condition : c.condition ≠ .unreadable
  proper : c.Proper v

theorem Carries.sole {α : Type} {cmds : List Command}
    {f : Connection → Vault → Except EngineFault α × Connection × Vault} (hf : Carries cmds f) (h : Sole c v) :
    Sole (f c v).2.1 (f c v).2.2 := by
  refine hf (fun a b : Connection × Vault => Sole a.1 a.2 → Sole b.1 b.2)
    ⟨fun _ h => h, fun first second h => second (first h)⟩ (fun cmd _ args a u ha => ?_) c v h
  obtain ⟨hproper, hcondition⟩ := perform_proper args cmd ha.condition ha.proper
  exact ⟨(perform_kin args cmd a u).sharing.trans ha.sharing, hcondition ▸ ha.condition, hproper⟩

/-- the connection to a database that has no file -/
def fileless (c : Connection) : Connection := { c with condition := .sound }

theorem fileless_sole (hsharing : c.sharing = .file) (h : Proper c v) : c.fileless.Sole v :=
  ⟨hsharing, by simp [fileless], h⟩

/-! ## Inside a transaction, and outside -/

/-- a transaction is open, and what it has made of the database has a property -/
structure Inside (v₀ : Vault) (P : Database → Prop) (a : Connection × Vault) : Prop where
  transaction : a.1.transaction.isSome = true
  condition : a.1.condition ≠ .unreadable
  idle : v₀.Idle a.1.id
  joined : v₀.Joined a.1.id a.2
  work : P (a.1.view a.2)

/-- no transaction is open, and what is committed has a property -/
structure Outside (P : Database → Prop) (a : Connection × Vault) : Prop where
  transaction : a.1.transaction = none
  idle : a.2.Idle a.1.id
  stored : P a.2.db

/-- a property of databases that a command keeps, whether it answers or not -/
structure Keeps (P : Database → Prop) (cmd : DataCommand) : Prop where
  unmet : ∀ db n, P db → P { db with unmet := n }
  apply : ∀ db args reply, P db → db.apply args cmd = .ok reply → P reply.db

theorem performData_insideKeeps {cmd : DataCommand} (hP : Keeps P cmd) (args : List Value) (h : Inside v₀ P (c, v)) :
    Inside v₀ P (performData args cmd c v).2 := by
  obtain ⟨x, id, u, hrun, hafter, hends⟩ := performData_inside args cmd h.transaction h.condition h.idle h.joined
  rw [hrun]
  refine ⟨h.transaction, h.condition, h.idle, hafter, ?_⟩
  show P (c.view u)
  rcases hends with ⟨_, n, _, hview, _⟩ | ⟨reply, hreply, _, hview⟩
  · rw [hview]
    exact hP.unmet _ n h.work
  · rw [hview]
    exact hP.apply _ args reply h.work hreply

theorem performData_outsideKeeps {cmd : DataCommand} (hP : Keeps P cmd) (args : List Value) (h : Outside P (c, v)) :
    Outside P (performData args cmd c v).2 := by
  obtain ⟨x, id, u, hrun, hrefused, hanswered⟩ := performData_alone args cmd h.transaction h.idle
  rw [hrun]
  cases x with
  | error e =>
    rw [hrefused e rfl]
    exact ⟨h.transaction, h.idle, h.stored⟩
  | ok a =>
    obtain ⟨reply, hreply, _, ⟨_, rfl⟩ | ⟨hnone, _, n, rfl⟩⟩ := hanswered a rfl
    · exact ⟨h.transaction, h.idle, h.stored⟩
    · rw [c.view_of_unwritten hnone] at hreply
      exact ⟨h.transaction, h.idle.congr rfl rfl, hP.unmet _ 0 (hP.apply _ args reply h.stored hreply)⟩

section

variable {α : Type} {cmds : List Command} {f : Connection → Vault → Except EngineFault α × Connection × Vault}

theorem Carries.insideKeeps (hf : Carries cmds f) (hcmds : ∀ cmd ∈ cmds, ∃ d, cmd = .data d ∧ Keeps P d)
    (h : Inside v₀ P (c, v)) : Inside v₀ P (f c v).2 := by
  refine hf (fun a b => Inside v₀ P a → Inside v₀ P b) ⟨fun _ h => h, fun first second h => second (first h)⟩
    (fun cmd hcmd args a u ha => ?_) c v h
  obtain ⟨d, rfl, hP⟩ := hcmds cmd hcmd
  exact performData_insideKeeps hP args ha

theorem Carries.outsideKeeps (hf : Carries cmds f) (hcmds : ∀ cmd ∈ cmds, ∃ d, cmd = .data d ∧ Keeps P d)
    (h : Outside P (c, v)) : Outside P (f c v).2 := by
  refine hf (fun a b => Outside P a → Outside P b) ⟨fun _ h => h, fun first second h => second (first h)⟩
    (fun cmd hcmd args a u ha => ?_) c v h
  obtain ⟨d, rfl, hP⟩ := hcmds cmd hcmd
  exact performData_outsideKeeps hP args ha

end

/-- every command keeps what holds of all databases -/
theorem keeps_any (cmd : DataCommand) : Keeps (fun _ => True) cmd := ⟨fun _ _ _ => trivial, fun _ _ _ _ _ => trivial⟩

/-- a command that does not write the version keeps it -/
theorem keeps_version {cmd : DataCommand} (hcmd : cmd.isVersionWrite = false) (k : Int) :
    Keeps (fun db => db.version = k) cmd :=
  ⟨fun _ _ h => h, fun db args reply h hreply => (db.apply_version args hcmd reply hreply).trans h⟩

/-! ## What a connection of its own sees -/

/-- a connection with a cache of its own that does not write sees what is committed -/
theorem view_of_idle (hsharing : c.sharing = .file) (hw : v.isWriter c.id = false) : c.view v = v.db := by
  unfold view
  unfold Vault.isWriter at hw
  cases hv : v.writer with
  | none => rfl
  | some w =>
    rw [hv] at hw
    have hne : ¬ w.id = c.id := by simpa using hw
    simp [hne, hsharing]

theorem not_shutOut (hsharing : c.sharing = .file) (v : Vault) : c.isShutOut v = false := by
  simp [isShutOut, hsharing]

/-- without a transaction there is nothing to commit, nor to roll back -/
theorem execute_noTransaction (hsharing : c.sharing = .file) (hnone : c.transaction = none) {sql : String}
    (hsql : sql = "COMMIT" ∨ sql = "ROLLBACK") (v : Vault) : execute sql c v = (.error .noTransaction, c, v) := by
  have hcommit : Grammar.commands "COMMIT" = [.ok ⟨.control .commit, 0⟩] := rfl
  have hrollback : Grammar.commands "ROLLBACK" = [.ok ⟨.control .rollback, 0⟩] := rfl
  rcases hsql with rfl | rfl
  · simp [execute, hcommit, batch, perform, performControl, not_shutOut hsharing, hnone, Except.map]
  · simp [execute, hrollback, batch, perform, performControl, not_shutOut hsharing, hnone, Except.map]


/-! ## Requests -/

/-- what the transaction that is open has made of the database -/
def work? (c : Connection) (v : Vault) : Option (Content (List StoredTable)) :=
  if c.transaction.isSome then some (c.view v).content else none

theorem work?_outside (hnone : c.transaction = none) (v : Vault) : c.work? v = none := by
  unfold work?
  rw [hnone]
  rfl

theorem work?_inside (hsome : c.transaction.isSome = true) (v : Vault) : c.work? v = some (c.view v).content :=
  if_pos hsome

theorem inside_of_work? (h : (c.work? v).isSome = true) : c.transaction.isSome = true := by
  cases ht : c.transaction with
  | none =>
    rw [work?_outside ht] at h
    cases h
  | some t => rfl

theorem outside_of_work? (h : c.work? v = none) : c.transaction = none := by
  cases ht : c.transaction with
  | none => rfl
  | some t =>
    rw [work?_inside (by rw [ht]; rfl)] at h
    cases h

/-- a transaction is open, and it was begun over a vault of others -/
theorem Sole.inside (h : Sole c v) (hsome : c.transaction.isSome = true) (hP : P (c.view v)) :
    ∃ v₀, Inside v₀ P (c, v) := by
  obtain ⟨v₀, hidle, ⟨hnone, -⟩ | ⟨-, hjoined⟩⟩ := h.proper
  · rw [hnone] at hsome
    cases hsome
  · exact ⟨v₀, hsome, h.condition, hidle, hjoined, hP⟩

/-- a statement that does not control transactions, as commands that keep a property -/
theorem keeps_of_calm {sql : String} (hcontrols : ∀ k, Command.control k ∉ Grammar.readable sql)
    (hP : ∀ d, Command.data d ∈ Grammar.readable sql → Keeps P d) :
    ∀ cmd ∈ Grammar.readable sql, ∃ d, cmd = .data d ∧ Keeps P d := by
  intro cmd hcmd
  cases cmd with
  | data d => exact ⟨d, rfl, hP d hcmd⟩
  | control k => exact absurd hcmd (hcontrols k)

/-- the commands of a statement with a text -/
theorem commands_of_text {α : Type} {r : Embedded.Request α} {sql : String} (h : r.text? = some sql) :
    r.commands = Grammar.readable sql := by
  cases r with
  | batch _ => cases h; rfl
  | query _ _ => cases h; rfl
  | change _ _ => cases h; rfl
  | readVersion => cases h
  | writeVersion _ => cases h

section

variable {α : Type} {r : Embedded.Request α} {sql : String} (h : Sole c v) (htext : r.text? = some sql)
  (hcontrols : ∀ k, Command.control k ∉ Grammar.readable sql)

include h htext hcontrols

/-- inside a transaction a statement that does not control it leaves alone what is committed -/
theorem Sole.statement_inside (hsome : c.transaction.isSome = true) (hP : P (c.view v))
    (hkeeps : ∀ d, Command.data d ∈ Grammar.readable sql → Keeps P d) :
    (answer r c v).2.1.transaction.isSome = true ∧ (answer r c v).2.2.db = v.db ∧
      P ((answer r c v).2.1.view (answer r c v).2.2) := by
  obtain ⟨v₀, hinside⟩ := h.inside hsome hP
  have hkept := (answer_carries r).insideKeeps (by rw [commands_of_text htext]; exact keeps_of_calm hcontrols hkeeps)
    hinside
  exact ⟨hkept.transaction, hkept.joined.db.trans hinside.joined.db.symm, hkept.work⟩

/-- outside of one it leaves none behind -/
theorem Sole.statement_outside (hnone : c.transaction = none) (hP : P v.db)
    (hkeeps : ∀ d, Command.data d ∈ Grammar.readable sql → Keeps P d) :
    (answer r c v).2.1.transaction = none ∧ P (answer r c v).2.2.db := by
  have hkept := (answer_carries r).outsideKeeps (by rw [commands_of_text htext]; exact keeps_of_calm hcontrols hkeeps)
    (⟨hnone, h.proper.idle hnone, hP⟩ : Outside P (c, v))
  exact ⟨hkept.transaction, hkept.stored⟩

end

/-! ### The version -/

/-- reading the version changes nothing that is stored or worked on -/
theorem Sole.readVersion (h : Sole c v) {x : Except EngineFault Int} {d : Connection} {u : Vault}
    (hrun : answer .readVersion c v = (x, d, u)) :
    u.db = v.db ∧ d.work? u = c.work? v ∧ ∀ k, x = .ok k → k = ((c.work? v).getD v.db.content).version := by
  cases ht : c.transaction with
  | none =>
    obtain ⟨z, id, w, hdata, hrefused, hanswered⟩ := performData_alone [] .readVersion ht (h.proper.idle ht)
    have hanswer : answer .readVersion c v = _ := congrArg
      (fun y : Except EngineFault Answer × Connection × Vault =>
        (y.1.map fun a => ((a.rows.bind Rows.firstCell?).bind Value.asInt).elim 0 Int64.toInt, y.2)) hdata
    rw [hrun] at hanswer
    have hsame : w = v := by
      cases z with
      | error e => exact hrefused e rfl
      | ok a =>
        obtain ⟨_, _, _, ⟨_, rfl⟩ | ⟨_, hwrites, _⟩⟩ := hanswered a rfl
        · rfl
        · simp [Demand.of?] at hwrites
    cases hanswer
    refine ⟨by rw [hsame], (work?_outside ht u).trans (work?_outside ht v).symm, fun k hk => ?_⟩
    cases z with
    | error e => cases hk
    | ok a =>
      obtain ⟨reply, hreply, rfl, -⟩ := hanswered a rfl
      cases hreply
      cases hk
      rw [work?_outside ht, view_of_idle h.sharing (h.proper.idle ht).writer]
      rfl
  | some t =>
    have hsome : c.transaction.isSome = true := by rw [ht]; rfl
    obtain ⟨v₀, hinside⟩ := h.inside hsome (P := fun _ => True) trivial
    obtain ⟨z, id, w, hdata, hjoined, hends⟩ := performData_inside [] .readVersion hsome hinside.condition hinside.idle
      hinside.joined
    have hanswer : answer .readVersion c v = _ := congrArg
      (fun y : Except EngineFault Answer × Connection × Vault =>
        (y.1.map fun a => ((a.rows.bind Rows.firstCell?).bind Value.asInt).elim 0 Int64.toInt, y.2)) hdata
    rw [hrun] at hanswer
    cases hanswer
    have hview : (c.view u).content = (c.view v).content := by
      rcases hends with ⟨_, m, _, hview, _⟩ | ⟨reply, hreply, _, hview⟩
      · rw [hview]
        rfl
      · cases hreply
        rw [hview]
    refine ⟨by rw [hjoined.db, ← hinside.joined.db], ?_, fun k hk => ?_⟩
    · rw [work?_inside hsome]
      exact (work?_inside (c := { c with lastId := id }) hsome u).trans (congrArg some hview)
    · rw [work?_inside hsome]
      rcases hends with ⟨e, _, rfl, _⟩ | ⟨reply, hreply, rfl, _⟩
      · cases hk
      · cases hreply
        cases hk
        rfl

theorem Sole.writeVersion_inside (h : Sole c v) {k : Int} {w : Content (List StoredTable)} (hw : c.work? v = some w)
    {x : Except EngineFault Unit} {d : Connection} {u : Vault} (hrun : answer (.writeVersion k) c v = (x, d, u)) :
    u.db = v.db ∧ (x = .ok () → d.work? u = some { w with version := (Int64.ofInt (Database.fitVersion k)).toInt }) ∧
      ∀ e, x = .error e → d.work? u = some w := by
  have hsome := inside_of_work? (c := c) (v := v) (by rw [hw]; rfl)
  obtain ⟨v₀, hinside⟩ := h.inside hsome (P := fun _ => True) trivial
  obtain ⟨z, id, u', hdata, hjoined, hends⟩ := performData_inside [] (.writeVersion k) hsome hinside.condition
    hinside.idle hinside.joined
  have hanswer : answer (.writeVersion k) c v = _ := congrArg
    (fun y : Except EngineFault Answer × Connection × Vault => (y.1.map fun _ => (), y.2)) hdata
  rw [hrun] at hanswer
  cases hanswer
  rw [work?_inside hsome] at hw
  cases hw
  rw [work?_inside (c := { c with lastId := id }) hsome u]
  refine ⟨by rw [hjoined.db, ← hinside.joined.db], fun hx => ?_, fun e hx => ?_⟩
  · rcases hends with ⟨e, _, rfl, _⟩ | ⟨reply, hreply, rfl, hview⟩
    · cases hx
    · cases hreply
      exact congrArg (fun db : Database => some db.content) hview
  · rcases hends with ⟨_, m, rfl, hview, _⟩ | ⟨reply, _, rfl, _⟩
    · exact (congrArg (fun db : Database => some db.content) hview).trans rfl
    · cases hx

theorem Sole.writeVersion_outside (h : Sole c v) {k : Int} (hnone : c.transaction = none)
    {x : Except EngineFault Unit} {d : Connection} {u : Vault} (hrun : answer (.writeVersion k) c v = (x, d, u)) :
    d.transaction = none ∧
      (x = .ok () → u.db.content = { v.db.content with version := (Int64.ofInt (Database.fitVersion k)).toInt }) ∧
      ∀ e, x = .error e → u = v := by
  obtain ⟨z, id, u', hdata, hrefused, hanswered⟩ := performData_alone [] (.writeVersion k) hnone (h.proper.idle hnone)
  have hanswer : answer (.writeVersion k) c v = _ := congrArg
    (fun y : Except EngineFault Answer × Connection × Vault => (y.1.map fun _ => (), y.2)) hdata
  rw [hrun] at hanswer
  cases hanswer
  refine ⟨hnone, fun hx => ?_, fun e hx => ?_⟩
  · cases z with
    | error e => cases hx
    | ok a =>
      obtain ⟨reply, hreply, _, ⟨hreads, _⟩ | ⟨hfree, _, m, rfl⟩⟩ := hanswered a rfl
      · simp [Demand.of?] at hreads
      · rw [c.view_of_unwritten hfree] at hreply
        cases hreply
        rfl
  · cases z with
    | error e => exact hrefused _ rfl
    | ok a => cases hx

/-! ### Transactions -/

theorem Sole.begins (h : Sole c v) {x : Except EngineFault Unit} {d : Connection} {u : Vault}
    (hrun : answer (.batch "BEGIN") c v = (x, d, u)) :
    u = v ∧ (x = .ok () → c.transaction = none ∧ d.work? u = some v.db.content) ∧ ∀ e, x = .error e → d = c := by
  have hexecute : execute "BEGIN" c v = (x, d, u) := hrun
  rw [execute_begin, not_shutOut h.sharing, if_neg Bool.false_ne_true] at hexecute
  cases ht : c.transaction with
  | none =>
    rw [ht] at hexecute
    cases hexecute
    refine ⟨rfl, fun _ => ⟨rfl, ?_⟩, fun e hx => by cases hx⟩
    exact congrArg (fun db : Database => some db.content) (view_of_idle h.sharing (h.proper.idle ht).writer)
  | some t =>
    rw [ht] at hexecute
    cases hexecute
    exact ⟨rfl, fun hx => (by cases hx), fun _ _ => rfl⟩

theorem Sole.commits (h : Sole c v) {x : Except EngineFault Unit} {d : Connection} {u : Vault}
    (hrun : answer (.batch "COMMIT") c v = (x, d, u)) :
    (x = .ok () → c.work? v = some u.db.content ∧ d.transaction = none) ∧
      ∀ e, x = .error e → u.db = v.db ∧ (d.work? u = c.work? v ∨ d.transaction = none) := by
  have hexecute : execute "COMMIT" c v = (x, d, u) := hrun
  cases ht : c.transaction with
  | none =>
    rw [execute_noTransaction h.sharing ht (.inl rfl)] at hexecute
    cases hexecute
    exact ⟨fun hx => (by cases hx), fun e _ => ⟨rfl, .inr ht⟩⟩
  | some t =>
    have hsome : c.transaction.isSome = true := by rw [ht]; rfl
    obtain ⟨v₀, hinside⟩ := h.inside hsome (P := fun _ => True) trivial
    have hdb : v₀.db = v.db := hinside.joined.db.symm
    rcases execute_commit hsome hinside.joined hinside.idle with
      ⟨w, hcommit, hleft⟩ | ⟨e, hcommit | ⟨w, hcommit, hjoined, hview⟩⟩
    · rw [hcommit] at hexecute
      cases hexecute
      refine ⟨fun _ => ⟨?_, rfl⟩, fun e hx => by cases hx⟩
      rw [work?_inside hsome]
      rcases hleft with ⟨rfl, hw⟩ | ⟨_, _, m, rfl⟩
      · rw [view_of_idle h.sharing hw, hdb]
      · rfl
    · rw [hcommit] at hexecute
      cases hexecute
      exact ⟨fun hx => (by cases hx), fun e _ => ⟨hdb, .inr rfl⟩⟩
    · rw [hcommit] at hexecute
      cases hexecute
      refine ⟨fun hx => (by cases hx), fun e _ => ⟨by rw [hjoined.db, hdb], .inl ?_⟩⟩
      rw [work?_inside hsome, work?_inside hsome, hview]

theorem Sole.rollsBack (h : Sole c v) {x : Except EngineFault Unit} {d : Connection} {u : Vault}
    (hrun : answer (.batch "ROLLBACK") c v = (x, d, u)) : u.db = v.db ∧ d.transaction = none := by
  have hexecute : execute "ROLLBACK" c v = (x, d, u) := hrun
  cases ht : c.transaction with
  | none =>
    rw [execute_noTransaction h.sharing ht (.inr rfl)] at hexecute
    cases hexecute
    exact ⟨rfl, ht⟩
  | some t =>
    have hsome : c.transaction.isSome = true := by rw [ht]; rfl
    obtain ⟨v₀, hinside⟩ := h.inside hsome (P := fun _ => True) trivial
    rw [execute_rollback hsome hinside.joined hinside.idle (not_shutOut h.sharing v)] at hexecute
    cases hexecute
    exact ⟨hinside.joined.db.symm, rfl⟩

end Engine.Connection

end FluentSql
