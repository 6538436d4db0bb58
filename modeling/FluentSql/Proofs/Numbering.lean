import FluentSql.Proofs.Disconnecting
import FluentSql.Proofs.HandleConduct
/-!
Numbers that are given once. Every number of a database is given for one way of sharing: those in files for files of
their own, those of shared databases for a shared cache (`Storage.Numbered`). Whatever handles and providers do, numbers
that were given keep their meaning (`Storage.Grows`), and a connection that is new has a number that nobody had before
(`Handle.openUp_numbers`, `Provider.openDatabase_numbers`).

So two connections to one database share it in the same way, and end in either order (`Storage.Fits.severable`).
-/

namespace FluentSql

open Engine

namespace Storage

/-- every number is given for one way of sharing, and no connection is noted twice in a database -/
structure Numbered (kind : Nat → Sharing) (s : Storage) : Prop where
  single : ∀ e ∈ s.vaults, e.2.Single
  files : ∀ a n, s.files.numberAt a = some n → n < s.next ∧ kind n = .file
  shared : ∀ e ∈ s.shared, e.vault < s.next ∧ kind e.vault = .cache

/-- a connection with a number that was given, to a database that is shared in its way -/
structure Fits (kind : Nat → Sharing) (next : Nat) (c : Connection) : Prop where
  id : c.id < next
  number : c.target.number < next
  sharing : kind c.target.number = c.sharing
  memory : c.sharing = .cache → isMemory c.target

/-- numbers may have been given, and those that were given before have kept their meaning -/
structure Grows (kind kind' : Nat → Sharing) (s t : Storage) : Prop where
  next : s.next ≤ t.next
  same : ∀ n, n < s.next → kind' n = kind n
  numbered : t.Numbered kind'

variable {kind kind' kind'' : Nat → Sharing} {s t u : Storage} {c a : Connection}

/-! ## Steps of a storage -/

theorem mem_of_vault? {n : Nat} {v : Vault} (h : s.vault? n = some v) : (n, v) ∈ s.vaults := by
  unfold vault? at h
  generalize s.vaults = vaults at h ⊢
  induction vaults with
  | nil => cases h
  | cons e rest ih =>
    unfold findVault at h
    split at h
    · rename_i he
      cases h
      subst he
      exact List.mem_cons_self
    · exact List.mem_cons_of_mem e (ih h)

theorem eraseWhere_next (test : String → Bool) (p : Path) (s : Storage) :
    (eraseWhere test p s).shared = s.shared ∧ (eraseWhere test p s).next = s.next := by
  unfold eraseWhere
  split
  · exact ⟨rfl, rfl⟩
  · exact ⟨rfl, rfl⟩

theorem tidy_next (s : Storage) (c : Connection) (v : Vault) :
    (s.tidy c v).1.shared = s.shared ∧ (s.tidy c v).1.next = s.next := by
  unfold tidy
  split
  · split
    · exact ⟨rfl, rfl⟩
    · split
      · exact ⟨rfl, rfl⟩
      · split
        · exact ⟨rfl, rfl⟩
        · dsimp only
          rw [(eraseWhere_next _ _ _).1, (eraseWhere_next _ _ _).2]
          exact eraseWhere_next _ _ _
  · exact ⟨rfl, rfl⟩

theorem settle_next (c : Connection) (before after : Vault) (s : Storage) :
    (settle c before after s).shared = s.shared ∧ (settle c before after s).next = s.next := by
  unfold settle
  split
  · dsimp only
    split
    · exact eraseWhere_next _ _ _
    · exact ⟨rfl, rfl⟩
  · exact ⟨rfl, rfl⟩

/-- beginning to read changes nothing about who holds something -/
theorem tidy_holds (s : Storage) (c : Connection) (v : Vault) : (s.tidy c v).2.holds = v.holds := by
  unfold tidy
  repeat' split
  all_goals rfl

theorem findShared_some {name : String} {e : SharedEntry} (h : s.findShared name = some e) : e ∈ s.shared :=
  List.mem_of_find?_eq_some h

theorem dropHolder_next (s : Storage) (n : Nat) : (s.dropHolder n).next = s.next ∧ (s.dropHolder n).files = s.files := by
  unfold dropHolder
  split
  · exact ⟨rfl, rfl⟩
  · split
    · exact ⟨rfl, rfl⟩
    · exact ⟨rfl, rfl⟩

/-- whatever is done on a connection, it stays the same one -/
theorem access_same {α : Type} {f : Connection → Vault → Except EngineFault α × Connection × Vault}
    (hf : Connection.Upholds Connection.Kin f) (c : Connection) (s : Storage) : c.Same (access f c s).2.1 := by
  unfold access
  cases s.vault? c.target.number with
  | none => exact ⟨rfl, rfl, rfl⟩
  | some v =>
    have hsame := (hf { c with condition := (s.tidy c v).1.condition (s.tidy c v).2 c.target } (s.tidy c v).2).same
    exact ⟨hsame.id, hsame.target, hsame.sharing⟩

/-! ## Growing -/

theorem empty_numbered : empty.Numbered kind where
  single _ h := by cases h
  files p n h := by
    unfold Files.numberAt Files.find? at h
    split at h
    · cases h
    · cases h
  shared _ h := by cases h

theorem Grows.refl (h : s.Numbered kind) : Grows kind kind s s := ⟨Nat.le_refl _, fun _ _ => rfl, h⟩

theorem Grows.trans (first : Grows kind kind' s t) (second : Grows kind' kind'' t u) : Grows kind kind'' s u where
  next := Nat.le_trans first.next second.next
  same n hn := (second.same n (Nat.lt_of_lt_of_le hn first.next)).trans (first.same n hn)
  numbered := second.numbered

theorem Fits.grows (h : Fits kind s.next c) (hgrows : Grows kind kind' s t) : Fits kind' t.next c where
  id := Nat.lt_of_lt_of_le h.id hgrows.next
  number := Nat.lt_of_lt_of_le h.number hgrows.next
  sharing := (hgrows.same _ h.number).trans h.sharing
  memory := h.memory

/-- a connection fits in every state -/
theorem Fits.same {next : Nat} (h : Fits kind next c) (hsame : c.Same a) : Fits kind next a where
  id := hsame.id ▸ h.id
  number := hsame.target ▸ h.number
  sharing := by rw [hsame.target, hsame.sharing, h.sharing]
  memory hcache := hsame.target ▸ h.memory (hsame.sharing ▸ hcache)

/-- **Connections with numbers of their own end in either order** if they lead to one database. -/
theorem Fits.severable (hs : s.Numbered kind) (ha : Fits kind s.next a) (hc : Fits kind s.next c) (hne : a.id ≠ c.id)
    (hnumber : a.target.number = c.target.number) : s.Severable a c where
  ids := hne
  sharing := by rw [← ha.sharing, hnumber, hc.sharing]
  memory hcache := by
    have hsame : c.sharing = a.sharing := by rw [← ha.sharing, hnumber, hc.sharing]
    exact ⟨ha.memory hcache, hc.memory (hsame.trans hcache)⟩
  owners v hv := hs.single _ (mem_of_vault? hv)

/-! ## Changes that give no numbers to files or shared databases -/

/-- databases, files and shared databases of before, with what connections did to them -/
theorem Numbered.less (h : s.Numbered kind) (hsingle : ∀ e ∈ t.vaults, e ∈ s.vaults ∨ e.2.Single)
    (hfiles : ∀ a n, t.files.numberAt a = some n → s.files.numberAt a = some n)
    (hshared : ∀ e ∈ t.shared, ∃ f ∈ s.shared, f.vault = e.vault) (hnext : s.next ≤ t.next) : Grows kind kind s t := by
  refine ⟨hnext, fun _ _ => rfl, fun e he => ?_, fun a n hn => ?_, fun e he => ?_⟩
  · rcases hsingle e he with hold | hnew
    · exact h.single e hold
    · exact hnew
  · obtain ⟨hlt, hkind⟩ := h.files a n (hfiles a n hn)
    exact ⟨Nat.lt_of_lt_of_le hlt hnext, hkind⟩
  · obtain ⟨f, hf, hvault⟩ := hshared e he
    obtain ⟨hlt, hkind⟩ := h.shared f hf
    exact hvault ▸ ⟨Nat.lt_of_lt_of_le hlt hnext, hkind⟩

/-- as `Numbered.less`, with the shared databases as they were -/
theorem Numbered.kept (h : s.Numbered kind) (hsingle : ∀ e ∈ t.vaults, e ∈ s.vaults ∨ e.2.Single)
    (hfiles : ∀ a n, t.files.numberAt a = some n → s.files.numberAt a = some n) (hshared : t.shared = s.shared)
    (hnext : s.next ≤ t.next) : Grows kind kind s t :=
  h.less hsingle hfiles (fun e he => ⟨e, hshared ▸ he, rfl⟩) hnext

theorem mem_setVault {n : Nat} {v : Vault} (hv : v.Single) :
    ∀ e ∈ (s.setVault n v).vaults, e ∈ s.vaults ∨ e.2.Single := by
  intro e he
  obtain ⟨x, hx, rfl⟩ := List.mem_map.1 he
  split
  · exact .inr hv
  · exact .inl hx

theorem Numbered.dropHolder (h : s.Numbered kind) (n : Nat) : Grows kind kind s (s.dropHolder n) := by
  obtain ⟨hnext, hfiles⟩ := dropHolder_next s n
  refine h.less (fun e he => .inl ?_) (fun a m hm => hfiles ▸ hm) (fun e he => ?_) (Nat.le_of_eq hnext.symm)
  · unfold Storage.dropHolder at he
    split at he
    · exact he
    · split at he
      · exact (List.mem_filter.1 he).1
      · exact he
  · unfold Storage.dropHolder at he
    split at he
    · exact ⟨e, he, rfl⟩
    · split at he
      · exact ⟨e, (List.mem_filter.1 he).1, rfl⟩
      · obtain ⟨x, hx, rfl⟩ := List.mem_map.1 he
        refine ⟨x, hx, ?_⟩
        split
        · rfl
        · rfl

theorem Numbered.disconnect (h : s.Numbered kind) (c : Connection) : Grows kind kind s (s.disconnect c) := by
  have hdrop : ∀ t : Storage, Grows kind kind s t →
      Grows kind kind s (if c.sharing = .cache then t.dropHolder c.target.number else t) := by
    intro t ht
    split
    · exact ht.trans (ht.numbered.dropHolder _)
    · exact ht
  unfold Storage.disconnect
  dsimp only
  cases hv : s.vault? c.target.number with
  | none => exact hdrop s (Grows.refl h)
  | some v =>
    have hsettled := settle_next c v (c.rollback v).2 s
    have hleft : (c.rollback v).2.Single := Vault.leave_single _ _ (h.single _ (mem_of_vault? hv))
    refine hdrop _ (h.kept (fun e he => ?_) (settle_fewer c v (c.rollback v).2 s) hsettled.1
      (Nat.le_of_eq hsettled.2.symm))
    have hvaults := settle_vaults c v (c.rollback v).2 s
    rcases mem_setVault hleft e he with hold | hnew
    · exact .inl (hvaults ▸ hold)
    · exact .inr hnew

theorem Numbered.access (h : s.Numbered kind) {α : Type} {cmds : List Command}
    {f : Connection → Vault → Except EngineFault α × Connection × Vault} (hf : Connection.Carries cmds f)
    (c : Connection) : Grows kind kind s (Storage.access f c s).2.2 := by
  unfold Storage.access
  cases hv : s.vault? c.target.number with
  | none => exact Grows.refl h
  | some v =>
    dsimp only
    have htidied := tidy_next s c v
    have hholds := tidy_holds s c v
    have hfewer := tidy_fewer s c v
    generalize hfound : (s.tidy c v).2 = found at hholds ⊢
    generalize hafter : f { c with condition := (s.tidy c v).1.condition found c.target } found = after
    have hsettled := settle_next c found after.2.2 (s.tidy c v).1
    have hsingle : found.Single := by
      rw [Vault.Single, hholds]
      exact h.single _ (mem_of_vault? hv)
    have hleft : after.2.2.Single := hafter ▸ hf.single _ _ hsingle
    have hvaults := (settle_vaults c found after.2.2 (s.tidy c v).1).trans (tidy_vaults s c v)
    refine h.kept (fun e he => ?_) (hfewer.trans (settle_fewer c found after.2.2 (s.tidy c v).1))
      (hsettled.1.trans htidied.1) (Nat.le_of_eq (hsettled.2.trans htidied.2).symm)
    rcases mem_setVault hleft e he with hold | hnew
    · exact .inl (hvaults ▸ hold)
    · exact .inr hnew

/-! ## New numbers -/

/-- the meanings of numbers after one more was given -/
def granted (kind : Nat → Sharing) (n : Nat) (k : Sharing) : Nat → Sharing := fun m => if m = n then k else kind m

theorem granted_self (kind : Nat → Sharing) (n : Nat) (k : Sharing) : granted kind n k n = k := if_pos rfl

theorem granted_of_lt {n m : Nat} (k : Sharing) (hm : m < n) : granted kind n k m = kind m := if_neg (Nat.ne_of_lt hm)

/-- a new database, to be shared in whatever way -/
theorem Numbered.newVault (h : s.Numbered kind) (k : Sharing) : Grows kind (granted kind s.next k) s s.newVault.2 where
  next := Nat.le_succ _
  same _ hn := granted_of_lt k hn
  numbered :=
    { single := fun e he => by
        rcases List.mem_append.1 he with hold | hnew
        · exact h.single e hold
        · rw [List.mem_singleton.1 hnew]
          exact List.nodup_nil
      files := fun a n hn => by
        obtain ⟨hlt, hkind⟩ := h.files a n hn
        exact ⟨Nat.lt_succ_of_lt hlt, (granted_of_lt k hlt).trans hkind⟩
      shared := fun e he => by
        obtain ⟨hlt, hkind⟩ := h.shared e he
        exact ⟨Nat.lt_succ_of_lt hlt, (granted_of_lt k hlt).trans hkind⟩ }

/-- a new connection, over a storage that knows the number of its database -/
theorem Numbered.connect (h : s.Numbered kind) (target : Target) (sharing : Sharing) :
    Grows kind kind s (s.connect target sharing).2 :=
  h.kept (fun _ he => .inl he) (fun _ _ hn => hn) rfl (Nat.le_succ _)

/-- a storage that has grown, and a connection that is new there -/
structure Gains (kind : Nat → Sharing) (s : Storage) (r : Connection × Storage) : Prop where
  grows : ∃ kind', Grows kind kind' s r.2 ∧ Fits kind' r.2.next r.1
  fresh : s.next ≤ r.1.id

/-- a connection to a database whose number was given for its way of sharing -/
theorem Grows.gains (h : Grows kind kind' s t) (target : Target) {sharing : Sharing} (hnumber : target.number < t.next)
    (hkind : kind' target.number = sharing) (hmemory : sharing = .cache → isMemory target) :
    Gains kind s (t.connect target sharing) where
  grows := ⟨kind', h.trans (h.numbered.connect target sharing), Nat.lt_succ_self _, Nat.lt_succ_of_lt hnumber, hkind, hmemory⟩
  fresh := h.next

theorem Numbered.connectPrivate (h : s.Numbered kind) : Gains kind s s.connectPrivate :=
  (h.newVault .file).gains (.memory s.next) (Nat.lt_succ_self _) (granted_self _ _ _) fun hcache => by cases hcache

theorem Numbered.connectShared (h : s.Numbered kind) (name : String) : Gains kind s (s.connectShared name) := by
  unfold Storage.connectShared
  cases hfound : s.findShared name with
  | some e =>
    obtain ⟨hlt, hkind⟩ := h.shared e (findShared_some hfound)
    have hholders : Grows kind kind s (s.setHolders e.vault (e.holders + 1)) := by
      refine h.less (fun _ he => .inl he) (fun _ _ hn => hn) (fun f hf => ?_) (Nat.le_refl _)
      obtain ⟨x, hx, rfl⟩ := List.mem_map.1 hf
      refine ⟨x, hx, ?_⟩
      split
      · rfl
      · rfl
    exact hholders.gains (.memory e.vault) hlt hkind fun _ => rfl
  | none =>
    have hnew := h.newVault .cache
    have hentered : Grows kind (granted kind s.next .cache) s
        { s.newVault.2 with shared := s.newVault.2.shared ++ [⟨name, s.next, 1⟩] } := by
      refine ⟨hnew.next, hnew.same, hnew.numbered.single, hnew.numbered.files, fun e he => ?_⟩
      rcases List.mem_append.1 he with hold | hlast
      · exact hnew.numbered.shared e hold
      · rw [List.mem_singleton.1 hlast]
        exact ⟨Nat.lt_succ_self _, granted_self _ _ _⟩
    exact hentered.gains (.memory s.next) (Nat.lt_succ_self _) (granted_self _ _ _) fun _ => rfl

/-- a new database in a file -/
theorem Numbered.enterFile (h : s.Numbered kind) (place : Path) (node : Nat → Node) (hnode : ∀ n, (node n).number? = some n) :
    Gains kind s (connectFile.enter place node s) := by
  have hnew := h.newVault .file
  have hentered : Grows kind (granted kind s.next .file) s
      { s.newVault.2 with files := s.newVault.2.files.put place (node s.next) } := by
    refine ⟨hnew.next, hnew.same, hnew.numbered.single, fun a n hn => ?_, hnew.numbered.shared⟩
    rw [Files.numberAt, Files.find?_put] at hn
    by_cases hplace : a = place ∧ a ≠ []
    · rw [if_pos hplace, Option.bind_some, hnode] at hn
      cases hn
      exact ⟨Nat.lt_succ_self _, granted_self _ _ _⟩
    · rw [if_neg hplace] at hn
      exact hnew.numbered.files a n hn
  exact hentered.gains (.file s.next place) (Nat.lt_succ_self _) (granted_self _ _ _) fun hcache => by cases hcache

theorem Numbered.connectFile (h : s.Numbered kind) {address : Address} {r : Connection × Storage}
    (hr : s.connectFile address = some r) : Gains kind s r := by
  have hjoin : ∀ n, s.files.numberAt (Path.ofText address.path) = some n →
      Gains kind s (s.connect (.file n (Path.ofText address.path)) .file) := fun n hn =>
    (Grows.refl h).gains (.file n (Path.ofText address.path)) (h.files _ n hn).1 (h.files _ n hn).2
      fun hcache => by cases hcache
  unfold Storage.connectFile at hr
  dsimp only at hr
  split at hr
  · cases hr
  · split at hr
    · cases hr
    · next n hfile =>
      cases hr
      refine hjoin n ?_
      rw [Files.numberAt, hfile]
      rfl
    · next t n htext =>
      cases hr
      refine hjoin n ?_
      rw [Files.numberAt, htext]
      rfl
    · next t _ =>
      cases hr
      exact h.enterFile _ (fun n => .text t (some n)) fun _ => rfl
    · split at hr
      · cases hr
        exact h.enterFile _ .database fun _ => rfl
      · cases hr

/-- **A connection that is new has a number that nobody had.** -/
theorem Numbered.connectText (h : s.Numbered kind) (text : String) :
    (∀ c t, s.connectText text = (.ok c, t) → Gains kind s (c, t)) ∧
      ∀ e t, s.connectText text = (.error e, t) → t = s := by
  unfold Storage.connectText
  split
  · exact ⟨fun c t hc => (by cases hc), fun e t hc => (by cases hc; rfl)⟩
  · split
    · exact ⟨fun c t hc => (by cases hc), fun e t hc => (by cases hc; rfl)⟩
    · next a _ =>
      split
      · refine ⟨fun c t hc => ?_, fun e t hc => by cases hc⟩
        cases hc
        split
        · exact h.connectShared a.path
        · exact h.connectPrivate
      · split
        · exact ⟨fun c t hc => (by cases hc), fun e t hc => (by cases hc; rfl)⟩
        · next c u hopened =>
          refine ⟨fun d t hd => ?_, fun e t hc => by cases hc⟩
          cases hd
          obtain ⟨⟨kind', hgrows, hfits⟩, hfresh⟩ := h.connectFile hopened
          exact ⟨⟨kind', hgrows, hfits.id, hfits.number, hfits.sharing, hfits.memory⟩, hfresh⟩

/-- directories that are made have no numbers -/
theorem Numbered.makeDirectories (h : s.Numbered kind) (dir : String) :
    Grows kind kind s (s.makeDirectories dir).2 := by
  unfold Storage.makeDirectories
  split
  · exact Grows.refl h
  · exact h.kept (fun _ he => .inl he) (Files.makeAll_fewer _ _) rfl (Nat.le_refl _)

theorem Numbered.removeFile (h : s.Numbered kind) (path : String) : Grows kind kind s (s.removeFile path).2 := by
  unfold Storage.removeFile
  split
  · exact h.kept (fun _ he => .inl he) (Files.erase_fewer _ _) rfl (Nat.le_refl _)
  · exact Grows.refl h

end Storage

namespace Embedded.Handle

open Storage

variable {W : Type} {kind : Nat → Sharing} {s : Storage}

/-- a handle connects to its database by a new connection -/
theorem connect_gains (h : s.Numbered kind) (location : Location) :
    (∀ c t, connect library location s = (.ok c, t) → Gains kind s (c, t)) ∧
      ∀ e t, connect library location s = (.error e, t) → Grows kind kind s t := by
  have hprepared : ∀ {x t}, prepare library location s = (x, t) → Grows kind kind s t := by
    intro x t hmade
    rcases prepare_cases library location s with hsame | ⟨dir, hdir⟩
    · rw [hsame] at hmade
      cases hmade
      exact Grows.refl h
    · have hgrows := h.makeDirectories dir
      rw [hdir] at hmade
      rw [show s.makeDirectories dir = (x, t) from hmade] at hgrows
      exact hgrows
  have hopened : ∀ {s' : Storage}, s'.Numbered kind →
      (∀ c t, library.openAt location s' = (.ok c, t) → Gains kind s' (c, t)) ∧
        ∀ e t, library.openAt location s' = (.error e, t) → t = s' := by
    intro s' h'
    cases location with
    | file path => exact h'.connectText path
    | own => exact ⟨fun c t hc => (by cases hc; exact h'.connectPrivate), fun e t hc => by cases hc⟩
    | shared address => exact h'.connectText address
  refine ⟨fun c t hc => ?_, fun e t hc => ?_⟩
  · obtain ⟨s', hmade, hopen⟩ := connect_made hc
    have hgrows := hprepared hmade
    obtain ⟨⟨kind', hlater, hfits⟩, hfresh⟩ := (hopened hgrows.numbered).1 c t hopen
    exact ⟨⟨kind', hgrows.trans hlater, hfits⟩, Nat.le_trans hgrows.next hfresh⟩
  · rcases connect_refused hc with ⟨why, hmade⟩ | ⟨s', why, hmade, hopen⟩
    · exact hprepared hmade
    · have hgrows := hprepared hmade
      rw [(hopened hgrows.numbered).2 why t hopen]
      exact hgrows

/-- numbers keep their meaning, and the connection of a handle keeps its number or is new -/
def KeepsNumbers (p q : Handle Connection × Storage × W) : Prop :=
  ∀ kind, p.2.1.Numbered kind → (∀ c, p.1.connection = some c → Fits kind p.2.1.next c) →
    ∃ kind', Grows kind kind' p.2.1 q.2.1 ∧ ∀ c, q.1.connection = some c → Fits kind' q.2.1.next c ∧
      ((∃ before, p.1.connection = some before ∧ c.id = before.id) ∨ p.2.1.next ≤ c.id)

theorem KeepsNumbers.stepwise : Stepwise (KeepsNumbers (W := W)) where
  refl p kind h hfits := ⟨kind, Grows.refl h, fun c hc => ⟨hfits c hc, .inl ⟨c, hc, rfl⟩⟩⟩
  trans first second kind h hfits := by
    obtain ⟨kind', hgrows, hfirst⟩ := first kind h hfits
    obtain ⟨kind'', hlater, hsecond⟩ := second kind' hgrows.numbered fun c hc => (hfirst c hc).1
    refine ⟨kind'', hgrows.trans hlater, fun c hc => ?_⟩
    obtain ⟨hfit, ⟨d, hd, hid⟩ | hnew⟩ := hsecond c hc
    · rw [hid]
      exact ⟨hfit, (hfirst d hd).2⟩
    · exact ⟨hfit, .inr (Nat.le_trans hgrows.next hnew)⟩

/-- the same connection, if any, over the same storage -/
theorem keepsNumbers_congr {p q : Handle Connection × Storage × W} (hconnection : q.1.connection = p.1.connection)
    (hstorage : q.2.1 = p.2.1) : KeepsNumbers p q := fun kind h hfits => by
  rw [hconnection, hstorage]
  exact ⟨kind, Grows.refl h, fun c hc => ⟨hfits c hc, .inl ⟨c, hc, rfl⟩⟩⟩

/-- a handle without a connection -/
theorem keepsNumbers_unconnected {p q : Handle Connection × Storage × W} (hnone : q.1.connection = none)
    (h : ∀ kind, p.2.1.Numbered kind → Grows kind kind p.2.1 q.2.1) : KeepsNumbers p q := fun kind hs _ =>
  ⟨kind, h kind hs, fun c hc => by rw [hnone] at hc; cases hc⟩

theorem connected_numbers : (connected library : Act Connection Storage W Unit).Respects KeepsNumbers := by
  intro p
  unfold connected
  cases hnone : p.1.connection with
  | some c => exact KeepsNumbers.stepwise.refl p
  | none =>
    dsimp only
    rcases hconnect : connect library p.1.location p.2.1 with ⟨e | c, t⟩
    · exact keepsNumbers_unconnected hnone fun kind h => (connect_gains h p.1.location).2 e t hconnect
    · intro kind h _
      obtain ⟨⟨kind', hgrows, hfits⟩, hfresh⟩ := (connect_gains h p.1.location).1 c t hconnect
      exact ⟨kind', hgrows, fun d hd => by cases hd; exact ⟨hfits, .inr hfresh⟩⟩

variable [Reporting W]

theorem close_numbers (p : Handle Connection × Storage × W) : KeepsNumbers p (close library p) := by
  unfold close
  split
  · exact keepsNumbers_congr rfl rfl
  · exact keepsNumbers_congr rfl rfl
  · next c _ _ => exact keepsNumbers_unconnected rfl fun kind h => h.disconnect c

omit [Reporting W] in
theorem release_numbers (p : Handle Connection × Storage × W) : KeepsNumbers p (release library p) := by
  unfold release
  split
  · next c _ => exact keepsNumbers_unconnected rfl fun kind h => h.disconnect c
  · exact keepsNumbers_congr rfl rfl

omit [Reporting W] in
theorem request_numbers {α : Type} (r : Request α) :
    (request library r : Act Connection Storage W α).Respects KeepsNumbers := by
  intro p
  unfold request
  split
  · next c hc _ =>
    intro kind h hfits
    have hcarries := Connection.answer_carries r
    have hgrows : Grows kind kind p.2.1 (library.perform r c p.2.1).2.2 := h.access hcarries c
    have hsame : c.Same (library.perform r c p.2.1).2.1 := access_same hcarries.kin c p.2.1
    have hfit := (hfits c hc).grows hgrows
    refine ⟨kind, hgrows, fun d hd => ?_⟩
    cases hd
    exact ⟨hfit.same hsame, .inl ⟨c, hc, hsame.id⟩⟩
  · exact KeepsNumbers.stepwise.refl p

theorem keepsNumbers_allows : Allows library (fun _ => True) (KeepsNumbers (W := W)) where
  stepwise := KeepsNumbers.stepwise
  emit _ _ := keepsNumbers_congr rfl rfl
  note _ _ := keepsNumbers_congr rfl rfl
  request r _ _ _ := request_numbers r
  own _ _ := request_numbers _
  readVersion := request_numbers _
  writeVersion _ := request_numbers _
  around _ _ h := h

/-- **Opening gives numbers that nobody had.** -/
theorem openUp_numbers : (openUp library : Act Connection Storage W Unit).Respects KeepsNumbers := fun p =>
  keepsNumbers_allows.openUp (Hooks.ask_any _) (connected_numbers p) (fun _ => keepsNumbers_congr rfl rfl) close_numbers

end Embedded.Handle

namespace Embedded.Provider

open Storage

variable {W : Type} {kind : Nat → Sharing} {q : Depot Connection Storage × W}

/-- a name that is kept alive is kept by a connection of its own -/
theorem acquire_numbers (h : q.1.engine.Numbered kind) (p : Provider) (name : String) :
    ∃ kind', Grows kind kind' q.1.engine (acquire library p name q).2.1.engine := by
  unfold acquire
  split
  · exact ⟨kind, Grows.refl h⟩
  · next number _ =>
    split
    · exact ⟨kind, Grows.refl h⟩
    · obtain ⟨hopened, hrefused⟩ := h.connectText (Location.address number (keyOf name))
      rcases hopen : library.openAddress (Location.address number (keyOf name)) q.1.engine with ⟨e | c, s⟩
      · rw [hrefused e s hopen]
        exact ⟨kind, Grows.refl h⟩
      · obtain ⟨⟨kind', hgrows, -⟩, -⟩ := hopened c s hopen
        exact ⟨kind', hgrows⟩

/-- **A database that is opened has a connection that is new**, and numbers keep their meaning in any case. -/
theorem openDatabase_numbers [Reporting W] (h : q.1.engine.Numbered kind) (p : Provider) (name : String)
    (o : OpenOptions) :
    ∃ kind', Grows kind kind' q.1.engine (p.openDatabase library name o q).2.1.engine ∧
      ∀ handle, (p.openDatabase library name o q).1 = .ok handle → ∀ c, handle.connection = some c →
        Fits kind' (p.openDatabase library name o q).2.1.engine.next c ∧ q.1.engine.next ≤ c.id := by
  rw [openDatabase_eq]
  split
  · exact ⟨kind, Grows.refl h, fun handle hopen => by cases hopen⟩
  · obtain ⟨kind', hgrows⟩ := acquire_numbers h p name
    rcases hacquire : acquire library p name q with ⟨e | _, r⟩
    · rw [hacquire] at hgrows
      exact ⟨kind', hgrows, fun handle hopen => by cases hopen⟩
    · rw [hacquire] at hgrows
      obtain ⟨kind'', hlater, hconnected⟩ := Handle.openUp_numbers
        (newHandle p name o, r.1.engine, Reporting.emit (opening name o.version) r.2) kind' hgrows.numbered
        fun c hc => by cases hc
      dsimp only
      rcases hopened : Handle.openUp library
          (newHandle p name o, r.1.engine, Reporting.emit (opening name o.version) r.2) with ⟨x, opened, u, w'⟩
      rw [hopened] at hlater hconnected
      refine ⟨kind'', hgrows.trans hlater, fun handle hopen c hc => ?_⟩
      cases x with
      | error e => cases hopen
      | ok _ =>
        cases hopen
        obtain ⟨hfit, ⟨before, hbefore, -⟩ | hnew⟩ := hconnected c hc
        · cases hbefore
        · exact ⟨hfit, Nat.le_trans hgrows.next hnew⟩

theorem removeThose_numbers (paths : List String) :
    ∀ {s : Storage}, s.Numbered kind → Grows kind kind s (removeThose library paths s).2 := by
  induction paths with
  | nil => exact fun h => Grows.refl h
  | cons path rest ih =>
    intro s h
    have hremoved : Grows kind kind s (library.removeFile path s).2 := h.removeFile path
    unfold removeThose
    split
    · rcases hr : library.removeFile path s with ⟨e | _, t⟩
      · rw [hr] at hremoved
        exact hremoved
      · rw [hr] at hremoved
        exact hremoved.trans (ih hremoved.numbered)
    · exact ih h

/-- a database that is dropped takes no number along -/
theorem dropDatabase_numbers [Reporting W] (h : q.1.engine.Numbered kind) (p : Provider) (name : String) :
    Grows kind kind q.1.engine (p.dropDatabase library name q).2.1.engine := by
  unfold dropDatabase
  cases p.shelf with
  | directory dir =>
    have hremoved : Grows kind kind q.1.engine (library.removeFile (Text.Path.join dir name) q.1.engine).2 :=
      h.removeFile _
    dsimp only [removeDatabase]
    split
    · rcases hr : library.removeFile (Text.Path.join dir name) q.1.engine with ⟨e | _, t⟩
      · rw [hr] at hremoved
        exact hremoved
      · rw [hr] at hremoved
        have hall := hremoved.trans
          (removeThose_numbers (sidecarEndings.map fun e => Text.Path.join dir (name ++ e)) hremoved.numbered)
        dsimp only
        rcases hrest : removeThose library (sidecarEndings.map fun e => Text.Path.join dir (name ++ e)) t with ⟨e | _, u⟩
        · rw [hrest] at hall
          exact hall
        · rw [hrest] at hall
          exact hall
    · exact Grows.refl h
  | memory number =>
    dsimp only [letGo]
    split
    · exact Grows.refl h
    · next c _ => exact h.disconnect c

end Embedded.Provider

end FluentSql
