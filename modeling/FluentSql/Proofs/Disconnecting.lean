import FluentSql.Proofs.Bystanders
import FluentSql.Proofs.FileTree
import Mathlib.Data.List.Basic
import Mathlib.Data.List.Nodup
/-!
Connections that end in either order. Ending a connection makes it leave its vault and, where the cache is shared, the
vault lose a holder (`disconnect_eq`). Two connections of different vaults never meet. Two of the same vault may end in
either order, too, if they share it in the same way and no connection is noted twice in it (`Severable`): whoever
leaves last is the one after whom nobody waits, and the one after whom a shared database is gone
(`disconnect_comm`).
-/

namespace FluentSql.Engine.Vault

variable {v : Vault} {a c : Nat}

/-! ## Leaving a vault -/

theorem isWriter_leave (hne : c ≠ a) (sharing : Sharing) : (v.leave sharing a).isWriter c = v.isWriter c := by
  unfold isWriter leave
  cases hw : v.writer with
  | none => simp
  | some w =>
    by_cases hwa : w.id = a
    · have hac : (a == c) = false := beq_eq_false_iff_ne.2 (Ne.symm hne)
      simp [isWriter, hw, hwa, hac]
    · simp [isWriter, hw, hwa]

theorem isActive_leave (hne : c ≠ a) (sharing : Sharing) : (v.leave sharing a).isActive c = v.isActive c := by
  unfold isActive leave
  rw [List.any_filter]
  congr 1
  funext h
  by_cases hc : h.owner = c
  · simp [hc, hne]
  · simp [hc]

/-- of the connections that are noted, all but one -/
theorem length_without {holds : List Hold} (hnodup : (holds.map Hold.owner).Nodup) (a : Nat) :
    (holds.filter fun h => h.owner != a).length + (holds.any fun h => h.owner == a).toNat = holds.length := by
  induction holds with
  | nil => rfl
  | cons h rest ih =>
    obtain ⟨hnot, hrest⟩ := List.nodup_cons.1 hnodup
    have hlater := ih hrest
    by_cases ha : h.owner = a
    · have hnone : (rest.any fun x => x.owner == a) = false := by
        rw [List.any_eq_false]
        intro x hx heq
        exact hnot (List.mem_map.2 ⟨x, hx, (beq_iff_eq.1 heq).trans ha.symm⟩)
      rw [hnone] at hlater
      simpa [ha] using hlater
    · simp only [List.filter_cons, List.any_cons, bne_iff_ne.2 ha, beq_eq_false_iff_ne.2 ha, Bool.false_or, if_true,
        List.length_cons]
      omega

/-- whether nobody waits after a connection has left -/
def isLast (v : Vault) (sharing : Sharing) (id : Nat) : Bool :=
  sharing = .cache && v.isActive id && v.holds.length = 2

/-- whoever leaves first, it is the second one after whom nobody waits -/
theorem isLast_comm (hnodup : v.Single) (hne : a ≠ c) (sharing : Sharing) :
    (v.isLast sharing a || (v.leave sharing a).isLast sharing c) =
      (v.isLast sharing c || (v.leave sharing c).isLast sharing a) := by
  have hlengthA : (v.leave sharing a).holds.length + (v.isActive a).toNat = v.holds.length := length_without hnodup a
  have hlengthC : (v.leave sharing c).holds.length + (v.isActive c).toNat = v.holds.length := length_without hnodup c
  simp only [isLast, isActive_leave hne, isActive_leave hne.symm]
  cases hA : v.isActive a with
  | false => simp_all
  | true =>
    cases hC : v.isActive c with
    | false => simp_all
    | true =>
      have hsame : (v.leave sharing a).holds.length = (v.leave sharing c).holds.length := by
        simp only [hA, hC] at hlengthA hlengthC
        omega
      rw [hsame]

/-- **Two connections leave a vault in either order.** -/
theorem leave_comm (hnodup : v.Single) (hne : a ≠ c) (sharing : Sharing) :
    (v.leave sharing a).leave sharing c = (v.leave sharing c).leave sharing a := by
  have hleave : ∀ (u : Vault) id, u.leave sharing id = { u with
      writer := if u.isWriter id then none else u.writer
      holds := u.holds.filter fun h => h.owner != id
      waiting := u.waiting && !u.isWriter id && !u.isLast sharing id } := fun _ _ => rfl
  have hlast := isLast_comm hnodup hne sharing
  rw [hleave (v.leave sharing a), hleave (v.leave sharing c), isWriter_leave hne, isWriter_leave hne.symm]
  generalize (v.leave sharing a).isLast sharing c = lastC at hlast ⊢
  generalize (v.leave sharing c).isLast sharing a = lastA at hlast ⊢
  have hwriter : (if v.isWriter c then none else if v.isWriter a then none else v.writer) =
      if v.isWriter a then none else if v.isWriter c then none else v.writer := by
    cases v.isWriter a <;> cases v.isWriter c <;> rfl
  have hwaiting : ∀ waits wa wc la lc la' lc' : Bool, (la || lc') = (lc || la') →
      (waits && !wa && !la && !wc && !lc') = (waits && !wc && !lc && !wa && !la') := by decide
  rw [hleave v a, hleave v c]
  simp only [Vault.mk.injEq, true_and, and_true]
  exact ⟨hwriter, by simp only [List.filter_filter, Bool.and_comm], hwaiting _ _ _ _ _ _ _ hlast⟩

end FluentSql.Engine.Vault

namespace FluentSql.Storage

open Engine

variable {s : Storage} {a c : Connection}

/-! ## Holders -/

/-- an entry of a shared database with one holder less, or gone with the last one -/
def thin (e : SharedEntry) (l : List SharedEntry) : List SharedEntry :=
  if e.holders ≤ 1 then l.filter fun x => x.vault != e.vault
  else l.map fun x => if x.vault = e.vault then { x with holders := e.holders - 1 } else x

/-- the entry of a vault -/
def entry? (l : List SharedEntry) (n : Nat) : Option SharedEntry := l.find? fun e => e.vault == n

theorem entry?_vault {l : List SharedEntry} {n : Nat} {e : SharedEntry} (h : entry? l n = some e) : e.vault = n := by
  simpa using List.find?_some h

/-- what becomes of the databases when one holder is gone -/
theorem dropHolder_eq (s : Storage) (n : Nat) : s.dropHolder n = match entry? s.shared n with
    | none => s
    | some e => { s with
        shared := thin e s.shared
        vaults := if e.holders ≤ 1 then s.vaults.filter fun x => x.1 != n else s.vaults } := by
  unfold dropHolder entry?
  cases h : s.shared.find? fun e => e.vault == n with
  | none => rfl
  | some e =>
    have hn : e.vault = n := entry?_vault h
    subst hn
    dsimp only [thin]
    split
    · rfl
    · rfl

theorem entry?_thin {l : List SharedEntry} {n : Nat} {e : SharedEntry} (hne : n ≠ e.vault) :
    entry? (thin e l) n = entry? l n := by
  unfold entry? thin
  split
  · rw [List.find?_filter]
    congr 1
    funext x
    by_cases hx : x.vault = n
    · simp [hx, hne]
    · simp [hx]
  · rw [List.find?_map]
    have htest : ((fun x : SharedEntry => x.vault == n) ∘ fun x =>
        if x.vault = e.vault then { x with holders := e.holders - 1 } else x) = fun x => x.vault == n := by
      funext x
      by_cases hx : x.vault = e.vault
      · simp [hx]
      · simp [hx]
    rw [htest]
    cases h : l.find? fun x => x.vault == n with
    | none => rfl
    | some x =>
      have hx : x.vault ≠ e.vault := fun heq => hne ((entry?_vault h).symm.trans heq)
      simp [hx]

theorem thin_comm {e f : SharedEntry} (hne : e.vault ≠ f.vault) (l : List SharedEntry) :
    thin e (thin f l) = thin f (thin e l) := by
  have hkeep : ∀ (g : SharedEntry) (m : Nat) (x : SharedEntry),
      ((if x.vault = g.vault then { x with holders := g.holders - 1 } else x).vault != m) = (x.vault != m) := by
    intro g m x
    by_cases hx : x.vault = g.vault
    · simp [hx]
    · simp [hx]
  unfold thin
  split <;> split
  · simp only [List.filter_filter, Bool.and_comm]
  · rw [List.filter_map]
    simp only [Function.comp_def, hkeep]
  · rw [List.filter_map]
    simp only [Function.comp_def, hkeep]
  · simp only [List.map_map]
    refine List.map_congr_left fun x _ => ?_
    by_cases hx : x.vault = e.vault
    · simp [hx, hne]
    · by_cases hy : x.vault = f.vault
      · simp [hy, Ne.symm hne]
      · simp [hx, hy]

/-- **Two databases lose a holder in either order.** -/
theorem dropHolder_comm (s : Storage) (n m : Nat) : (s.dropHolder n).dropHolder m = (s.dropHolder m).dropHolder n := by
  by_cases hnm : n = m
  · rw [hnm]
  · simp only [dropHolder_eq]
    cases hn : entry? s.shared n with
    | none =>
      cases hm : entry? s.shared m with
      | none => simp only [hn]
      | some f =>
        have hthin : entry? (thin f s.shared) n = none := by
          rw [entry?_thin fun heq => hnm (heq.trans (entry?_vault hm)), hn]
        simp only [hthin]
    | some e =>
      have hne : m ≠ e.vault := fun heq => hnm (heq.trans (entry?_vault hn)).symm
      have hthin := entry?_thin (l := s.shared) hne
      cases hm : entry? s.shared m with
      | none => simp only [hn, hm, hthin]
      | some f =>
        have hmf : n ≠ f.vault := fun heq => hnm (heq.trans (entry?_vault hm))
        have hef : e.vault ≠ f.vault := entry?_vault hn ▸ hmf
        simp only [hn, hm, hthin, entry?_thin hmf, thin_comm hef]
        congr 1
        split <;> split <;> simp only [List.filter_filter, Bool.and_comm]

/-- a vault is replaced, or a holder is lost, in either order -/
theorem dropHolder_setVault (s : Storage) (n m : Nat) (v : Vault) :
    (s.setVault n v).dropHolder m = (s.dropHolder m).setVault n v := by
  simp only [dropHolder_eq, setVault]
  cases entry? s.shared m with
  | none => rfl
  | some e =>
    dsimp only
    split
    · simp only [List.filter_map]
      congr 3
      funext x
      by_cases hx : x.1 = n
      · simp [hx]
      · simp [hx]
    · rfl

/-! ## Files -/

/-- the files without the one at a path -/
def withoutFile (fs : Files) (p : Path) : Files := if fs.isFile p then fs.erase p else fs

/-- whatever is in a file, it can be erased -/
theorem eraseWhere_any (p : Path) (s : Storage) :
    eraseWhere (fun _ => true) p s = { s with files := withoutFile s.files p } := by
  have htest : ((s.files.find? p).bind s.contents?).any (fun _ => true) = s.files.isFile p := by
    unfold Files.isFile
    cases s.files.find? p with
    | none => rfl
    | some node => cases node <;> rfl
  unfold eraseWhere withoutFile
  rw [htest]
  split
  · rfl
  · rfl

/-- two files are erased in either order -/
theorem withoutFile_comm (fs : Files) (p q : Path) :
    withoutFile (withoutFile fs p) q = withoutFile (withoutFile fs q) p := by
  by_cases hpq : p = q
  · rw [hpq]
  · have hp : (fs.erase q).isFile p = fs.isFile p := by
      unfold Files.isFile
      rw [Files.find?_erase, if_neg fun h => hpq h.1]
    have hq : (fs.erase p).isFile q = fs.isFile q := by
      unfold Files.isFile
      rw [Files.find?_erase, if_neg fun h => hpq h.1.symm]
    have herase : (fs.erase p).erase q = (fs.erase q).erase p := by
      simp only [Files.erase, List.filter_filter, Bool.and_comm]
    unfold withoutFile
    by_cases hfp : fs.isFile p
    · by_cases hfq : fs.isFile q
      · simp only [hfp, hfq, if_true, hp, hq, herase]
      · simp only [hfp, hfq, if_true, if_false, hq, Bool.false_eq_true]
    · by_cases hfq : fs.isFile q
      · simp only [hfp, hfq, if_true, if_false, hp, Bool.false_eq_true]
      · simp only [hfp, hfq, if_false, Bool.false_eq_true]

/-- what the end of a connection leaves of the files: no journal, if it held changes -/
def wiped (c : Connection) (v : Vault) (fs : Files) : Files :=
  match c.target with
  | .memory _ => fs
  | .file _ p =>
    if v.isChanging && v.isWriter c.id then withoutFile fs (Path.beside p journalEnding) else fs

theorem wiped_comm (c d : Connection) (u v : Vault) (fs : Files) : wiped d u (wiped c v fs) = wiped c v (wiped d u fs) := by
  unfold wiped
  cases c.target with
  | memory _ => rfl
  | file _ p =>
    cases d.target with
    | memory _ => rfl
    | file _ q =>
      dsimp only
      split <;> split
      · exact withoutFile_comm fs _ _
      · rfl
      · rfl
      · rfl

theorem isChanging_leave (v : Vault) (sharing : Sharing) (id : Nat) :
    (v.leave sharing id).isChanging = (v.isChanging && !v.isWriter id) := by
  unfold Vault.isChanging Vault.leave Vault.isWriter
  cases v.writer with
  | none => rfl
  | some w => by_cases hw : w.id = id <;> simp [hw]

theorem wiped_leave {c : Connection} {id : Nat} (hne : c.id ≠ id) (v : Vault) (sharing : Sharing) (fs : Files) :
    wiped c (v.leave sharing id) fs = wiped c v fs := by
  have honly : (v.isWriter id && v.isWriter c.id) = false := by
    unfold Vault.isWriter
    cases v.writer with
    | none => rfl
    | some w =>
      by_cases hw : w.id = id
      · simp [hw, Ne.symm hne]
      · simp [hw]
  have htest : (v.isChanging && !v.isWriter id && v.isWriter c.id) = (v.isChanging && v.isWriter c.id) := by
    revert honly
    cases v.isWriter id <;> cases v.isWriter c.id <;> simp
  unfold wiped
  rw [isChanging_leave, Vault.isWriter_leave hne, htest]

theorem settle_rollback (c : Connection) (v : Vault) (s : Storage) :
    settle c v (c.rollback v).2 s = { s with files := wiped c v s.files } := by
  have hafter : (c.rollback v).2.isChanging = (v.isChanging && !v.isWriter c.id) := isChanging_leave v c.sharing c.id
  have hcommits : (c.rollback v).2.commits = v.commits := rfl
  unfold settle wiped
  cases c.target with
  | memory _ => rfl
  | file n p =>
    simp only [hafter, hcommits, bne_self_eq_false, Bool.false_or, Bool.false_and, Bool.false_eq_true, if_false,
      eraseWhere_any]
    cases v.isChanging <;> cases v.isWriter c.id <;> rfl

/-! ## The end of a connection -/

/-- the vault of a connection after it has left -/
def left (c : Connection) (s : Storage) : Storage :=
  match s.vault? c.target.number with
  | some v => { s.setVault c.target.number (v.leave c.sharing c.id) with files := wiped c v s.files }
  | none => s

/-- one holder less where the cache is shared -/
def lessened (c : Connection) (s : Storage) : Storage := if c.sharing = .cache then s.dropHolder c.target.number else s

theorem disconnect_eq (c : Connection) (s : Storage) : s.disconnect c = lessened c (left c s) := by
  have hleft : left c s = match s.vault? c.target.number with
      | some v => (settle c v (c.rollback v).2 s).setVault c.target.number (c.rollback v).2
      | none => s := by
    unfold left
    simp only [settle_rollback]
    rfl
  rw [hleft]
  rfl

/-- a vault in memory -/
def isMemory : Target → Bool
  | .memory _ => true
  | .file _ _ => false

/-- two connections that share a vault in the same way, which keeps what each of them holds under its own number -/
structure Severable (s : Storage) (a c : Connection) : Prop where
  ids : a.id ≠ c.id
  sharing : a.sharing = c.sharing
  memory : a.sharing = .cache → isMemory a.target ∧ isMemory c.target
  owners : ∀ v ∈ s.vault? a.target.number, v.Single

theorem setVault_comm (s : Storage) {n m : Nat} (hne : n ≠ m) (u v : Vault) :
    (s.setVault n u).setVault m v = (s.setVault m v).setVault n u := by
  simp only [setVault, List.map_map]
  congr 1
  refine List.map_congr_left fun x _ => ?_
  by_cases hn : x.1 = n
  · simp [hn, hne]
  · by_cases hm : x.1 = m
    · simp [hm, Ne.symm hne]
    · simp [hn, hm]

theorem setVault_setVault (s : Storage) (n : Nat) (u v : Vault) : (s.setVault n u).setVault n v = s.setVault n v := by
  simp only [setVault, List.map_map]
  congr 1
  refine List.map_congr_left fun x _ => ?_
  by_cases hn : x.1 = n
  · simp [hn]
  · simp [hn]

theorem setVault_of_none {n : Nat} (h : s.vault? n = none) (v : Vault) : s.setVault n v = s := by
  obtain ⟨files, shared, vaults, next⟩ := s
  simp only [setVault, vault?] at h ⊢
  congr 1
  induction vaults with
  | nil => rfl
  | cons x rest ih =>
    unfold findVault at h
    split at h
    · cases h
    · next hx => simp [hx, ih h]

/-- a holder is lost, or a vault and the files are replaced, in either order -/
theorem lessened_setVault (c : Connection) (s : Storage) (n : Nat) (v : Vault) (files : Files) :
    lessened c { s.setVault n v with files := files } = { (lessened c s).setVault n v with files := files } := by
  have hfiles : ∀ t : Storage, ({ t with files := files } : Storage).dropHolder c.target.number =
      { t.dropHolder c.target.number with files := files } := by
    intro t
    simp only [dropHolder_eq]
    cases entry? t.shared c.target.number with
    | none => rfl
    | some e => rfl
  unfold lessened
  split
  · rw [hfiles, dropHolder_setVault]
  · rfl

theorem lessened_files (c : Connection) (s : Storage) : (lessened c s).files = s.files := by
  unfold lessened
  split
  · rw [dropHolder_eq]
    cases entry? s.shared c.target.number with
    | none => rfl
    | some e => rfl
  · rfl

theorem lessened_comm (a c : Connection) (s : Storage) : lessened c (lessened a s) = lessened a (lessened c s) := by
  unfold lessened
  split <;> split
  · exact dropHolder_comm s _ _
  · rfl
  · rfl
  · rfl

theorem findVault_gone (n : Nat) (l : List (Nat × Vault)) : findVault n (l.filter fun x => x.1 != n) = none := by
  induction l with
  | nil => rfl
  | cons x rest ih =>
    by_cases hx : x.1 = n
    · simp [hx, ih]
    · simp [findVault, hx, ih]

/-- losing a holder leaves a vault as it is, or takes it away -/
theorem vault?_lessened (c : Connection) (s : Storage) (n : Nat) :
    (lessened c s).vault? n = s.vault? n ∨
      (c.sharing = .cache ∧ c.target.number = n ∧ (lessened c s).vault? n = none) := by
  by_cases hcache : c.sharing = .cache
  · have hless : lessened c s = s.dropHolder c.target.number := if_pos hcache
    rw [hless, dropHolder_eq]
    cases entry? s.shared c.target.number with
    | none => exact .inl rfl
    | some e =>
      by_cases hn : c.target.number = n
      · by_cases hlast : e.holders ≤ 1
        · refine .inr ⟨hcache, hn, ?_⟩
          simp only [hlast, if_true, vault?, hn]
          exact findVault_gone n s.vaults
        · exact .inl (by simp only [hlast, if_false, vault?])
      · refine .inl ?_
        simp only [vault?]
        split
        · exact findVault_without (Ne.symm hn) s.vaults
        · rfl
  · exact .inl (by rw [lessened, if_neg hcache])

theorem left_of_some {v : Vault} (h : s.vault? c.target.number = some v) :
    left c s = { s.setVault c.target.number (v.leave c.sharing c.id) with files := wiped c v s.files } := by
  simp only [left, h]

theorem left_of_none (h : s.vault? c.target.number = none) : left c s = s := by
  simp only [left, h]

theorem vault?_left (c : Connection) (s : Storage) (n : Nat) :
    (left c s).vault? n = if n = c.target.number then (s.vault? n).map fun v => v.leave c.sharing c.id else s.vault? n := by
  cases h : s.vault? c.target.number with
  | none =>
    rw [left_of_none h]
    split
    · next hn => simp [hn, h]
    · rfl
  | some v =>
    rw [left_of_some h]
    show (s.setVault c.target.number _).vault? n = _
    rw [vault?_setVault]
    split
    · next hn => simp [hn, h]
    · rfl

/-- one connection costs the database a holder, and another one leaves its vault, in either order -/
theorem lessened_left (hmemory : a.target.number = c.target.number → a.sharing = .cache → isMemory c.target)
    (s : Storage) : left c (lessened a s) = lessened a (left c s) := by
  cases hv : s.vault? c.target.number with
  | none =>
    have hnone : (lessened a s).vault? c.target.number = none := by
      rcases vault?_lessened a s c.target.number with hsame | ⟨-, -, hgone⟩
      · rw [hsame, hv]
      · exact hgone
    rw [left_of_none hv, left_of_none hnone]
  | some v =>
    rw [left_of_some hv, lessened_setVault]
    rcases vault?_lessened a s c.target.number with hsame | ⟨hcache, hnumber, hgone⟩
    · rw [left_of_some (hsame.trans hv), lessened_files]
    · -- the vault is gone, and what has no file leaves no journal
      have hwiped : wiped c v s.files = s.files := by
        have hmem := hmemory hnumber hcache
        unfold wiped
        cases htarget : c.target with
        | memory n => rfl
        | file n p => simp [htarget, isMemory] at hmem
      rw [left_of_none hgone, hwiped, setVault_of_none hgone, ← lessened_files a s]

/-- two connections leave their vaults in either order -/
theorem left_comm (h : a.target.number = c.target.number → Severable s a c) : left c (left a s) = left a (left c s) := by
  by_cases hnumber : a.target.number = c.target.number
  · have hs := h hnumber
    cases hv : s.vault? a.target.number with
    | none => rw [left_of_none hv, left_of_none (hnumber ▸ hv), left_of_none hv]
    | some v =>
      have hvc : s.vault? c.target.number = some v := hnumber ▸ hv
      have hafter : (left a s).vault? c.target.number = some (v.leave a.sharing a.id) := by
        rw [vault?_left, if_pos hnumber.symm, hvc]
        rfl
      have hafter' : (left c s).vault? a.target.number = some (v.leave c.sharing c.id) := by
        rw [vault?_left, if_pos hnumber, hv]
        rfl
      have hvault : (v.leave a.sharing a.id).leave c.sharing c.id = (v.leave c.sharing c.id).leave a.sharing a.id := by
        rw [hs.sharing]
        exact Vault.leave_comm (hs.owners v hv) hs.ids c.sharing
      have hfiles : wiped c (v.leave a.sharing a.id) (wiped a v s.files) =
          wiped a (v.leave c.sharing c.id) (wiped c v s.files) := by
        rw [wiped_leave hs.ids.symm, wiped_leave hs.ids, wiped_comm]
      have hvaults : ∀ x y z, (s.setVault a.target.number x).setVault c.target.number z =
          (s.setVault c.target.number y).setVault a.target.number z := fun x y z => by
        rw [hnumber, setVault_setVault, setVault_setVault]
      rw [left_of_some hafter, left_of_some hafter', left_of_some hv, left_of_some hvc, hvault]
      exact congrArg₂ (fun (t : Storage) files => { t with files := files }) (hvaults _ _ _) hfiles
  · have hafter : (left a s).vault? c.target.number = s.vault? c.target.number := by
      rw [vault?_left, if_neg (Ne.symm hnumber)]
    have hafter' : (left c s).vault? a.target.number = s.vault? a.target.number := by
      rw [vault?_left, if_neg hnumber]
    cases hv : s.vault? a.target.number with
    | none => rw [left_of_none hv, left_of_none (hafter'.trans hv)]
    | some v =>
      cases hvc : s.vault? c.target.number with
      | none => rw [left_of_none hvc, left_of_none (hafter.trans hvc)]
      | some u =>
        rw [left_of_some (hafter.trans hvc), left_of_some (hafter'.trans hv), left_of_some hv, left_of_some hvc]
        exact congrArg₂ (fun (t : Storage) files => { t with files := files }) (setVault_comm s hnumber _ _)
          (wiped_comm a c u v s.files)

/-- **Two connections end in either order.** -/
theorem disconnect_comm (h : a.target.number = c.target.number → Severable s a c) :
    (s.disconnect a).disconnect c = (s.disconnect c).disconnect a := by
  have hmemory : a.target.number = c.target.number → a.sharing = .cache → isMemory c.target :=
    fun hnumber hcache => ((h hnumber).memory hcache).2
  have hmemory' : c.target.number = a.target.number → c.sharing = .cache → isMemory a.target :=
    fun hnumber hcache => ((h hnumber.symm).memory ((h hnumber.symm).sharing.trans hcache)).1
  simp only [disconnect_eq]
  calc lessened c (left c (lessened a (left a s)))
      = lessened c (lessened a (left c (left a s))) := by rw [lessened_left hmemory]
    _ = lessened a (lessened c (left a (left c s))) := by rw [lessened_comm, left_comm h]
    _ = lessened a (left a (lessened c (left c s))) := by rw [lessened_left hmemory']

end FluentSql.Storage
