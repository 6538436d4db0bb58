import FluentSql.Storage.Basic
/-!
What is in a tree of files, and which databases have which numbers. What is at a path after something was put or
erased is read off two lemmas (`Files.find?_put`, `Files.find?_erase`). Making directories, erasing files and putting
a database back in its place give no file a number that it did not have (`Files.Fewer`).
-/

namespace FluentSql.Storage

namespace Files

variable {fs gs hs : Files} {p q : Path}

/-! ## Looking up -/

theorem lookup_append (p : Path) (l m : List (Path × Node)) :
    lookup p (l ++ m) = (lookup p l).or (lookup p m) := by
  induction l with
  | nil => rfl
  | cons e rest ih =>
    simp only [List.cons_append, lookup]
    split
    · rfl
    · exact ih

theorem lookup_without (p q : Path) (l : List (Path × Node)) :
    lookup q (l.filter fun e => e.1 != p) = if q = p then none else lookup q l := by
  induction l with
  | nil => simp [lookup]
  | cons e rest ih =>
    by_cases he : e.1 = p
    · rw [List.filter_cons_of_neg (by simp [he]), ih]
      by_cases hq : q = p
      · simp [hq]
      · have hne : e.1 ≠ q := fun h => hq (h.symm.trans he)
        simp [hq, lookup, hne]
    · rw [List.filter_cons_of_pos (by simpa using he)]
      simp only [lookup, ih]
      by_cases hq : e.1 = q
      · have hne : q ≠ p := fun h => he (hq.trans h)
        simp [hq, hne]
      · simp [hq]

theorem find?_put (fs : Files) (p q : Path) (n : Node) :
    (fs.put p n).find? q = if q = p ∧ q ≠ [] then some n else fs.find? q := by
  unfold find? put
  by_cases hq : q = []
  · simp [hq]
  · simp only [hq, if_false, ne_eq, not_false_eq_true, and_true, lookup_append, lookup_without]
    by_cases hqp : q = p
    · simp [hqp, lookup]
    · have hpq : p ≠ q := fun h => hqp h.symm
      simp [hqp, lookup, hpq]

theorem find?_erase (fs : Files) (p q : Path) :
    (fs.erase p).find? q = if q = p ∧ q ≠ [] then none else fs.find? q := by
  unfold find? erase
  by_cases hq : q = []
  · simp [hq]
  · simp only [hq, if_false, ne_eq, not_false_eq_true, and_true, lookup_without]

/-! ## Numbers -/

/-- the number of the database that the file at a path holds or held -/
def numberAt (fs : Files) (p : Path) : Option Nat := (fs.find? p).bind Node.number?

/-- the files that have numbers had them before -/
def Fewer (fs gs : Files) : Prop := ∀ p n, gs.numberAt p = some n → fs.numberAt p = some n

theorem Fewer.refl (fs : Files) : fs.Fewer fs := fun _ _ h => h

theorem Fewer.trans (first : fs.Fewer gs) (second : gs.Fewer hs) : fs.Fewer hs := fun p n h =>
  first p n (second p n h)

theorem erase_fewer (fs : Files) (p : Path) : fs.Fewer (fs.erase p) := by
  intro q n h
  unfold numberAt at h ⊢
  rw [find?_erase] at h
  split at h
  · cases h
  · exact h

/-- something with the number that was there, or with none -/
theorem put_fewer {node : Node} (h : ∀ n, node.number? = some n → fs.numberAt p = some n) : fs.Fewer (fs.put p node) := by
  intro q n hq
  unfold numberAt at hq ⊢
  rw [find?_put] at hq
  split at hq
  · rename_i hp
    exact hp.1 ▸ h n hq
  · exact hq

/-! ## Directories that are made -/

theorem makeOne_fewer {names : List String} (h : fs.makeOne names = .ok gs) : fs.Fewer gs := by
  unfold makeOne at h
  cases habove : fs.walk [] names.dropLast with
  | error e =>
    rw [habove] at h
    cases h
  | ok above =>
    rw [habove] at h
    simp only [bind, Except.bind] at h
    cases hplace : fs.walk above (names.drop (names.length - 1)) with
    | error e =>
      rw [hplace] at h
      cases h
    | ok p =>
      rw [hplace] at h
      simp only at h
      split at h
      · cases h
      · cases h
        exact put_fewer fun n hn => by cases hn

/-- **What is kept whenever one directory is made is kept when it is made with all above it**, even if that fails in
between. -/
theorem makeAll_keeps {P : Files → Prop} (hone : ∀ {names fs made}, P fs → makeOne fs names = .ok made → P made)
    (names : List String) : ∀ {fs : Files}, P fs → P (fs.makeAll names).2 := by
  induction names with
  | nil => exact fun h => h
  | cons n above ih =>
    intro fs h
    unfold makeAll
    dsimp only
    cases hfirst : fs.makeOne (n :: above).reverse with
    | ok made => exact hone h hfirst
    | error e =>
      dsimp only
      split
      · have hall := ih h
        rcases hmade : fs.makeAll above with ⟨e | _, made⟩
        · rw [hmade] at hall
          exact hall
        · rw [hmade] at hall
          dsimp only
          cases hlast : made.makeOne (n :: above).reverse with
          | ok all => exact hone hall hlast
          | error e => exact hall
      · exact h

/-- making directories gives no file a number, even if it fails -/
theorem makeAll_fewer (names : List String) (fs : Files) : fs.Fewer (fs.makeAll names).2 :=
  makeAll_keeps (fun h hmade => h.trans (makeOne_fewer hmade)) names (Fewer.refl fs)

end Files

/-! ## Connections to files -/

open Engine

variable {s t : Storage} {c : Connection} {v : Vault}

theorem eraseWhere_fewer (test : String → Bool) (p : Path) (s : Storage) : s.files.Fewer (eraseWhere test p s).files := by
  unfold eraseWhere
  split
  · exact Files.erase_fewer _ _
  · exact Files.Fewer.refl _

theorem tidy_fewer (s : Storage) (c : Connection) (v : Vault) : s.files.Fewer (s.tidy c v).1.files := by
  unfold tidy
  split
  · rename_i n p _
    split
    · exact Files.Fewer.refl _
    · split
      · rename_i htext
        refine Files.put_fewer fun m hm => ?_
        cases hm
        rw [Files.numberAt, eq_of_beq htext]
        rfl
      · split
        · exact Files.Fewer.refl _
        · exact (eraseWhere_fewer _ _ _).trans (eraseWhere_fewer _ _ _)
  · exact Files.Fewer.refl _

theorem settle_fewer (c : Connection) (before after : Vault) (s : Storage) :
    s.files.Fewer (settle c before after s).files := by
  unfold settle
  split
  · rename_i n p _
    dsimp only
    split
    · refine Files.Fewer.trans ?_ (eraseWhere_fewer _ _ _)
      dsimp only
      split
      · rename_i hrestored
        refine Files.put_fewer fun m hm => ?_
        cases hm
        exact eq_of_beq (Bool.and_eq_true _ _ ▸ hrestored).2
      · exact Files.Fewer.refl _
    · exact Files.Fewer.refl _
  · exact Files.Fewer.refl _

/-! ## Databases by number -/

theorem findVault_map (number n : Nat) (v : Vault) (l : List (Nat × Vault)) :
    findVault n (l.map fun e => if e.1 = number then (number, v) else e)
      = if n = number then (findVault n l).map fun _ => v else findVault n l := by
  induction l with
  | nil => simp [findVault]
  | cons e rest ih =>
    simp only [List.map_cons, findVault, ih]
    by_cases he : e.1 = number
    · by_cases hn : n = number
      · simp [he, hn]
      · have hne : number ≠ n := fun h => hn h.symm
        simp [he, hn, hne]
    · by_cases hn : n = number
      · simp [he, hn]
      · simp [he, hn]

theorem findVault_without {number n : Nat} (hne : n ≠ number) (l : List (Nat × Vault)) :
    findVault n (l.filter fun e => e.1 != number) = findVault n l := by
  induction l with
  | nil => rfl
  | cons e rest ih =>
    rw [List.filter_cons]
    split
    · simp only [findVault, ih]
    · rename_i hgone
      have he : e.1 = number := by simpa using hgone
      have hen : ¬e.1 = n := fun h => hne (h.symm.trans he)
      simp only [findVault, hen, if_false, ih]

theorem vault?_setVault (s : Storage) (number n : Nat) (v : Vault) :
    (s.setVault number v).vault? n = if n = number then (s.vault? n).map fun _ => v else s.vault? n :=
  findVault_map number n v s.vaults

/-- what happens on a connection to a database in memory goes no further than its vault -/
theorem access_memory {α : Type} {number : Nat} (htarget : c.target = .memory number) (hv : s.vault? number = some v)
    (f : Connection → Vault → Except EngineFault α × Connection × Vault) :
    access f c s = ((f { c with condition := .sound } v).1, (f { c with condition := .sound } v).2.1,
      s.setVault number (f { c with condition := .sound } v).2.2) := by
  unfold access
  rw [htarget]
  simp only [Target.number, hv]
  simp only [tidy, settle, condition, htarget]

end FluentSql.Storage
