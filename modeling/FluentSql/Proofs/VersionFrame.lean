import FluentSql.Engine.Definition
/-!
The version of a database is written by one command only. Every other command on the data answers, if it answers, a
database with the version that it got (`Database.apply_version`): the changes of rows and tables, with all that
references bring about, go through `Database.setTable` and lists of tables.
-/

namespace FluentSql.Engine

universe u

/-- what is answered, if anything is, has a property -/
def Gives {ε α : Type u} (P : α → Prop) (x : Except ε α) : Prop := ∀ a, x = .ok a → P a

section

variable {ε α β : Type u} {P : α → Prop} {Q : β → Prop}

theorem gives_ok {a : α} (h : P a) : Gives P (.ok a : Except ε α) := fun b hb => by
  cases hb
  exact h

theorem gives_error (e : ε) : Gives P (.error e : Except ε α) := fun a h => by cases h

theorem gives_any (x : Except ε α) : Gives (fun _ => True) x := fun _ _ => trivial

theorem Gives.bind {x : Except ε α} {f : α → Except ε β} (hx : Gives P x) (hf : ∀ a, P a → Gives Q (f a)) :
    Gives Q (x >>= f) := by
  intro b hb
  cases hxa : x with
  | error e =>
    rw [hxa] at hb
    cases hb
  | ok a =>
    rw [hxa] at hb
    exact hf a (hx a hxa) b hb

theorem Gives.map {x : Except ε α} {f : α → β} (hx : Gives P x) (hf : ∀ a, P a → Q (f a)) : Gives Q (x.map f) := by
  intro b hb
  cases hxa : x with
  | error e =>
    rw [hxa] at hb
    cases hb
  | ok a =>
    rw [hxa] at hb
    cases hb
    exact hf a (hx a hxa)

/-- a test that may stop -/
theorem Gives.unless {c : Prop} [Decidable c] {e : ε} {k : PUnit → Except ε α} (hk : Gives P (k ⟨⟩)) :
    Gives P (if c then throw e >>= k else k ⟨⟩) := by
  split
  · exact gives_error e
  · exact hk

/-- what every step keeps, all steps in a row keep -/
theorem Gives.foldlM {γ : Type u} {f : α → γ → Except ε α} (hf : ∀ a c, P a → Gives P (f a c)) (l : List γ) :
    ∀ {a : α}, P a → Gives P (l.foldlM f a) := by
  induction l with
  | nil => exact fun ha => gives_ok ha
  | cons c rest ih =>
    intro a ha
    rw [List.foldlM_cons]
    exact (hf a c ha).bind fun b hb => ih hb

end

/-! ## Rows and references -/

variable {version : Int}

/-- a draft of a database with a version -/
def Draft.Has (version : Int) (d : Draft) : Prop := d.db.version = version

/-- reactions that keep the version -/
def Database.Reactions.Keep (version : Int) (r : Database.Reactions) : Prop :=
  ∀ places t row new? d, Draft.Has version d → Gives (Draft.Has version) (r places t row new? d)

namespace Draft

variable {d : Draft}

theorem Has.setTable (h : d.Has version) (t : StoredTable) : Draft.Has version { d with db := d.db.setTable t } := h

theorem Has.withoutRow (h : d.Has version) (t : StoredTable) (id : Int64) :
    Draft.Has version { d with db := Database.withoutRow d.db t id } := h

theorem Has.count (h : d.Has version) (k : ForeignKey) (n : Int) : (d.count k n).Has version := by
  unfold Draft.count
  split
  · exact h
  · exact h

theorem Has.countOwn (h : d.Has version) (child : StoredTable) (row : Row) (n : Int) (k : ForeignKey) :
    (countOwn child row n d k).Has version := by
  unfold Draft.countOwn
  split
  · split
    · exact h.count k n
    · exact h
  · split
    · exact h
    · repeat' split
      all_goals first | exact h | exact h.count k n

theorem Has.countOthers (h : d.Has version) (seen : Database) (parent : StoredTable) (row : Row) (n : Int)
    (e : StoredTable × ForeignKey) : (countOthers seen parent row n d e).Has version := by
  unfold Draft.countOthers
  dsimp only
  split
  · exact h
  · split
    · exact h
    · exact h.count _ _

theorem Has.foldl {α : Type} {f : Draft → α → Draft} (hf : ∀ d a, d.Has version → (f d a).Has version)
    (l : List α) : ∀ {d : Draft}, d.Has version → (l.foldl f d).Has version := by
  induction l with
  | nil => exact fun h => h
  | cons a rest ih => exact fun h => ih (hf _ a h)

theorem Has.countLeaving (h : d.Has version) (t : StoredTable) (row : Row) (places : Option Places) :
    (d.countLeaving t row places).Has version := by
  unfold Draft.countLeaving
  exact Has.foldl (fun _ e hd => hd.countOthers _ _ _ _ e) _ (Has.foldl (fun _ k hd => hd.countOwn _ _ _ k) _ h)

theorem Has.countComing (h : d.Has version) (t : StoredTable) (row : Row) (places : Option Places)
    (seen : Database) : (d.countComing t row places seen).Has version := by
  unfold Draft.countComing
  exact Has.foldl (fun _ e hd => hd.countOthers _ _ _ _ e) _ (Has.foldl (fun _ k hd => hd.countOwn _ _ _ k) _ h)

theorem Has.finish (h : d.Has version) : Gives (fun db => db.version = version) d.finish := by
  unfold Draft.finish
  split
  · exact gives_error _
  · exact gives_ok h

end Draft

namespace Database

theorem setSequence_version (db : Database) (name : String) (id : Int64) :
    (db.setSequence name id).version = db.version := by
  unfold setSequence
  split
  · rfl
  · rfl

theorem dropSequence_version (db : Database) (name : String) : (db.dropSequence name).version = db.version := by
  unfold dropSequence
  split
  · rfl
  · rfl

/-! ## Inserts -/

theorem insertOne_version {d : Draft} (h : d.Has version) (lone : Bool) (table : String) (cells : List Value) :
    Gives (fun r => Draft.Has version r.1) (insertOne lone d table cells) := by
  unfold insertOne
  refine (gives_any _).bind fun found _ => ?_
  have hcoming := h.countComing found.1 found.2 none d.db
  have hnoted : ∀ db : Database, db.version = version →
      Draft.Has version { d.countComing found.1 found.2 none d.db with db := db } := fun _ hdb => hdb
  refine Gives.unless (gives_ok (hnoted _ ?_))
  split
  · rw [setSequence_version]
    exact hcoming
  · exact hcoming

theorem insertRows_version {d : Draft} (h : d.Has version) (table : String) (rows : List (List Value)) :
    Gives (fun r => Draft.Has version r.1) (insertRows d table rows) := by
  unfold insertRows
  refine Gives.foldlM (fun r cells hr => ?_) rows h
  exact (insertOne_version hr _ table cells).bind fun made hmade => gives_ok hmade

theorem insert_version (db : Database) (args : List Value) (table : String) (columns : Option (List String))
    (rows : NewRows) : Gives (fun w => w.db.version = db.version) (db.insert args table columns rows) := by
  unfold Database.insert
  refine (gives_any _).bind fun t _ => (gives_any _).bind fun cells _ => (gives_any _).bind fun _ _ => ?_
  have hstart : Draft.Has db.version ⟨db, 0⟩ := rfl
  refine (insertRows_version hstart table cells).bind fun r hr => ?_
  exact hr.finish.bind fun finished hfinished => gives_ok hfinished

/-! ## Updates and deletes -/

section

variable {reactions : Reactions} (hreactions : reactions.Keep version)

include hreactions

theorem eraseRow_version {d : Draft} (h : d.Has version) (concern : Concern) (t : StoredTable) (row : Row) :
    Gives (Draft.Has version) (eraseRow reactions concern t row d) := by
  unfold eraseRow
  split
  · exact gives_ok h
  · exact hreactions _ _ _ _ _ ((h.countLeaving t row none).withoutRow t row.id)

theorem assignRow_version {d : Draft} (h : d.Has version) (concern : Concern) (args : List Value)
    (sets : List (Target × Term)) (t : StoredTable) (row : Row) :
    Gives (Draft.Has version) (assignRow reactions concern args sets t row d) := by
  unfold assignRow
  refine (gives_any _).bind fun changed _ => (gives_any _).bind fun _ _ => ?_
  dsimp only
  split
  · exact gives_ok h
  · have hgone := (h.countLeaving t row (Edit.places t (.assign sets))).withoutRow t row.id
    exact hreactions _ _ _ _ _ ((hgone.countComing t changed _ _).setTable _)

theorem editRows_version {d : Draft} (h : d.Has version) (args : List Value) (table : String) (edit : Edit)
    (ids : List Int64) : Gives (fun r => Draft.Has version r.1) (editRows reactions args table edit ids d) := by
  unfold editRows
  refine (gives_any _).bind fun start _ => ?_
  refine Gives.foldlM (P := fun r : Draft × Nat => r.1.Has version) (fun r id hr => ?_) ids h
  refine (gives_any _).bind fun t _ => ?_
  split
  · exact gives_ok hr
  · rename_i row _
    cases edit with
    | erase => exact (eraseRow_version hreactions hr _ t row).bind fun next hnext => gives_ok hnext
    | assign sets => exact (assignRow_version hreactions hr _ args sets t row).bind fun next hnext => gives_ok hnext

theorem reactOne_version {d : Draft} (h : d.Has version) (t : StoredTable) (old : Row) (new? : Option Row)
    (e : StoredTable × ForeignKey) : Gives (Draft.Has version) (reactOne reactions t old new? d e) := by
  unfold reactOne
  generalize (if new?.isSome = true then e.2.onUpdate else e.2.onDelete) = how
  dsimp only
  split
  · exact gives_ok h
  · split
    · exact gives_ok h
    · split
      · split
        · exact gives_ok h
        · exact gives_error _
      · exact (editRows_version hreactions h [] _ _ _).map fun r hr => hr

end

/-- reactions of every depth keep the version -/
theorem react_keep (depth : Nat) : (react depth).Keep version := by
  induction depth with
  | zero =>
    intro places t row new? d h
    unfold react
    dsimp only
    generalize List.isEmpty _ = calm
    cases calm with
    | true => exact gives_ok h
    | false => exact gives_error _
  | succ n ih =>
    intro places t row new? d h
    unfold react
    exact Gives.foldlM (fun d e hd => reactOne_version ih hd t row new? e) _ h

theorem updateRows_version (db : Database) (args : List Value) (table : String) (assignments : List (String × Expr))
    (condition : Option Expr) (most : Option Nat) :
    Gives (fun r => Draft.Has db.version r.1) (updateRows db args table assignments condition most) := by
  unfold updateRows
  refine (gives_any _).bind fun t _ => (gives_any _).bind fun sets _ => (gives_any _).bind fun where? _ => ?_
  refine (gives_any _).bind fun _ _ => ?_
  have hstart : Draft.Has db.version ⟨db, 0⟩ := rfl
  exact editRows_version (react_keep mostReactions) hstart args table _ _

theorem update_version (db : Database) (args : List Value) (table : String) (assignments : List (String × Expr))
    (condition : Option Expr) :
    Gives (fun w => w.db.version = db.version) (db.update args table assignments condition) := by
  unfold Database.update
  refine (updateRows_version db args table assignments condition none).bind fun r hr => ?_
  exact hr.finish.bind fun finished hfinished => gives_ok hfinished

theorem eraseRows_version (db : Database) (t : StoredTable) (rows : List Row) :
    Gives (fun r => Draft.Has db.version r.1) (eraseRows db t rows) := by
  unfold eraseRows
  split
  · exact gives_ok rfl
  · have hstart : Draft.Has db.version ⟨db, 0⟩ := rfl
    exact editRows_version (react_keep mostReactions) hstart [] t.name .erase _

theorem delete_version (db : Database) (args : List Value) (table : String) (condition : Option Expr) :
    Gives (fun w => w.db.version = db.version) (db.delete args table condition) := by
  unfold Database.delete
  refine (gives_any _).bind fun t _ => (gives_any _).bind fun where? _ => (gives_any _).bind fun _ _ => ?_
  refine (eraseRows_version db t _).bind fun r hr => ?_
  exact hr.finish.bind fun finished hfinished => gives_ok hfinished

/-! ## Definitions -/

theorem createTable_version (db : Database) (ifMissing : Bool) (source : TableSource) :
    Gives (fun made => made.version = db.version) (db.createTable ifMissing source) := by
  unfold createTable
  refine Gives.unless ?_
  split
  · split
    · exact gives_ok rfl
    · exact gives_error _
  · refine (gives_any _).bind fun t _ => ?_
    dsimp only
    split
    · exact gives_ok rfl
    · exact gives_ok rfl

theorem emptyForDrop_version (db : Database) (t : StoredTable) :
    Gives (fun made => made.version = db.version) (db.emptyForDrop t) := by
  unfold emptyForDrop
  dsimp only
  split
  · refine (gives_any _).bind fun _ _ => (eraseRows_version db t t.rows).bind fun r hr => ?_
    exact hr.finish
  · exact gives_ok rfl

theorem dropTable_version (db : Database) (ifThere : Bool) (name : String) :
    Gives (fun made => made.version = db.version) (db.dropTable ifThere name) := by
  unfold dropTable
  split
  · split
    · exact gives_ok rfl
    · split
      · exact gives_error _
      · exact gives_error _
  · rename_i t _
    split
    · exact gives_error _
    · refine (emptyForDrop_version db t).bind fun emptied hemptied => gives_ok ?_
      split
      · rw [dropSequence_version]
        exact hemptied
      · exact hemptied

theorem addColumn_version (db : Database) (table : String) (c : ColumnSource) (text : String) :
    Gives (fun made => made.version = db.version) (db.addColumn table c text) := by
  unfold addColumn
  refine (gives_any _).bind fun t _ => Gives.unless ((gives_any _).bind fun column _ => ?_)
  refine (gives_any _).bind fun _ _ => Gives.unless ((gives_any _).bind fun references _ => ?_)
  refine Gives.unless (Gives.unless ((gives_any _).bind fun checks _ => ?_))
  exact (gives_any _).bind fun _ _ => gives_ok rfl

end Database

/-! ## Commands -/

/-- whether a command writes the version -/
def DataCommand.isVersionWrite : DataCommand → Bool
  | writeVersion _ => true
  | _ => false

/-- **Only one command changes the version of a database.** -/
theorem Database.apply_version (db : Database) (args : List Value) {cmd : DataCommand}
    (hcmd : cmd.isVersionWrite = false) : Gives (fun reply => reply.db.version = db.version) (db.apply args cmd) := by
  cases cmd with
  | read r => exact (gives_any _).map fun _ _ => rfl
  | insert t columns rows => exact (insert_version db args t columns rows).map fun _ h => h
  | update t sets condition => exact (update_version db args t sets condition).map fun _ h => h
  | delete t condition => exact (delete_version db args t condition).map fun _ h => h
  | createTable ifMissing source => exact (createTable_version db ifMissing source).map fun _ h => h
  | dropTable ifThere t => exact (dropTable_version db ifThere t).map fun _ h => h
  | addColumn t c text => exact (addColumn_version db t c text).map fun _ h => h
  | readVersion => exact gives_ok rfl
  | writeVersion n => cases hcmd

end FluentSql.Engine
