import FluentSql.Proofs.ColumnHistory
import FluentSql.Proofs.SessionStack
import FluentSql.Session.Tables
/-!
A table definition after any sequence of calls, read off the sequence alone.

Calls are entries and builds (`Step`). An entry brings a text along, a column the one that it was frozen to or else the
one that it has at this moment (`Entry.text`), and the blank ones are dropped (`kept`). The statement is that of the
entries before the first build (`createText`), while the definitions go on growing.

Main result: `builds_snapshot`. All builds answer the snapshot, and creating the table in a session executes it, on every
backend and whatever becomes of the call (`Creates`).
-/

namespace FluentSql

namespace Table

/-! ## Calls -/

/-- a call that adds a definition -/
inductive Entry where
  | column (c : Column)
  | sql (definition : String)
  | constraint (definition : String)

/-- a call on a table -/
inductive Step where
  | entry (e : Entry)
  | build

namespace Entry

def apply (t : Table) : Entry → Table
  | column c => t.column c
  | sql definition => t.define definition
  | constraint definition => t.define definition

/-- the text that an entry brings along -/
def text : Entry → String
  | column c => c.built?.getD (if c.name = "" then "" else c.layout)
  | sql definition => definition
  | constraint definition => definition

end Entry

/-- the statements that builds answer, in order, and the table in the end -/
def course : List Step → Table → List String × Table
  | [], t => ([], t)
  | .entry e :: rest, t => course rest (e.apply t)
  | .build :: rest, t => (t.build.text :: (course rest t.build).1, (course rest t.build).2)

def entries : List Step → List Entry
  | [] => []
  | .entry e :: rest => e :: entries rest
  | .build :: rest => entries rest

/-- the entries in front of the first build -/
def entriesBefore : List Step → List Entry
  | .entry e :: rest => e :: entriesBefore rest
  | _ => []

/-- how often a table is built -/
def builds : List Step → Nat
  | [] => 0
  | .entry _ :: rest => builds rest
  | .build :: rest => builds rest + 1

/-! ## The definitions of entries -/

/-- the definition that an entry adds; a blank one is none -/
def Entry.kept? (e : Entry) : Option String := if Text.blank e.text then none else some e.text

/-- the definitions of entries, in order -/
def kept (es : List Entry) : List String := es.filterMap Entry.kept?

/-- the statement for a name and definitions -/
def createText (name : String) (definitions : List String) : String :=
  "CREATE TABLE IF NOT EXISTS " ++ name ++ "( " ++ ", ".intercalate definitions ++ ");"

/-- a column brings along what its build answers -/
theorem text_column (c : Column) : (Entry.column c).text = c.build.text := by
  cases hbuilt : c.built? with
  | some t =>
    obtain ⟨hsame, htext⟩ := Column.build_of_built hbuilt
    simp [Entry.text, hbuilt, hsame, htext]
  | none =>
    by_cases hname : c.name = ""
    · obtain ⟨hsame, htext⟩ := Column.build_unnamed hbuilt hname
      simp [Entry.text, hbuilt, hname, hsame, htext]
    · simp [Entry.text, hbuilt, hname, Column.build_fresh hbuilt hname]

/-- an entry adds its text unless that is blank, and changes nothing else -/
theorem apply_eq (t : Table) (e : Entry) : e.apply t = { t with definitions := t.definitions ++ e.kept?.toList } := by
  have hdefine : e.apply t = t.define e.text := by
    cases e with
    | column c => rw [Entry.apply, Table.column, text_column]
    | sql definition => rfl
    | constraint definition => rfl
  rw [hdefine, define, Entry.kept?]
  cases Text.blank e.text with
  | true => simp
  | false => simp

theorem kept_cons (e : Entry) (es : List Entry) : kept (e :: es) = e.kept?.toList ++ kept es := by
  rw [kept, List.filterMap_cons]
  cases e.kept? <;> rfl

/-! ## Builds -/

theorem build_of_built {t : Table} {sql : String} (hbuilt : t.built? = some sql) : t.build = t ∧ t.text = sql := by
  simp [build, text, hbuilt]

theorem build_fresh {t : Table} (hfresh : t.built? = none) :
    t.build = { t with built? := some (createText t.name t.definitions) } ∧
      t.build.text = createText t.name t.definitions := by
  have hbuild : t.build = { t with built? := some (createText t.name t.definitions) } := by
    rw [build, hfresh]
    rfl
  exact ⟨hbuild, by rw [hbuild, text, Option.getD_some]⟩

/-- definitions accumulate, before and after builds -/
theorem definitions_course (steps : List Step) (t : Table) :
    (course steps t).2.definitions = t.definitions ++ kept (entries steps) ∧ (course steps t).2.name = t.name := by
  induction steps generalizing t with
  | nil => exact ⟨(List.append_nil _).symm, rfl⟩
  | cons step steps ih =>
    cases step with
    | entry e =>
      obtain ⟨hdefinitions, hname⟩ := ih (e.apply t)
      rw [course, hdefinitions, hname, apply_eq, entries, kept_cons, List.append_assoc]
      exact ⟨rfl, rfl⟩
    | build =>
      have hframe : t.build.definitions = t.definitions ∧ t.build.name = t.name := by
        unfold build
        split <;> exact ⟨rfl, rfl⟩
      obtain ⟨hdefinitions, hname⟩ := ih t.build
      rw [course, hdefinitions, hname, hframe.1, hframe.2]
      exact ⟨rfl, rfl⟩

/-- once it is frozen, every build answers the same statement -/
theorem course_of_built {t : Table} {sql : String} (hbuilt : t.built? = some sql) (steps : List Step) :
    (course steps t).1 = List.replicate (builds steps) sql ∧ (course steps t).2.built? = some sql := by
  induction steps generalizing t with
  | nil => exact ⟨rfl, hbuilt⟩
  | cons step steps ih =>
    cases step with
    | entry e =>
      have hstill : (e.apply t).built? = some sql := by rw [apply_eq, hbuilt]
      exact ih hstill
    | build =>
      obtain ⟨hsame, htext⟩ := build_of_built hbuilt
      obtain ⟨hanswers, hend⟩ := ih hbuilt
      simp only [course, builds, hsame, htext, hanswers, List.replicate_succ, hend, and_self]

/-- the first build freezes the statement of the entries in front of it -/
theorem course_fresh {t : Table} {sql : String} (hfresh : t.built? = none) (steps : List Step)
    (hsql : createText t.name (t.definitions ++ kept (entriesBefore steps)) = sql) :
    (course steps t).1 = List.replicate (builds steps) sql ∧
      (course steps t).2.built? = (if builds steps = 0 then none else some sql) ∧
      (course steps t).2.build.text = sql := by
  induction steps generalizing t with
  | nil =>
    have hnow : createText t.name t.definitions = sql := by simpa [entriesBefore, kept] using hsql
    exact ⟨rfl, hfresh, (build_fresh hfresh).2.trans hnow⟩
  | cons step steps ih =>
    cases step with
    | entry e =>
      have hstill : (e.apply t).built? = none := by rw [apply_eq, hfresh]
      refine ih hstill ?_
      rw [apply_eq, List.append_assoc, ← kept_cons]
      exact hsql
    | build =>
      have hnow : createText t.name t.definitions = sql := by simpa [entriesBefore, kept] using hsql
      obtain ⟨hbuild, htext⟩ := build_fresh hfresh
      have hbuilt : t.build.built? = some sql := by rw [hbuild, hnow]
      obtain ⟨hanswers, hend⟩ := course_of_built hbuilt steps
      have hlast := build_of_built hend
      simp [course, builds, hanswers, hend, List.replicate_succ, htext, hnow, hlast.1, hlast.2]

end Table

/-! ## Creating a table -/

namespace Session

variable {W H P : Type} [Reporting W]

/-- what a session does to create a table from a definition: the definition is frozen to the statement, which goes to the
bound handle as it is, and once -/
structure Creates (b : Backend W H P) (t : Table) (sql : String) : Prop where
  freezes : ∀ p, (createTable b (t, p)).2.1 = t.build ∧ t.build.text = sql
  unbound : ∀ s calls w, s.handle = none →
    createTable b.recorded (t, s, calls, w) = (.error .noDatabaseBound, t.build, s, calls, w)
  refused : ∀ s calls w h e w', s.handle = some h → b.isOpen h w = false → b.openHandle h w = (.error e, w') →
    (createTable b.recorded (t, s, calls, w)).2.2.2.1 = calls ++ [.openHandle h]
  on_open : ∀ s calls w h, s.handle = some h → b.isOpen h w = true →
    (createTable b.recorded (t, s, calls, w)).2.2.2.1 = calls ++ [.statement h (.execute sql)]
  on_closed : ∀ s calls w h w', s.handle = some h → b.isOpen h w = false → b.openHandle h w = (.ok (), w') →
    (createTable b.recorded (t, s, calls, w)).2.2.2.1 =
      calls ++ [.openHandle h, .statement h (.execute sql), .closeHandle h]

/-- looking at the outcome of a CREATE statement makes no call -/
theorem createTableSql_calls (b : Backend W H P) (sql : String) (p : Scene W H P) :
    (createTableSql b.recorded sql p).2.2.1 = (exec b.recorded sql p).2.2.1 := by
  rw [createTableSql, Task.bind_eq, Task.attempt_eq]
  rcases exec b.recorded sql p with ⟨e | _, q⟩
  · cases e <;> rfl
  · rfl

omit [Reporting W] in
/-- a statement is written down behind the calls before it -/
theorem execute_calls (b : Backend W H P) (h : H) (sql : String) (s : Session H P) (calls : List (Request H P)) (w : W) :
    (Task.lift ((b.recorded.channel h).execute sql) (s, calls, w)).2.2.1 = calls ++ [.statement h (.execute sql)] := rfl

theorem createTable_creates (b : Backend W H P) {t : Table} {sql : String} (hsql : t.build.text = sql) :
    Creates b t sql := by
  have hcalls : ∀ s calls w h, s.handle = some h → (createTable b.recorded (t, s, calls, w)).2.2.2.1 =
      (whileOpen b.recorded h (Task.lift ((b.recorded.channel h).execute sql)) (s, calls, w)).2.2.1 := by
    intro s calls w h hs
    have hexec : (createTable b.recorded (t, s, calls, w)).2.2.2.1 = (exec b.recorded sql (s, calls, w)).2.2.1 := by
      rw [← hsql, ← createTableSql_calls]
      rfl
    rw [hexec, exec, withHandle]
    simp only [hs]
  constructor
  · intro p
    exact ⟨rfl, hsql⟩
  · intro s calls w hs
    simp only [createTable, Task.lift, Task.within, createTableSql, Task.bind_eq, Task.attempt_eq, exec, withHandle, hs]
    rfl
  · intro s calls w h e w' hs hclosed hopen
    rw [hcalls s calls w h hs, whileOpen_recorded_refused b hclosed hopen]
  · intro s calls w h hs hopen
    rw [hcalls s calls w h hs, whileOpen_recorded_open b hopen, execute_calls]
  · intro s calls w h w' hs hclosed hopen
    rw [hcalls s calls w h hs, whileOpen_recorded_started b hclosed hopen]
    simp only [execute_calls, List.append_assoc, List.cons_append, List.nil_append]

end Session

namespace Table

variable {W H P : Type} [Reporting W]

/-- **The statement of a table is a snapshot.** All builds answer the statement of the definitions that were not blank and
came before the first build, in order. A column brings along the text of its own first build, or if it was not built
before, its text at the moment. The definitions go on growing, and creating the table in a session, sooner or later,
executes the snapshot. -/
theorem builds_snapshot (b : Backend W H P) (name : String) (steps : List Step) :
    let sql := createText name (kept (entriesBefore steps))
    let t := (course steps (named name)).2
    (course steps (named name)).1 = List.replicate (builds steps) sql ∧
    t.built? = (if builds steps = 0 then none else some sql) ∧
    t.name = name ∧ t.definitions = kept (entries steps) ∧
    (∀ column calls, (Entry.column (Column.course calls (Column.named column)).2).text =
      if column = "" then "" else (Column.described column (Column.editsBefore calls)).layout) ∧
    Session.Creates b t sql := by
  intro sql t
  obtain ⟨hanswers, hbuilt, htext⟩ := course_fresh (t := named name) rfl steps rfl
  obtain ⟨hdefinitions, hname⟩ := definitions_course steps (named name)
  refine ⟨hanswers, hbuilt, hname, hdefinitions, ?_, Session.createTable_creates b htext⟩
  intro column calls
  rw [text_column, Column.text_course]

/-- a column built before it was added, an unnamed one, a blank constraint, and an entry behind the build -/
example :
    let idSteps : List Column.Step := [.edit (.type .text), .build, .edit (.flag .notNull)]
    let steps : List Step := [.entry (.column (Column.course idSteps (Column.named "id")).2),
      .entry (.column (Column.named "")), .entry (.constraint " "), .entry (.sql "age INTEGER"), .build,
      .entry (.column (Column.named "late")), .build]
    (course steps (named "t")).1 =
      ["CREATE TABLE IF NOT EXISTS t( id TEXT, age INTEGER);", "CREATE TABLE IF NOT EXISTS t( id TEXT, age INTEGER);"] ∧
    (course steps (named "t")).2.definitions = ["id TEXT", "age INTEGER", "late INTEGER"] := by
  decide

end Table

end FluentSql
