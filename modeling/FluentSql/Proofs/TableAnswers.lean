import FluentSql.Proofs.Errands
import FluentSql.Proofs.HostConduct
/-!
What table management answers when something fails. Every statement on the bound handle first makes the handle ready,
which is to open it if it is closed (`ready`). Creating a table looks at the outcome of both together, so a
handle that does not open is a table that is not created. Looking a table up has the handle ready first and looks at
the count only, so a handle that does not open is a failure of the lookup itself.

Main result: `failures_stay_local`, for every session, every handle and every failure.
-/

namespace FluentSql

variable {W H P α : Type}

namespace Session

variable [Reporting W]

omit [Reporting W] in
theorem exec_answer (b : Backend W H P) (sql : String) {s : Session H P} {h : H} (hs : s.handle = some h) (w : W) :
    (exec b sql (s, w)).1 = ((ready b h >>= fun _ => (b.channel h).execute sql) w).1 := by
  have hexec : exec b sql (s, w) = whileOpen b h (Task.lift ((b.channel h).execute sql)) (s, w) := by
    simp only [exec, withHandle, hs]
  rw [hexec, whileOpen_answer, Task.bind_eq, Task.bind_eq]
  simp only [Task.lift, Task.within]
  rcases ready b h w with ⟨e | _, w'⟩ <;> rfl

/-! ## Creating a table -/

/-- a statement that executes creates the table -/
theorem createTableSql_of_ok (b : Backend W H P) (sql : String) {p : Session H P × W} (h : (exec b sql p).1 = .ok ()) :
    (createTableSql b sql p).1 = .ok true := by
  rw [createTableSql, Task.bind_eq, Task.attempt_eq, h]
  rfl

/-- the lack of a database is passed on, and nothing is reported -/
theorem createTableSql_of_unbound (b : Backend W H P) (sql : String) {p : Session H P × W}
    (h : (exec b sql p).1 = .error .noDatabaseBound) :
    createTableSql b sql p = (.error .noDatabaseBound, (exec b sql p).2) := by
  rw [createTableSql, Task.bind_eq, Task.attempt_eq, h]
  rfl

/-- any other failure is a table that is not created -/
theorem createTableSql_of_error (b : Backend W H P) (sql : String) {p : Session H P × W} {e : DbError}
    (h : (exec b sql p).1 = .error e) (he : e ≠ .noDatabaseBound) : (createTableSql b sql p).1 = .ok false := by
  rw [createTableSql, Task.bind_eq, Task.attempt_eq, h]
  cases e with
  | noDatabaseBound => exact absurd rfl he
  | _ => rfl

/-- creating a table succeeds exactly if the handle gets ready and executes the statement -/
theorem createTableSql_answer (b : Backend W H P) (sql : String) {s : Session H P} {h : H} (hs : s.handle = some h)
    {w : W} (hbound : ((ready b h >>= fun _ => (b.channel h).execute sql) w).1 ≠ .error .noDatabaseBound) :
    (createTableSql b sql (s, w)).1 = .ok ((ready b h >>= fun _ => (b.channel h).execute sql) w).1.toBool := by
  have hexec := exec_answer b sql hs w
  rcases houtcome : ((ready b h >>= fun _ => (b.channel h).execute sql) w).1 with e | _
  · rw [houtcome] at hexec hbound
    exact createTableSql_of_error b sql hexec fun he => hbound (by rw [he])
  · rw [houtcome] at hexec
    exact createTableSql_of_ok b sql hexec

/-! ## Looking a table up -/

/-- what a lookup does once the handle is open: a count that fails is a table that is not there -/
def lookUp (b : Backend W H P) (table : String) (h : H) : Task (Session H P × W) Bool := do
  match ← Task.attempt (Task.lift ((b.channel h).countRows table)) with
  | .ok _ => pure true
  | .error e =>
    report (lookupFailed table e)
    pure false

theorem lookUp_answer (b : Backend W H P) (table : String) (h : H) (s : Session H P) (w : W) :
    (lookUp b table h (s, w)).1 = .ok ((b.channel h).countRows table w).1.toBool := by
  rw [lookUp, Task.bind_eq, Task.attempt_eq]
  simp only [Task.lift, Task.within]
  rcases ((b.channel h).countRows table w).1 with e | n <;> rfl

/-- a lookup fails exactly if the handle does not get ready, and tells by the count otherwise -/
theorem tableExists_answer (b : Backend W H P) (table : String) {s : Session H P} {h : H} (hs : s.handle = some h)
    (w : W) : (tableExists b table (s, w)).1 =
      (ready b h w).1.map fun _ => ((b.channel h).countRows table (ready b h w).2).1.toBool := by
  have hlook : tableExists b table (s, w) = whileOpen b h (lookUp b table h) (s, w) := by
    simp only [tableExists, withHandle, hs]
    rfl
  rw [hlook, whileOpen_answer, Task.bind_eq]
  simp only [Task.lift, Task.within]
  rcases hready : ready b h w with ⟨e | _, w'⟩
  · rfl
  · exact lookUp_answer b table h s w'

/-! ## All three -/

/-- **Failures of table management stay local, but for one.** Without a database all three operations answer just that
and do nothing. With one, creating a table never fails: it answers whether the handle got ready and executed the
statement. Looking a table up fails exactly when the bound handle is closed and does not open, and then with what
opening answered; a count that fails is answered by false. -/
theorem failures_stay_local (b : Backend W H P) (s : Session H P) (w : W) (sql table : String) (definition : Table) :
    (s.handle = none →
      createTableSql b sql (s, w) = (.error .noDatabaseBound, s, w) ∧
      createTable b (definition, s, w) = (.error .noDatabaseBound, definition.build, s, w) ∧
      tableExists b table (s, w) = (.error .noDatabaseBound, s, w)) ∧
    ∀ h, s.handle = some h →
      (((ready b h >>= fun _ => (b.channel h).execute sql) w).1 ≠ .error .noDatabaseBound →
        (createTableSql b sql (s, w)).1 = .ok ((ready b h >>= fun _ => (b.channel h).execute sql) w).1.toBool) ∧
      (((ready b h >>= fun _ => (b.channel h).execute definition.build.text) w).1 ≠ .error .noDatabaseBound →
        (createTable b (definition, s, w)).1 =
          .ok ((ready b h >>= fun _ => (b.channel h).execute definition.build.text) w).1.toBool) ∧
      (∀ e, (tableExists b table (s, w)).1 = .error e ↔ b.isOpen h w = false ∧ (b.openHandle h w).1 = .error e) ∧
      ((ready b h w).1 = .ok () → (tableExists b table (s, w)).1 =
        .ok ((b.channel h).countRows table (ready b h w).2).1.toBool) := by
  refine ⟨fun hs => ?_, fun h hs => ?_⟩
  · have hunbound : ∀ text, createTableSql b text (s, w) = (.error .noDatabaseBound, s, w) := fun text => by
      have hexec : exec b text (s, w) = (.error .noDatabaseBound, s, w) := by simp only [exec, withHandle, hs]
      rw [createTableSql_of_unbound b text (by rw [hexec]), hexec]
    refine ⟨hunbound sql, ?_, ?_⟩
    · simp only [createTable, Task.lift, Task.within, hunbound]
    · simp only [tableExists, withHandle, hs]
  · refine ⟨createTableSql_answer b sql hs, createTableSql_answer b definition.build.text hs, fun e => ?_, fun hready => ?_⟩
    · rw [tableExists_answer b table hs, ← ready_error_iff]
      rcases (ready b h w).1 with e' | _ <;> simp [Except.map]
    · rw [tableExists_answer b table hs, hready]
      rfl

/-- a session with a database that is closed -/
def bound : Session HandleRef Source := ofHandle Host.backend (Host.first "handle")

/-- a world in which that database does not open the first time -/
def stuck : Host :=
  Host.rehearsing "handle" { Rehearsal.Script.standard with opens := [.fail (.execution (.stated "locked"))] }

/-- the database does not open, so the tables are not created; one that opens has no count to answer -/
theorem failures_stay_local_stuck :
    createTableSql Host.backend "CREATE TABLE t (id)" ((empty : Session HandleRef Source), stuck) =
      (.error .noDatabaseBound, empty, stuck) ∧
    (createTableSql Host.backend "CREATE TABLE t (id)" (bound, stuck)).1 = .ok false ∧
    (createTable Host.backend (Table.named "t", bound, stuck)).1 = .ok false ∧
    (tableExists Host.backend "t" (bound, Host.rehearsing "handle" .standard)).1 = .ok false := by
  have hlocked : ∀ sql, ((ready Host.backend (Host.first "handle") >>= fun _ =>
      (Host.backend.channel (Host.first "handle")).execute sql) stuck).1 = .error (.execution (.stated "locked")) :=
    fun _ => rfl
  have hstuck := failures_stay_local Host.backend bound stuck "CREATE TABLE t (id)" "t" (Table.named "t")
  have hopens := failures_stay_local Host.backend bound (Host.rehearsing "handle" .standard) "" "t" (Table.named "t")
  obtain ⟨hsql, hcreate, -⟩ := hstuck.2 (Host.first "handle") rfl
  refine ⟨((failures_stay_local Host.backend empty stuck _ "t" (Table.named "t")).1 rfl).1, ?_, ?_, ?_⟩
  · exact hsql (by simp [hlocked])
  · exact hcreate (by simp [hlocked])
  · exact (hopens.2 (Host.first "handle") rfl).2.2.2 rfl

/-- looking a table up on that database is an error, although a database is bound -/
theorem tableExists_stuck :
    bound.handle = some (Host.first "handle") ∧
    (tableExists Host.backend "t" (bound, stuck)).1 = .error (.execution (.stated "locked")) ∧
    (createTableSql Host.backend "CREATE TABLE t (id)" (bound, stuck)).1 = .ok false :=
  ⟨rfl, rfl, rfl⟩

end Session

end FluentSql
