import FluentSql.Proofs.RecordSetCalls
/-!
The text that a statement shows, beside the texts of the calls it makes. Reads, updates, deletes and inserts of values
make one data call, and show its text. An insert of a record set makes one for each row it comes to, in order, and shows
the text of the first.

An empty record set is the exception: it makes no data call at all, yet the insert shows the statement of its pending
values, which no run issues (`emptySet_shows_pending`). `shows_what_it_issues` has both sides.
-/

namespace FluentSql

variable {W α : Type}

/-- the text of a call that reads or writes rows; the others have none -/
def Exchange.text? : Exchange → Option String
  | execute _ _ => none
  | query q _ => some (SqlText.select q)
  | insert table values _ => some (SqlText.insert table values)
  | update table values condition _ _ => some (SqlText.update table values condition)
  | delete table condition _ _ => some (SqlText.delete table condition)

/-- the texts of the data calls that an action makes, in order -/
def Task.texts (t : Task (List Exchange × W) α) (w : W) : List String := (t ([], w)).2.1.filterMap Exchange.text?

/-! ## The rows of a record set -/

namespace Insert

theorem storedRows_texts (table : String) {rs : RecordSet} {ids : List Int64} (hlength : ids.length = rs.length) :
    (storedRows table rs ids).filterMap Exchange.text? = rs.map (SqlText.insert table) := by
  induction rs generalizing ids with
  | nil => rfl
  | cons r rs ih =>
    cases ids with
    | nil => cases hlength
    | cons id ids => exact congrArg (SqlText.insert table r :: ·) (ih (Nat.succ.inj hlength))

/-- the rows that are tried come first among the rows, each once -/
theorem RowCalls.texts {table : String} {rs : RecordSet} {calls : List Exchange} {x : Except DbError (List Int64)}
    (hrows : RowCalls table rs calls x) :
    calls.filterMap Exchange.text? <+: rs.map (SqlText.insert table) := by
  cases hrows with
  | all ids hlength =>
    exact ⟨[], by rw [List.append_nil, storedRows_texts table hlength]⟩
  | upTo before r after ids e hrs hlength =>
    refine ⟨after.map (SqlText.insert table), ?_⟩
    calc (storedRows table before ids ++ [Exchange.insert table r (.error e)]).filterMap Exchange.text? ++
            after.map (SqlText.insert table)
        = before.map (SqlText.insert table) ++ [SqlText.insert table r] ++ after.map (SqlText.insert table) := by
          rw [List.filterMap_append, storedRows_texts table hlength]
          rfl
      _ = rs.map (SqlText.insert table) := by
          rw [hrs, List.map_append, List.map_cons, List.append_assoc]
          rfl

theorem WayBack.no_texts {calls : List Exchange} (hback : WayBack calls) : calls.filterMap Exchange.text? = [] := by
  cases hback with
  | stuck e => rfl
  | back answer => rfl

/-- once the savepoint is there, the data calls are those for the rows -/
theorem RecordSetCalls.texts {table : String} {rs : RecordSet} {rest : List Exchange}
    {x : Except DbError (List Int64)} (hcalls : RecordSetCalls table rs (.execute savepointSql (.ok ()) :: rest) x) :
    ∃ calls y, RowCalls table rs calls y ∧ rest.filterMap Exchange.text? = calls.filterMap Exchange.text? := by
  cases hcalls with
  | stored hrows => exact ⟨_, _, hrows, by rw [List.filterMap_append]; exact List.append_nil _⟩
  | unreleased hrows e => exact ⟨_, _, hrows, by rw [List.filterMap_append]; exact List.append_nil _⟩
  | takenBack hrows hback => exact ⟨_, _, hrows, by rw [List.filterMap_append, hback.no_texts, List.append_nil]⟩

variable [Reporting W]

theorem insertAll_texts {c : Channel W} {w : W} (hmark : (c.execute savepointSql w).1 = .ok ()) (table : String)
    (rs : RecordSet) :
    (insertAll c.transcribed table rs).texts w <+: rs.map (SqlText.insert table) ∧
      ∀ r rest, rs = r :: rest → ((insertAll c.transcribed table rs).texts w).head? = some (SqlText.insert table r) := by
  obtain ⟨rest, x, w', hrun, hcalls⟩ := insertAll_calls c table rs w
  rw [hmark] at hrun hcalls
  obtain ⟨calls, y, hrows, hrest⟩ := hcalls.texts
  have htexts : (insertAll c.transcribed table rs).texts w = calls.filterMap Exchange.text? := by
    rw [Task.texts, hrun, ← hrest]
    rfl
  rw [htexts]
  refine ⟨hrows.texts, fun r rest hrs => ?_⟩
  rw [hrs] at hrows
  obtain ⟨answer, others, rfl⟩ := hrows.starts
  rfl

/-! ## Inserts -/

/-- the record set to insert is there and has no row -/
def Hollow (s : Insert) : Prop := s.records = some []

/-- the rows that an insert is about: its record set, or the one row of its values -/
def rows (s : Insert) : RecordSet := s.records.getD [s.values]

theorem execute_texts {c : Channel W} {w : W} (hmark : (c.execute savepointSql w).1 = .ok ()) (s : Insert) :
    (s.execute c.transcribed).texts w <+: s.rows.map (SqlText.insert s.table) ∧
      (¬ s.Hollow → ((s.execute c.transcribed).texts w).head? = some s.sql) := by
  obtain ⟨table, values, records⟩ := s
  cases records with
  | none =>
    rcases hrow : c.insert table values w with ⟨x, w'⟩
    have htexts : (execute c.transcribed ⟨table, values, none⟩).texts w = [SqlText.insert table values] := by
      rw [Task.texts, execute]
      dsimp only
      rw [Task.bind_pure_eq, Channel.transcribed_insert hrow]
      rfl
    rw [htexts]
    exact ⟨List.prefix_refl _, fun _ => rfl⟩
  | some rs =>
    obtain ⟨hbegins, hfirst⟩ := insertAll_texts hmark table rs
    refine ⟨hbegins, fun hsolid => ?_⟩
    cases rs with
    | nil => exact absurd rfl hsolid
    | cons r rest => exact hfirst r rest rfl

end Insert

/-- checking first does not change what a good statement issues -/
theorem Task.texts_ofExcept_bind {x : Except DbError Unit} (hx : x = .ok ()) (t : Task (List Exchange × W) α) (w : W) :
    (Task.ofExcept x >>= fun _ => t).texts w = t.texts w := by
  rw [hx]
  rfl

/-- **A statement shows what it issues, except for an empty record set.** Reads, updates and deletes make the one data
call that they show, executed or run. The data calls of an insert are those of its rows, in order; it shows the first of
them exactly if its record set is not empty, and for an empty one it shows its pending values and makes none. -/
theorem shows_what_it_issues [Reporting W] (c : Channel W) (w : W)
    (hmark : (c.execute Insert.savepointSql w).1 = .ok ()) :
    (∀ s : Select, s.validate = .ok () →
      (s.execute c.transcribed).texts w = [s.sql] ∧ (s.run c.transcribed).texts w = [s.sql]) ∧
    (∀ s : Update, s.validate = .ok () →
      (s.execute c.transcribed).texts w = [s.sql] ∧ (s.run c.transcribed).texts w = [s.sql]) ∧
    (∀ s : Delete, s.validate = .ok () →
      (s.execute c.transcribed).texts w = [s.sql] ∧ (s.run c.transcribed).texts w = [s.sql]) ∧
    ∀ s : Insert, s.validate = .ok () →
      (s.run c.transcribed).texts w = (s.execute c.transcribed).texts w ∧
      (s.execute c.transcribed).texts w <+: s.rows.map (SqlText.insert s.table) ∧
      (((s.execute c.transcribed).texts w).head? = some s.sql ↔ ¬ s.Hollow) ∧
      (s.Hollow → (s.execute c.transcribed).texts w = [] ∧ s.sql = SqlText.insert s.table s.values) := by
  refine ⟨fun s hvalid => ⟨rfl, Task.texts_ofExcept_bind hvalid _ w⟩,
    fun s hvalid => ⟨rfl, Task.texts_ofExcept_bind hvalid _ w⟩,
    fun s hvalid => ⟨rfl, Task.texts_ofExcept_bind hvalid _ w⟩, fun s hvalid => ?_⟩
  obtain ⟨hbegins, hfirst⟩ := Insert.execute_texts hmark s
  have hnone : s.Hollow → (s.execute c.transcribed).texts w = [] := by
    intro hollow
    rw [Insert.rows, hollow] at hbegins
    exact List.prefix_nil.1 hbegins
  refine ⟨Task.texts_ofExcept_bind hvalid _ w, hbegins, ⟨fun hshown hollow => ?_, hfirst⟩,
    fun hollow => ⟨hnone hollow, ?_⟩⟩
  · rw [hnone hollow] at hshown
    cases hshown
  · rw [Insert.sql, hollow]
    rfl

namespace Insert

/-- two rows with different columns, beside a pending value -/
def mixedRows : Insert :=
  ((empty.intoTable "t").set "c" (.integer 9)).withRecords
    [Record.empty.set "a" (.integer 1), Record.empty.set "b" (.integer 2)]

/-- what is shown is the text of the first row, though a value is pending and the second row is refused -/
theorem mixedRows_shown :
    (Slate.channel.execute savepointSql ⟨[], [], 1, 2⟩).1 = .ok () ∧ mixedRows.validate = .ok () ∧
    mixedRows.sql = "INSERT INTO t (a) VALUES (?)" ∧
    ((mixedRows.execute Slate.channel.transcribed).texts ⟨[], [], 1, 2⟩).head? = some mixedRows.sql := by
  obtain ⟨-, -, -, hinsert⟩ := shows_what_it_issues Slate.channel ⟨[], [], 1, 2⟩ rfl
  obtain ⟨-, -, hshown, -⟩ := hinsert mixedRows rfl
  have hsolid : ¬ mixedRows.Hollow := by
    intro hollow
    cases hollow
  exact ⟨rfl, rfl, rfl, hshown.2 hsolid⟩

/-- a record set without rows, beside a pending value -/
def emptySet : Insert := ((empty.intoTable "t").set "a" (.integer 1)).withRecords []

/-- **An empty record set shows a statement that is never issued**: the savepoint and its release are all there is. -/
theorem emptySet_shows_pending :
    emptySet.validate = .ok () ∧ emptySet.sql = "INSERT INTO t (a) VALUES (?)" ∧
    emptySet.run Slate.channel.transcribed ([], ⟨[], [], 1, 2⟩) =
      (.ok [], [.execute savepointSql (.ok ()), .execute releaseSql (.ok ())], ⟨[], [], 1, 2⟩) ∧
    ((emptySet.run Slate.channel.transcribed).texts ⟨[], [], 1, 2⟩).head? ≠ some emptySet.sql := by
  refine ⟨rfl, rfl, rfl, fun hshown => ?_⟩
  cases hshown

end Insert

end FluentSql
