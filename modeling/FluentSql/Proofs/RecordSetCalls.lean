import FluentSql.Proofs.Mirror
import FluentSql.Proofs.RecordSetInsert
/-!
Inserting a record set, call by call. Every statement is written down with its answer (`Channel.transcribed`), and
`RecordSetCalls` says which transcripts there are and what result goes with each: the savepoint, the rows in order up to
the first refused one, and then either the release or the way back.

Nothing is assumed about the channel, so the calls may fail in any pattern. A transcript is read off from the run
itself: `insertEach_rowCalls` is the induction over the rows, `insertAll_calls` puts the parts together, and
`runThenReset_recordSet` is the whole run of the builder, with its check of the table and its reset.
-/

namespace FluentSql

variable {W α : Type}

/-! ## Transcripts -/

/-- a statement and what it was answered -/
inductive Exchange where
  | execute (sql : String) (answer : Except DbError Unit)
  | query (q : Query) (answer : Except DbError Rows)
  | insert (table : String) (values : Record) (answer : Except DbError Int64)
  | update (table : String) (values : Record) (condition : Option String) (args : List String)
      (answer : Except DbError Nat)
  | delete (table : String) (condition : Option String) (args : List String) (answer : Except DbError Nat)

/-- carries a statement out and writes it down with its answer -/
def Task.transcribed (note : Except DbError α → Exchange) (t : Task W α) : Task (List Exchange × W) α := fun p =>
  ((t p.2).1, p.1 ++ [note (t p.2).1], (t p.2).2)

theorem Task.transcribed_eq {t : Task W α} {w w' : W} {x : Except DbError α} (ht : t w = (x, w'))
    (note : Except DbError α → Exchange) (l : List Exchange) :
    t.transcribed note (l, w) = (x, l ++ [note x], w') := by
  simp only [transcribed, ht]

/-- writes down every statement with its answer -/
def Channel.transcribed (c : Channel W) : Channel (List Exchange × W) where
  execute sql := (c.execute sql).transcribed (.execute sql)
  query q := (c.query q).transcribed (.query q)
  insert table values := (c.insert table values).transcribed (.insert table values)
  update table values condition args :=
    (c.update table values condition args).transcribed (.update table values condition args)
  delete table condition args := (c.delete table condition args).transcribed (.delete table condition args)

/-- writing down changes nothing -/
theorem Channel.transcribed_mirrors (c : Channel W) : c.transcribed.Mirrors Prod.snd c :=
  ⟨fun _ _ => rfl, fun _ _ => rfl, fun _ _ _ => rfl, fun _ _ _ _ _ => rfl, fun _ _ _ _ => rfl⟩

theorem Channel.transcribed_execute {c : Channel W} {sql : String} {w w' : W} {x : Except DbError Unit}
    (hrun : c.execute sql w = (x, w')) (l : List Exchange) :
    c.transcribed.execute sql (l, w) = (x, l ++ [.execute sql x], w') := Task.transcribed_eq hrun _ l

theorem Channel.transcribed_insert {c : Channel W} {table : String} {r : Record} {w w' : W} {x : Except DbError Int64}
    (hrun : c.insert table r w = (x, w')) (l : List Exchange) :
    c.transcribed.insert table r (l, w) = (x, l ++ [.insert table r x], w') := Task.transcribed_eq hrun _ l

namespace Insert

/-! ## The language of transcripts -/

/-- rows that went in one after the other, each with its id -/
def storedRows (table : String) (rs : RecordSet) (ids : List Int64) : List Exchange :=
  List.zipWith (fun r id => .insert table r (.ok id)) rs ids

/-- the calls for the rows: all go in, or those before the first refused one do and none is tried after it -/
inductive RowCalls (table : String) (rs : RecordSet) : List Exchange → Except DbError (List Int64) → Prop where
  | all (ids : List Int64) (hlength : ids.length = rs.length) : RowCalls table rs (storedRows table rs ids) (.ok ids)
  | upTo (before : RecordSet) (r : Record) (after : RecordSet) (ids : List Int64) (e : DbError)
      (hrs : rs = before ++ r :: after) (hlength : ids.length = before.length) :
      RowCalls table rs (storedRows table before ids ++ [.insert table r (.error e)]) (.error e)

/-- the way back: the savepoint is given up only after going back to it -/
inductive WayBack : List Exchange → Prop where
  | stuck (e : DbError) : WayBack [.execute rollbackSql (.error e)]
  | back (answer : Except DbError Unit) : WayBack [.execute rollbackSql (.ok ()), .execute releaseSql answer]

/-- the calls for a record set, with the result that goes with them -/
inductive RecordSetCalls (table : String) (rs : RecordSet) :
    List Exchange → Except DbError (List Int64) → Prop where
  | unmarked (e : DbError) : RecordSetCalls table rs [.execute savepointSql (.error e)] (.error e)
  | stored {calls : List Exchange} {ids : List Int64} (hrows : RowCalls table rs calls (.ok ids)) :
      RecordSetCalls table rs
        (.execute savepointSql (.ok ()) :: (calls ++ [.execute releaseSql (.ok ())])) (.ok ids)
  | unreleased {calls : List Exchange} {ids : List Int64} (hrows : RowCalls table rs calls (.ok ids)) (e : DbError) :
      RecordSetCalls table rs
        (.execute savepointSql (.ok ()) :: (calls ++ [.execute releaseSql (.error e)])) (.error e)
  | takenBack {calls back : List Exchange} {e : DbError} (hrows : RowCalls table rs calls (.error e))
      (hback : WayBack back) :
      RecordSetCalls table rs (.execute savepointSql (.ok ()) :: (calls ++ back)) (.error e)

/-- a row that went in before the others -/
theorem RowCalls.cons {table : String} {rs : RecordSet} {calls : List Exchange} {x : Except DbError (List Int64)}
    (hrows : RowCalls table rs calls x) (r : Record) (id : Int64) :
    RowCalls table (r :: rs) (.insert table r (.ok id) :: calls) (x.map (id :: ·)) := by
  cases hrows with
  | all ids hlength => exact .all (id :: ids) (congrArg Nat.succ hlength)
  | upTo before r' after ids e hrs hlength =>
    have hsplit : r :: rs = (r :: before) ++ r' :: after := by
      rw [hrs]
      rfl
    exact .upTo (r :: before) r' after (id :: ids) e hsplit (congrArg Nat.succ hlength)

/-- whatever comes of the rows, the first row is the first to be tried -/
theorem RowCalls.starts {table : String} {r : Record} {rs : RecordSet} {calls : List Exchange}
    {x : Except DbError (List Int64)} (hrows : RowCalls table (r :: rs) calls x) :
    ∃ answer rest, calls = .insert table r answer :: rest := by
  cases hrows with
  | all ids hlength =>
    cases ids with
    | nil => cases hlength
    | cons id ids => exact ⟨.ok id, _, rfl⟩
  | upTo before r' after ids e hrs hlength =>
    cases before with
    | nil =>
      cases hrs
      exact ⟨.error e, [], rfl⟩
    | cons r'' before =>
      cases ids with
      | nil => cases hlength
      | cons id ids =>
        cases hrs
        exact ⟨.ok id, _, rfl⟩

/-! ## Runs -/

/-- what rows are answered, and the calls for them behind the earlier ones -/
theorem insertEach_rowCalls (c : Channel W) (table : String) (rs : RecordSet) (l : List Exchange) (w : W) :
    ∃ calls x w', insertEach c.transcribed table rs (l, w) = (x, l ++ calls, w') ∧ RowCalls table rs calls x := by
  induction rs generalizing l w with
  | nil => exact ⟨[], .ok [], w, by rw [List.append_nil]; rfl, .all [] rfl⟩
  | cons r rs ih =>
    rcases hrow : c.insert table r w with ⟨e | id, v⟩
    · refine ⟨[.insert table r (.error e)], .error e, v, ?_, .upTo [] r rs [] e rfl rfl⟩
      rw [insertEach, Task.bind_eq, Channel.transcribed_insert hrow]
    · obtain ⟨calls, x, w', hrest, hcalls⟩ := ih (l ++ [.insert table r (.ok id)]) v
      refine ⟨.insert table r (.ok id) :: calls, x.map (id :: ·), w', ?_, hcalls.cons r id⟩
      rw [insertEach, Task.bind_eq, Channel.transcribed_insert hrow]
      dsimp only
      rw [Task.bind_pure_eq, hrest, List.append_assoc]
      rfl

theorem undo_wayBack (c : Channel W) (l : List Exchange) (w : W) :
    ∃ calls x w', undo c.transcribed (l, w) = (x, l ++ calls, w') ∧ WayBack calls := by
  rcases hback : c.execute rollbackSql w with ⟨e | _, v⟩
  · refine ⟨[.execute rollbackSql (.error e)], .error e, v, ?_, .stuck e⟩
    rw [undo, Task.bind_eq, Channel.transcribed_execute hback]
  · rcases hrelease : c.execute releaseSql v with ⟨x, w'⟩
    refine ⟨[.execute rollbackSql (.ok ()), .execute releaseSql x], x, w', ?_, .back x⟩
    rw [undo, Task.bind_eq, Channel.transcribed_execute hback]
    dsimp only
    rw [Channel.transcribed_execute hrelease, List.append_assoc]
    rfl

variable [Reporting W]

/-- every way of inserting a record set has a transcript of the language, and it begins with the savepoint -/
theorem insertAll_calls (c : Channel W) (table : String) (rs : RecordSet) (w : W) :
    ∃ rest x w', insertAll c.transcribed table rs ([], w) =
        (x, .execute savepointSql (c.execute savepointSql w).1 :: rest, w') ∧
      RecordSetCalls table rs (.execute savepointSql (c.execute savepointSql w).1 :: rest) x := by
  rcases hmark : c.execute savepointSql w with ⟨e | _, v⟩
  · refine ⟨[], .error e, v, ?_, .unmarked e⟩
    rw [insertAll, Task.bind_eq, Channel.transcribed_execute hmark]
    rfl
  · have hmarked := Channel.transcribed_execute hmark []
    obtain ⟨calls, x, v', hrows, hcalls⟩ := insertEach_rowCalls c table rs [.execute savepointSql (.ok ())] v
    cases x with
    | error e =>
      obtain ⟨back, y, w', hundo, hback⟩ := undo_wayBack c ([.execute savepointSql (.ok ())] ++ calls) v'
      -- the report about a failing way back touches no call
      have hrun : ∃ w'', insertAll c.transcribed table rs ([], w) =
          (.error e, .execute savepointSql (.ok ()) :: (calls ++ back), w'') := by
        rw [insertAll, Task.bind_eq, hmarked]
        dsimp only
        rw [Task.bind_eq, Task.attempt_eq, List.nil_append, hrows]
        dsimp only
        rw [Task.bind_eq, Task.attempt_eq, hundo]
        cases y with
        | error why => exact ⟨_, rfl⟩
        | ok _ => exact ⟨_, rfl⟩
      obtain ⟨w'', hrun⟩ := hrun
      exact ⟨calls ++ back, .error e, w'', hrun, .takenBack hcalls hback⟩
    | ok ids =>
      rcases hrelease : c.execute releaseSql v' with ⟨x, w'⟩
      have hrun : insertAll c.transcribed table rs ([], w) = (x.map fun _ => ids,
          .execute savepointSql (.ok ()) :: (calls ++ [.execute releaseSql x]), w') := by
        rw [insertAll, Task.bind_eq, hmarked]
        dsimp only
        rw [Task.bind_eq, Task.attempt_eq, List.nil_append, hrows]
        dsimp only
        rw [Task.bind_pure_eq, Channel.transcribed_execute hrelease]
        rfl
      refine ⟨calls ++ [.execute releaseSql x], x.map fun _ => ids, w', hrun, ?_⟩
      cases x with
      | error e => exact .unreleased hcalls e
      | ok _ => exact .stored hcalls

/-- **The calls of a record set.** With a table, a run makes the calls of the language and gives the result that goes
with them; without one it fails and makes no call. On every path the builder is empty afterwards, and writing the calls
down changes nothing. -/
theorem runThenReset_recordSet {s : Insert} {rs : RecordSet} (hrs : s.records = some rs) (c : Channel W) (w : W) :
    ∃ x calls w', runThenReset c.transcribed (s, [], w) = (x, empty, calls, w') ∧
      runThenReset c (s, w) = (x, empty, w') ∧
      if Text.blank s.table then x = .error (.validation (.missingTable .insert)) ∧ calls = [] ∧ w' = w
      else RecordSetCalls s.table rs calls x := by
  have hreset : runThenReset c.transcribed (s, [], w) =
      ((s.run c.transcribed ([], w)).1, empty, (s.run c.transcribed ([], w)).2) := Task.usingUp_eq _ _ _ _
  have hplain : runThenReset c (s, w) =
      ((s.run c.transcribed ([], w)).1, empty, (s.run c.transcribed ([], w)).2.2) := by
    rw [runThenReset, Task.usingUp_eq, run_mirrors c.transcribed_mirrors (fun _ _ => rfl) s ([], w)]
  refine ⟨_, _, _, hreset, hplain, ?_⟩
  rw [run_eq hrs]
  by_cases hblank : Text.blank s.table = true
  · have hvalid : s.validate = .error (.validation (.missingTable .insert)) := if_pos hblank
    rw [if_pos hblank, hvalid]
    exact ⟨rfl, rfl, rfl⟩
  · have hvalid : s.validate = .ok () := if_neg hblank
    rw [if_neg hblank, hvalid]
    obtain ⟨rest, x, w', hrun, hcalls⟩ := insertAll_calls c s.table rs w
    rw [hrun]
    exact hcalls

/-- with room for one row, the second of two is refused; the savepoint is gone back to and given up -/
theorem twoRows_calls :
    twoRows.records = some [.empty, .empty] ∧
    runThenReset Slate.channel (twoRows, ⟨[], [], 1, 2⟩) = (.error (.engine .full), empty, ⟨[], [], 1, 2⟩) ∧
    RecordSetCalls "t" [.empty, .empty]
      [.execute "SAVEPOINT dbtool_record_set" (.ok ()), .insert "t" .empty (.ok 1),
        .insert "t" .empty (.error (.engine .full)), .execute "ROLLBACK TO SAVEPOINT dbtool_record_set" (.ok ()),
        .execute "RELEASE SAVEPOINT dbtool_record_set" (.ok ())] (.error (.engine .full)) := by
  obtain ⟨x, calls, w', hcalls, hplain, hlanguage⟩ :=
    runThenReset_recordSet (s := twoRows) rfl Slate.channel ⟨[], [], 1, 2⟩
  cases hcalls
  exact ⟨rfl, hplain, hlanguage⟩

/-- a record set of one empty row, without a table -/
def homeless : Insert := empty.withRecords [.empty]

/-- **Without a table there is no call**, not even the savepoint. -/
theorem homeless_makes_no_call :
    homeless.records = some [.empty] ∧
    runThenReset Slate.channel.transcribed (homeless, [], ⟨[], [], 1, 1⟩) =
      (.error (.validation (.missingTable .insert)), empty, [], ⟨[], [], 1, 1⟩) ∧
    ¬ RecordSetCalls homeless.table [.empty] [] (.error (.validation (.missingTable .insert))) := by
  refine ⟨rfl, rfl, fun hcalls => ?_⟩
  have hsome : ∀ {calls : List Exchange} {x : Except DbError (List Int64)},
      RecordSetCalls homeless.table [.empty] calls x → calls ≠ [] := by
    intro calls x h
    cases h <;> exact List.cons_ne_nil _ _
  exact hsome hcalls rfl

end Insert

end FluentSql
