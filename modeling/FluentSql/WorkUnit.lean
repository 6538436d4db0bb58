import FluentSql.Outcome
import FluentSql.Statement.Delete
import FluentSql.Statement.Insert
import FluentSql.Statement.Update
/-!
Units of work: one statement that has not run yet, put together by chained steps.

A unit has a builder for each kind of statement. The first verb creates one, later verbs on the same unit
switch the kind, and the latest verb decides what runs. Steps that make sense for several kinds reach the
builders of all of them; a condition reaches only the kind that is current when it is given, and is lost
before the first verb and while the kind is insert. Running empties the builder of the current kind and
leaves the kind itself.
-/

namespace FluentSql

/-- how the result of a read is handed back -/
inductive OutputMode where
  /-- every row as a record -/
  | records
  /-- the rows as they came -/
  | raw
  /-- the only column of the first row, converted -/
  | scalar (kind : ScalarKind)
deriving DecidableEq, Repr, Inhabited

namespace OutputMode

def name : OutputMode → String
  | records => "Records"
  | raw => "Raw"
  | scalar kind => "Scalar(" ++ kind.name ++ ")"

end OutputMode

/-- a statement that has not run yet -/
structure WorkUnit where
  verb : Option Verb
  mode : OutputMode
  select? : Option Select
  insert? : Option Insert
  update? : Option Update
  delete? : Option Delete
deriving Inhabited

/-! ## Steps -/

/-- one chained call -/
inductive Step where
  | getAll
  | get (columns : List String)
  | selectAll
  | select (columns : List String)
  | getScalar (column : String) (kind : ScalarKind)
  | insert (values : Record)
  | insertInto (table : String)
  | update (table : String)
  | updateTables (tables : List String)
  | deleteFrom (table : String)
  | deleteFromTables (tables : List String)
  | intoTable (table : String)
  | fromTable (table : String)
  | fromTables (tables : List String)
  | values (values : Record)
  | recordSet (records : RecordSet)
  | set (column : String) (v : Value)
  | whereRaw (fragment : String)
  | compare (c : Comparison) (field : String) (v : Value)
  | connect (c : Connector)
  | whereArgs (args : List String)
  | distinct
  | columns (columns : List String)
  | groupBy (body : String)
  | having (body : String)
  | orderBy (body : String)
  | limit (count : Nat)
  | limitOffset (count offset : Nat)
deriving Inhabited

namespace Step

/-- whether a session starts a new unit for the step; naming the table of an insert does not -/
def isVerb : Step → Bool
  | getAll => true
  | get _ => true
  | selectAll => true
  | select _ => true
  | getScalar _ _ => true
  | insert _ => true
  | insertInto _ => true
  | update _ => true
  | updateTables _ => true
  | deleteFrom _ => true
  | deleteFromTables _ => true
  | _ => false

end Step

namespace WorkUnit

def empty : WorkUnit := ⟨none, .records, none, none, none, none⟩

def wantsRaw (u : WorkUnit) : Bool := u.mode == .raw

def wantsScalar (u : WorkUnit) : Bool :=
  match u.mode with
  | .scalar _ => true
  | _ => false

/-- the kind of a unit in messages -/
def verbText (u : WorkUnit) : String :=
  match u.verb with
  | some v => "Some(" ++ v.name ++ ")"
  | none => "None"

/-- no step has left a trace -/
def isEmpty (u : WorkUnit) : Bool :=
  u.verb.isNone && u.mode == .records && u.select?.isNone && u.insert?.isNone && u.update?.isNone
    && u.delete?.isNone

/-! ## Builders -/

def selectPart (u : WorkUnit) : Select := u.select?.getD .empty

def insertPart (u : WorkUnit) : Insert := u.insert?.getD .empty

def updatePart (u : WorkUnit) : Update := u.update?.getD .empty

def deletePart (u : WorkUnit) : Delete := u.delete?.getD .empty

def onSelect (f : Select → Select) (u : WorkUnit) : WorkUnit := { u with select? := some (f u.selectPart) }

def onInsert (f : Insert → Insert) (u : WorkUnit) : WorkUnit := { u with insert? := some (f u.insertPart) }

def onUpdate (f : Update → Update) (u : WorkUnit) : WorkUnit := { u with update? := some (f u.updatePart) }

def onDelete (f : Delete → Delete) (u : WorkUnit) : WorkUnit := { u with delete? := some (f u.deletePart) }

/-- changes the condition of the current kind, if that has one -/
def onFilter (f : Filter → Filter) (u : WorkUnit) : WorkUnit :=
  match u.verb with
  | some .select => u.onSelect (Select.onFilter f)
  | some .update => u.onUpdate (Update.onFilter f)
  | some .delete => u.onDelete (Delete.onFilter f)
  | some .insert => u
  | none => u

def withVerb (u : WorkUnit) (verb : Verb) : WorkUnit := { u with verb := some verb }

/-- starts a read -/
def beginSelect (u : WorkUnit) (mode : OutputMode) (f : Select → Select) : WorkUnit :=
  { u with verb := some .select, mode := mode }.onSelect f

/-- what a step does to a unit -/
def apply (u : WorkUnit) : Step → WorkUnit
  | .getAll => u.beginSelect .records Select.allColumns
  | .get columns => u.beginSelect .records (·.ofColumns columns)
  | .selectAll => u.beginSelect .raw Select.allColumns
  | .select columns => u.beginSelect .raw (·.ofColumns columns)
  | .getScalar column kind => u.beginSelect (.scalar kind) (·.ofColumns [column])
  | .insert values => (u.withVerb .insert).onInsert (·.withValues values)
  | .insertInto table => (u.withVerb .insert).onInsert (·.intoTable table)
  | .intoTable table => (u.withVerb .insert).onInsert (·.intoTable table)
  | .update table => (u.withVerb .update).onUpdate (·.ofTable table)
  | .updateTables tables => (u.withVerb .update).onUpdate (·.ofTables tables)
  | .deleteFrom table => (u.withVerb .delete).onDelete (·.fromTable table)
  | .deleteFromTables tables => (u.withVerb .delete).onDelete (·.fromTables tables)
  | .fromTable table => (u.onSelect (·.fromTable table)).onDelete (·.fromTable table)
  | .fromTables tables => (u.onSelect (·.fromTables tables)).onDelete (·.fromTables tables)
  | .values values => (u.onInsert (·.withValues values)).onUpdate (·.withValues values)
  | .recordSet records => u.onInsert (·.withRecords records)
  | .set column v => (u.onInsert (·.set column v)).onUpdate (·.set column v)
  | .whereRaw fragment => u.onFilter (·.push fragment)
  | .compare c field v => u.onFilter (·.compare c field v)
  | .connect c => u.onFilter (·.connect c)
  | .whereArgs args =>
    let give : Filter → Filter := (·.setArgs args)
    ((u.onSelect (Select.onFilter give)).onUpdate (Update.onFilter give)).onDelete (Delete.onFilter give)
  | .distinct => u.onSelect (·.withDistinct true)
  | .columns columns => u.onSelect (·.ofColumns columns)
  | .groupBy body => u.onSelect (·.withGroupBy body)
  | .having body => u.onSelect (·.withHaving body)
  | .orderBy body => u.onSelect (·.withOrderBy body)
  | .limit count => u.onSelect (·.withLimit count)
  | .limitOffset count offset => u.onSelect (·.withLimitOffset count offset)

/-- the unit that a chain of steps makes -/
def ofSteps (steps : List Step) : WorkUnit := steps.foldl apply empty

theorem ofSteps_concat (steps : List Step) (step : Step) :
    ofSteps (steps ++ [step]) = (ofSteps steps).apply step := by
  simp [ofSteps, List.foldl_append]

/-! ## Running -/

/-- the text of the statement that would run -/
def sql? (u : WorkUnit) : Option String :=
  match u.verb with
  | some .select => u.select?.map Select.sql
  | some .insert => u.insert?.map Insert.sql
  | some .update => u.update?.map Update.sql
  | some .delete => u.delete?.map Delete.sql
  | none => none

/-- hands the rows of a read back as the mode asks -/
def shapeRows (mode : OutputMode) (rows : Rows) : Except DbError Outcome :=
  match mode with
  | .raw => .ok (.rows rows)
  | .records => .ok (.records rows.toRecords)
  | .scalar kind =>
    match rows.columns with
    | [column] =>
      match rows.firstCell? with
      | some v => (Scalar.convert column kind v).map .scalar
      | none => .ok (.scalar none)
    | columns => .error (.validation (.scalarWidth columns.length))

/-- hands the ids of an insert back: a single row by itself, a record set as a list -/
def shapeIds (hadRecords : Bool) (ids : List Int64) : Outcome :=
  match hadRecords, ids with
  | false, [id] => .rowId id
  | _, ids => .rowIds ids

variable {W : Type}

/-- carries out the statement of the current kind -/
def run [Reporting W] (c : Channel W) (u : WorkUnit) : Task W Outcome :=
  match u.verb with
  | none => pure .nothing
  | some .select => do
    let rows ← u.selectPart.run c
    Task.ofExcept (shapeRows u.mode rows)
  | some .insert => do
    let ids ← u.insertPart.run c
    pure (shapeIds u.insertPart.records.isSome ids)
  | some .update => do
    let count ← u.updatePart.run c
    pure (.affected count)
  | some .delete => do
    let count ← u.deletePart.run c
    pure (.affected count)

/-- the unit after a run, whatever the run answered: the builder of the current kind is empty -/
def afterRun (u : WorkUnit) : WorkUnit :=
  match u.verb with
  | none => u
  | some .select => { u with select? := some .empty }
  | some .insert => { u with insert? := some .empty }
  | some .update => { u with update? := some .empty }
  | some .delete => { u with delete? := some .empty }

/-- carries the unit out and leaves what a run leaves of it, also after a failure -/
def runThenReset [Reporting W] (c : Channel W) : Task (WorkUnit × W) Outcome := Task.usingUp (run c) afterRun

end WorkUnit

end FluentSql
