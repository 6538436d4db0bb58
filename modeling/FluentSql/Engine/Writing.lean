import FluentSql.Engine.Reference
import FluentSql.Engine.Walk
/-!
Changing rows. A row is checked before it is stored: every value is brought to the kind of its column, then
columns that need a value, conditions, the row id and the unique groups are looked at in that order, and its
references are counted last.

A command that fails has changed nothing: it answers an error and no database. Rows are selected first and
then changed one by one, in an order that shows only where they get into each other's way (`inTurn`), so a row
is held against the rows as they are at that moment. What a change of one row
brings about in the rows that refer to it (`react`) is done before the next row is looked at.
-/

namespace FluentSql.Engine

/-- a command on the data has run -/
structure Written where
  db : Database
  /-- how many rows it touched -/
  count : Nat
  /-- the id of the last row that it inserted -/
  lastId : Option Int64

namespace StoredTable

/-! ## Checks -/

/-- the value that a column stores; a value that is no number stays as it is -/
def storeCells (t : StoredTable) (cells : List Value) : List Value :=
  List.zipWith (fun c v => c.affinity.store v) t.columns cells

/-- a column that needs a value has none -/
def checkNotNull (t : StoredTable) (cells : List Value) : Except EngineFault Unit :=
  match (t.columns.zip cells).find? fun e => e.1.notNull && e.2.isNull with
  | some e => .error (.missingValue (t.name ++ "." ++ e.1.name))
  | none => .ok ()

/-- a condition is false; an unknown one passes -/
def checkConditions (t : StoredTable) (row : Row) : Except EngineFault Unit :=
  if t.checks.any fun c => truth (c.eval [] [] [visibleCells row]) == some false then
    .error (.checkFailed t.name)
  else .ok ()

/-- rows agree in a unique group; null agrees with nothing -/
def agree (group : List GroupColumn) (a b : Row) : Bool :=
  group.all fun c =>
    let x := a.cells[c.index]?.getD .null
    let y := b.cells[c.index]?.getD .null
    !x.isNull && compareValues x y == .eq

def groupNames (t : StoredTable) (group : List GroupColumn) : String :=
  ", ".intercalate (group.filterMap fun c => t.columns[c.index]?.map fun d => t.name ++ "." ++ d.name)

/-- another row has the id, or agrees in a unique group -/
def checkUnique (t : StoredTable) (others : List Row) (row : Row) : Except EngineFault Unit :=
  if others.any fun r => r.id == row.id then .error (.notUnique (t.name ++ ".rowid"))
  else
    match t.uniques.find? fun g => others.any (agree g row) with
    | some g => .error (.notUnique (t.groupNames g))
    | none => .ok ()

/-- all checks of a row against the other rows -/
def check (t : StoredTable) (others : List Row) (row : Row) : Except EngineFault Unit := do
  t.checkNotNull row.cells
  t.checkConditions row
  t.checkUnique others row

/-- puts the id into the column that is the row id -/
def withId (t : StoredTable) (id : Int64) (cells : List Value) : Row :=
  ⟨id, match t.rowIdColumn with
    | some i => cells.set i (.integer id)
    | none => cells⟩

end StoredTable

namespace Database

/-! ## Inserts -/

/-- an unused id below the greatest one -/
def freeId (t : StoredTable) : Nat → Except EngineFault Int64
  | 0 => .error .full
  | n + 1 => if t.hasId (Int64.ofNat (n + 1)) then freeId t n else .ok (Int64.ofNat (n + 1))

/-- the id of a new row that brings none: one above the greatest, or above every id ever given -/
def nextId (db : Database) (t : StoredTable) : Except EngineFault Int64 :=
  let last := t.lastId?
  let greatest :=
    if t.autoIncrement then some (max (last.getD 0) ((db.sequence? t.name).getD 0)) else last
  match greatest with
  | none => .ok 1
  | some i =>
    if i = Int64.maxValue then
      if t.autoIncrement then .error .full else freeId t (t.rows.length + 1)
    else .ok (i + 1)

/-- the id that a new row brings, if it brings one -/
def givenId (t : StoredTable) (cells : List Value) : Except EngineFault (Option Int64) :=
  match t.rowIdColumn.bind fun i => cells[i]? with
  | none => .ok none
  | some v => match toWholeNumber v with
    | .null => .ok none
    | .integer i => .ok (some i)
    | _ => .error .kindMismatch

/-- a new row as it would be stored, and its table -/
def newRow (db : Database) (table : String) (cells : List Value) : Except EngineFault (StoredTable × Row) := do
  let t ← db.writable table
  let id ← match ← givenId t cells with
    | some i => pure i
    | none => db.nextId t
  let row := t.withId id (t.storeCells cells)
  t.check t.rows row
  return (t, row)

/-- adds one row; a `lone` one that refers to nothing is refused at once -/
def insertOne (lone : Bool) (d : Draft) (table : String) (cells : List Value) :
    Except EngineFault (Draft × Int64) := do
  let (t, row) ← newRow d.db table cells
  if lone && 0 < ((ownReferences t none).foldl (Draft.countOwn t row 1) d).unmet then throw .brokenReference
  let counted := d.countComing t row none d.db
  let stored := counted.db.setTable { t with rows := StoredTable.insertRow row t.rows }
  let noted :=
    if t.autoIncrement then
      stored.setSequence t.name (max row.id (max 0 ((d.db.sequence? t.name).getD 0)))
    else stored
  return ({ counted with db := noted }, row.id)

/-- the columns that values go to: for each column the place of its value -/
def targets (t : StoredTable) (columns : Option (List String)) : Except EngineFault (List (Option Nat)) :=
  match columns with
  | none => .ok ((List.range t.columns.length).map some)
  | some names => do
    let places ← names.mapM fun n => (t.columnIndex? n).elim (.error (.noColumn n)) .ok
    return (List.range t.columns.length).map fun i => places.findIdx? (· == i)

/-- what a column holds in a new row that brings no value for it; the row id has no default -/
def defaultAt (t : StoredTable) (index : Nat) : Value :=
  if t.rowIdColumn = some index then .null else (t.columns[index]?).elim .null TableColumn.default

/-- the cells of a new row: its values, and the defaults of the columns without one -/
def newCells (t : StoredTable) (places : List (Option Nat)) (values : List Value) : List Value :=
  places.zipIdx.map fun e => match e.1 with
    | some i => values[i]?.getD .null
    | none => defaultAt t e.2

/-- adds rows one after the other; answers the id of the last one -/
def insertRows (d : Draft) (table : String) (rows : List (List Value)) :
    Except EngineFault (Draft × Option Int64) :=
  rows.foldlM (fun r cells => do
    let (next, id) ← insertOne (rows.length == 1) r.1 table cells
    return (next, some id)) (d, none)

/-- the values of rows, which must be as many as there are columns for them -/
def evalRows (args : List Value) (width : Nat) (rows : List (List Expr)) :
    Except EngineFault (List (List Value)) :=
  rows.mapM fun es => do
    if es.length ≠ width then throw (.badStatement "wrong number of values")
    let terms ← es.mapM (·.resolve [] [] false)
    return terms.map (·.eval args [] [])

/-- the rows that an insert brings -/
def newRows (t : StoredTable) (args : List Value) (columns : Option (List String)) :
    NewRows → Except EngineFault (List (List Value))
  | .defaults => .ok [(List.range t.columns.length).map (defaultAt t)]
  | .values rows => do
    let places ← targets t columns
    let values ← evalRows args ((columns.map List.length).getD t.columns.length) rows
    return values.map (newCells t places)

def insert (db : Database) (args : List Value) (table : String) (columns : Option (List String))
    (rows : NewRows) : Except EngineFault Written := do
  let t ← db.writable table
  let cells ← newRows t args columns rows
  db.checkInsert t (cells.length == 1)
  let (d, last) ← insertRows ⟨db, 0⟩ table cells
  return ⟨← d.finish, cells.length, last⟩

/-- the deferred references of a single row that were counted before the row was refused for another one. The
count outlives the row. -/
def countBeforeRefusal (db : Database) (args : List Value) (table : String) (columns : Option (List String))
    (rows : NewRows) : Int :=
  let row : Except EngineFault (StoredTable × Row) := do
    let t ← db.writable table
    match ← newRows t args columns rows with
    | [cells] => newRow db table cells
    | _ => throw .brokenReference
  match row with
  | .error _ => 0
  | .ok (t, row) =>
    let last := (ownReferences t none).foldl
      (fun d k => if 0 < d.unmet then d else Draft.countOwn t row 1 d k) (⟨db, 0⟩ : Draft)
    if 0 < last.unmet then last.db.unmet - db.unmet else 0

/-! ## Updates and deletes -/

/-- an assignment to a column, or to the row id -/
inductive Target where
  | cell (place : Nat)
  | rowId

def targetNamed (t : StoredTable) (name : String) : Except EngineFault Target :=
  match t.columnIndex? name with
  | some i => .ok (if t.rowIdColumn = some i then .rowId else .cell i)
  | none =>
    if Scope.rowIdNames.contains (Text.lowerAscii name) then .ok .rowId else .error (.noColumn name)

/-- the place in a row that an assignment is about -/
def Target.placeIn (t : StoredTable) : Target → Nat
  | cell i => t.placeOf i
  | rowId => 0

/-- the places of the columns with some names -/
def assignedPlaces (t : StoredTable) (names : List String) : Places :=
  names.filterMap fun n => (targetNamed t n).toOption.map (·.placeIn t)

/-- a row after assignments -/
def assign (t : StoredTable) (args : List Value) (sets : List (Target × Term)) (row : Row) :
    Except EngineFault Row := do
  let old : Tuple := [StoredTable.visibleCells row]
  let cells := sets.foldl (fun cs s => match s.1 with
    | .cell i => cs.set i (s.2.eval args [] old)
    | .rowId => cs) row.cells
  let given := (sets.filter fun s => match s.1 with
    | .rowId => true
    | .cell _ => false).getLast?
  match given with
  | none => return t.withId row.id (t.storeCells cells)
  | some s => match toWholeNumber (s.2.eval args [] old) with
    | .integer i => return t.withId i (t.storeCells cells)
    | _ => throw .kindMismatch

def resolveCondition (t : StoredTable) (goesBy : String) (condition : Option Expr) :
    Except EngineFault (Option Term) :=
  match condition with
  | none => .ok none
  | some e => (e.resolve (t.scope 0 goesBy) [] false).map some

/-- the rows that satisfy a condition -/
def selected (t : StoredTable) (args : List Value) (condition : Option Term) : List Row :=
  t.rows.filter fun r => Term.holds args [] [StoredTable.visibleCells r] condition

/-- the search for the rows of a table that satisfy a condition -/
def search (t : StoredTable) (parts : List Term) : Inquiry where
  sources := [⟨t, (((parts.flatMap Term.cells).map Prod.snd).filter fun i => i != 0).eraseDups⟩]
  wanted := [0]
  opened := TableSet.single 0
  clauses := Clause.ofParts (TableSet.single 0) (parts.map (Term.withoutNullTests fun _ place => t.mayBeNull place))
  wishes := []
  purpose := .sorting
  groupsInOrder := false
  distinct := false
  limit := none
  width := 0
  changes := true
  isBranch := false

/-- the rows that satisfy a condition and have some places changed, in the order of their turns: by their ids,
unless they were found through a unique group, the change leaves the group alone, and no references are
concerned -/
def inTurn (t : StoredTable) (args : List Value) (condition : Option Term) (concern : Concern)
    (places : Places) : List Row :=
  let rows := selected t args condition
  let parts := (condition.map Term.conjuncts).getD []
  let q := search t parts
  let choice := Route.find q 0
  let staying := choice.steps.head?.any fun a => match a.way with
    | .byGroup k => (t.uniques[k]?).any fun g => g.all fun c => !places.contains (t.placeOf c.index)
    | _ => false
  if concern = .none && !places.contains 0 && staying then
    (Walk.along args q parts choice).filterMap fun tuple =>
      rows.find? fun r => (tuple.head?.bind List.head?) == some (.integer r.id)
  else rows

/-! ## Changing rows -/

/-- what is done to rows -/
inductive Edit where
  | erase
  | assign (sets : List (Target × Term))

/-- the assignment to the cell at a place -/
def Target.ofPlace : Nat → Target
  | 0 => rowId
  | place + 1 => cell place

/-- the places that an edit assigns to; a row that is erased has none -/
def Edit.places (t : StoredTable) : Edit → Option Places
  | .erase => none
  | .assign sets => some (sets.map fun s => s.1.placeIn t)

/-- what a change of a row brings about in the rows that refer to it, given the row before it and, unless it was
erased, after it -/
abbrev Reactions := Option Places → StoredTable → Row → Option Row → Draft → Except EngineFault Draft

/-- takes a row out of its table -/
def withoutRow (db : Database) (t : StoredTable) (id : Int64) : Database :=
  db.setTable { t with rows := t.rows.filter fun r => r.id != id }

/-- erases a row -/
def eraseRow (reactions : Reactions) (concern : Concern) (t : StoredTable) (row : Row) (d : Draft) :
    Except EngineFault Draft :=
  if concern = .none then .ok { d with db := withoutRow d.db t row.id }
  else
    let counted := d.countLeaving t row none
    reactions none t row none { counted with db := withoutRow counted.db t row.id }

/-- changes a row. Unless rows are taken out while they change, those that refer to the new key are looked for
among the rows as they were. -/
def assignRow (reactions : Reactions) (concern : Concern) (args : List Value) (sets : List (Target × Term))
    (t : StoredTable) (row : Row) (d : Draft) : Except EngineFault Draft := do
  let changed ← assign t args sets row
  let others := t.rows.filter fun r => r.id != row.id
  t.check others changed
  let rows := StoredTable.insertRow changed others
  if concern = .none then return { d with db := d.db.setTable { t with rows := rows } }
  else
    let places := Edit.places t (.assign sets)
    let left := d.countLeaving t row places
    let gone := { left with db := withoutRow left.db t row.id }
    let taken := concern = .deep || places.any fun ps => ps.contains 0
    let counted := gone.countComing t changed places (if taken then gone.db else left.db)
    reactions places t row (some changed) { counted with db := counted.db.setTable { t with rows := rows } }

/-- edits the rows with some ids one after the other; answers how many of them were still there -/
def editRows (reactions : Reactions) (args : List Value) (table : String) (edit : Edit) (ids : List Int64)
    (d : Draft) : Except EngineFault (Draft × Nat) := do
  let start ← d.db.writable table
  let concern := d.db.concern start (edit.places start)
  ids.foldlM (fun r id => do
    let t ← r.1.db.writable table
    match t.rows.find? fun row => row.id == id with
    | none => return r
    | some row =>
      let next ← match edit with
        | .erase => eraseRow reactions concern t row r.1
        | .assign sets => assignRow reactions concern args sets t row r.1
      return (next, r.2 + 1)) (d, 0)

/-! ## Reactions -/

/-- the value that a reaction puts into a column that refers -/
def reactionValue (how : Reaction) (child : StoredTable) (new? : Option Row) (pair : Nat × Nat) : Value :=
  match how, new? with
  | .cascade, some row => Draft.cellAt row pair.1
  | .setDefault, _ =>
    match child.columns.zipIdx.find? fun c => child.placeOf c.2 == pair.2 with
    | some c => c.1.default
    | none => .null
  | _, _ => .null

/-- the rows of a table that hold the key of a row -/
def referring (child : StoredTable) (l : Link) (row : Row) : List Row :=
  child.rows.filter fun r => l.places.all fun p =>
    relate .equal (if p.1 = 0 then some .integer else none) (some (child.affinityAt p.2)) (Draft.cellAt row p.1)
      (Draft.cellAt r p.2) == some true

/-- the reaction of one reference -/
def reactOne (inner : Reactions) (t : StoredTable) (old : Row) (new? : Option Row) (d : Draft)
    (e : StoredTable × ForeignKey) : Except EngineFault Draft :=
  let child := (d.db.table? e.1.name).getD e.1
  let how := if new?.isSome then e.2.onUpdate else e.2.onDelete
  match e.2.link? child t with
  | none => .ok d
  | some l =>
    let sameKey (new : Row) : Bool := l.places.all fun p =>
      same none none (Draft.cellAt old p.1) (Draft.cellAt new p.1)
    let rows := referring child l old
    if new?.any sameKey then .ok d
    else if how = .restrict then if rows.isEmpty then .ok d else .error .brokenReference
    else
      let edit : Edit :=
        if how = .cascade && new?.isNone then .erase
        else .assign (l.places.map fun p => (Target.ofPlace p.2, .literal (reactionValue how child new? p)))
      (editRows inner [] child.name edit (rows.map Row.id) d).map Prod.fst

/-- the reactions to a change, so many deep at most -/
def react : Nat → Reactions
  | depth, places, t, old, new?, d =>
    let reacting := (d.db.othersReferences t places).filter fun e =>
      (if new?.isSome then e.2.onUpdate else e.2.onDelete) != .wait
    match depth with
    | 0 => if reacting.isEmpty then .ok d else .error .reactionsTooDeep
    | n + 1 => reacting.foldlM (reactOne (react n) t old new?) d

/-- how deep reactions may go -/
def mostReactions : Nat := 1000

/-! ## Updates and deletes of selected rows -/

/-- updates rows one after the other, `most` of them at most -/
def updateRows (db : Database) (args : List Value) (table : String) (assignments : List (String × Expr))
    (condition : Option Expr) (most : Option Nat) : Except EngineFault (Draft × Nat) := do
  let t ← db.writable table
  let sets ← assignments.mapM fun a => do
    let target ← targetNamed t a.1
    let term ← a.2.resolve (t.scope 0 table) [] false
    return (target, term)
  let where? ← resolveCondition t table condition
  let edit := Edit.assign sets
  let places := edit.places t
  db.checkReach ⟨t.name, places⟩
  let rows := inTurn t args where? (db.concern t places) (places.getD [])
  editRows (react mostReactions) args table edit ((rows.take (most.getD rows.length)).map Row.id) ⟨db, 0⟩

def update (db : Database) (args : List Value) (table : String) (assignments : List (String × Expr))
    (condition : Option Expr) : Except EngineFault Written := do
  let (d, count) ← updateRows db args table assignments condition none
  return ⟨← d.finish, count, none⟩

/-- erases rows together with what that brings about -/
def eraseRows (db : Database) (t : StoredTable) (rows : List Row) : Except EngineFault (Draft × Nat) :=
  if db.concern t none = .none then
    let gone (r : Row) : Bool := rows.any fun s => s.id == r.id
    .ok (⟨db.setTable { t with rows := t.rows.filter fun r => !gone r }, 0⟩, rows.length)
  else editRows (react mostReactions) [] t.name .erase (rows.map Row.id) ⟨db, 0⟩

def delete (db : Database) (args : List Value) (table : String) (condition : Option Expr) :
    Except EngineFault Written := do
  let t ← db.writable table
  let where? ← resolveCondition t table condition
  db.checkReach ⟨t.name, none⟩
  let (d, count) ← eraseRows db t (selected t args where?)
  return ⟨← d.finish, count, none⟩

/-- whether a command that was refused has changed rows before -/
def changesBeforeRefusal (db : Database) (args : List Value) : DataCommand → Bool
  | .insert table columns (.values (first :: _ :: _)) =>
    let one : Except EngineFault (Draft × Option Int64) := do
      let t ← db.writable table
      (← newRows t args columns (.values [first])).foldlM (fun r cells => do
        let (next, id) ← insertOne false r.1 table cells
        return (next, some id)) ((⟨db, 0⟩ : Draft), none)
    one.isOk
  | .update table assignments condition =>
    match updateRows db args table assignments condition (some 1) with
    | .ok (_, count) => count != 0
    | .error _ => false
  | .delete _ _ => true
  | .dropTable _ _ => true
  | _ => false

/-- empties a table that is about to be dropped, if references are concerned -/
def emptyForDrop (db : Database) (t : StoredTable) : Except EngineFault Database := do
  let isParent := !(db.referencesTo t.name).isEmpty
  let isPending := db.unmet != 0 && t.references.any ForeignKey.deferred
  if isParent || isPending then
    (db.reach ⟨t.name, none⟩).forM db.checkStep
    let (d, _) ← eraseRows db t t.rows
    d.finish
  else return db

end Database

end FluentSql.Engine
