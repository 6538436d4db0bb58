import FluentSql.Engine.Database
/-!
References between rows.

A row refers to the row of a parent table whose key has the same values; where one of them is null it refers to
nothing, and nothing is amiss. References are not held against the rows one command at a time. Instead a count
is kept of the references that lead nowhere: it goes up when a row comes whose parent is missing or a row goes
that others refer to, and down when such a row goes or such a parent comes. The count must be back at zero
at the end of the command, or of the transaction if the reference is deferred (`Draft.count`).

Whether a reference makes sense at all is decided before any row is looked at (`Database.checkReach`): the parent
must exist and the columns referred to must be unique in it, for every table that a command can get to by way of
reactions.
-/

namespace FluentSql.Engine

/-! ## Where a reference leads -/

/-- what a reference compares: the places in a row of the parent with those in a row of the table itself -/
structure Link where
  /-- the key of the parent is its row id -/
  byId : Bool
  places : List (Nat × Nat)

namespace ForeignKey

/-- whether a column of the parent is the only one of a reference and is its row id -/
def meansId (k : ForeignKey) (parent : StoredTable) : Bool :=
  k.columns.length = 1 && match parent.rowIdColumn.bind fun i => parent.columns[i]?, k.parentColumns with
    | none, _ => false
    | some _, none => true
    | some c, some names => names.all fun n => Text.sameLetters n c.name

/-- the columns that stand opposite those of a unique group -/
def opposite (k : ForeignKey) (parent : StoredTable) (group : List GroupColumn) : Option (List Nat) :=
  if group.length != k.columns.length then none
  else match k.parentColumns with
    | none => if group.map GroupColumn.index == parent.primaryKey then some k.columns else none
    | some names => group.mapM fun g => do
      let c ← parent.columns[g.index]?
      let at_ ← names.findIdx? fun n => Text.sameLetters n c.name
      k.columns[at_]?

/-- where a reference of a table leads; nowhere if the columns of the parent are not unique -/
def link? (k : ForeignKey) (child parent : StoredTable) : Option Link :=
  if k.meansId parent then some ⟨true, k.columns.map fun i => (0, child.placeOf i)⟩
  else parent.uniques.reverse.findSome? fun group => do
    let columns ← k.opposite parent group
    return ⟨false, (group.map fun g => parent.placeOf g.index).zip (columns.map child.placeOf)⟩

end ForeignKey

namespace Database

/-- the references that lead to a table, each with the table it belongs to, the latest first -/
def referencesTo (db : Database) (name : String) : List (StoredTable × ForeignKey) :=
  (db.tables.flatMap fun t => (t.references.filter fun k => Text.sameLetters k.parent name).map fun k => (t, k)).reverse

end Database

/-! ## What changes -/

/-- the columns that an update assigns to, by their places -/
abbrev Places := List Nat

namespace StoredTable

/-- whether an update changes the columns of a reference -/
def changesReference (t : StoredTable) (k : ForeignKey) (places : Places) : Bool :=
  k.columns.any fun i => places.contains (t.placeOf i)

/-- whether an update changes the key that a reference leads to -/
def changesKey (t : StoredTable) (k : ForeignKey) (places : Places) : Bool :=
  t.columns.zipIdx.any fun c => places.contains (t.placeOf c.2) &&
    match k.parentColumns with
    | none => t.primaryKey.contains c.2
    | some names => names.any fun n => Text.sameLetters n c.1.name

def refersToItself (t : StoredTable) (k : ForeignKey) : Bool := Text.sameLetters k.parent t.name

end StoredTable

/-- how references are concerned by a command on the rows of a table -/
inductive Concern where
  | none
  | some
  /-- rows are taken out while they change -/
  | deep
deriving DecidableEq

namespace Database

/-- how references are concerned by an update of some places, or by a delete -/
def concern (db : Database) (t : StoredTable) (places : Option Places) : Concern :=
  let incoming := db.referencesTo t.name
  match places with
  | none => if incoming.isEmpty && t.references.isEmpty then .none else .some
  | some ps =>
    let own := t.references.filter fun k => t.changesReference k ps
    let others := incoming.filter fun e => t.changesKey e.2 ps
    if own.any t.refersToItself || others.any fun e => e.2.onUpdate != .wait then .deep
    else if own.isEmpty && others.isEmpty then .none
    else .some

/-- the own references that a command concerns; those to the table itself always count -/
def ownReferences (t : StoredTable) (places : Option Places) : List ForeignKey :=
  t.references.reverse.filter fun k => places.all fun ps => t.refersToItself k || t.changesReference k ps

/-- the references to a table that a command on it concerns -/
def othersReferences (db : Database) (t : StoredTable) (places : Option Places) : List (StoredTable × ForeignKey) :=
  (db.referencesTo t.name).filter fun e => places.all (t.changesKey e.2)

/-! ## Reach -/

/-- a command on the rows of a table: a delete, or an update of some places -/
structure Step where
  table : String
  places : Option Places
deriving DecidableEq

/-- the commands that rows refer to a table cause by their reactions -/
def consequences (db : Database) (s : Step) : List Step :=
  match db.table? s.table with
  | none => []
  | some t =>
    if db.concern t s.places = .none then []
    else (db.othersReferences t s.places).filterMap fun e =>
      let how := if s.places.isSome then e.2.onUpdate else e.2.onDelete
      if (e.2.link? e.1 t).isNone then none
      else match how with
        | .wait => none
        | .restrict => none
        | .cascade =>
          if s.places.isSome then some ⟨e.1.name, some (e.2.columns.map e.1.placeOf)⟩ else some ⟨e.1.name, none⟩
        | _ => some ⟨e.1.name, some (e.2.columns.map e.1.placeOf)⟩

/-- all commands that one can cause, those it causes directly first -/
def reach (db : Database) (s : Step) : List Step :=
  let references := db.tables.foldr (fun t n => t.references.length + n) 0
  Nat.repeat (fun known => (known ++ known.flatMap db.consequences).eraseDups) (2 * references + 1)
    (db.consequences s)

/-- the own references lead somewhere -/
def checkOwn (db : Database) (t : StoredTable) (keys : List ForeignKey) : Except EngineFault Unit :=
  keys.forM fun k =>
    if isCatalogue k.parent then .error (.referenceMismatch t.name k.parent)
    else match db.table? k.parent with
      | none => .error (.noTable k.parent)
      | some parent =>
        if (k.link? t parent).isNone then .error (.referenceMismatch t.name k.parent) else .ok ()

/-- the references to a table lead somewhere -/
def checkOthers (t : StoredTable) (keys : List (StoredTable × ForeignKey)) : Except EngineFault Unit :=
  keys.forM fun e =>
    if (e.2.link? e.1 t).isNone then .error (.referenceMismatch e.1.name t.name) else .ok ()

/-- a command that concerns references at all needs all those to its table to make sense -/
def checkStep (db : Database) (s : Step) : Except EngineFault Unit :=
  match db.table? s.table with
  | none => .ok ()
  | some t =>
    if db.concern t s.places = .none then .ok ()
    else do
      db.checkOwn t (ownReferences t s.places)
      checkOthers t (db.referencesTo t.name)

/-- a command and all that it can cause -/
def checkReach (db : Database) (s : Step) : Except EngineFault Unit := do
  db.checkStep s
  (db.reach s).forM db.checkStep

/-- an insert; a single row cannot do anything about references that are not deferred -/
def checkInsert (db : Database) (t : StoredTable) (single : Bool) : Except EngineFault Unit := do
  db.checkOwn t (ownReferences t none)
  checkOthers t ((db.othersReferences t none).filter fun e => !single || e.2.deferred)

end Database

/-! ## Counting -/

/-- a database in the middle of a command, with the number of references that lead nowhere and are not
deferred -/
structure Draft where
  db : Database
  unmet : Int

namespace Draft

/-- the references of the kind of one that lead nowhere -/
def pending (d : Draft) (k : ForeignKey) : Int := if k.deferred then d.db.unmet else d.unmet

def count (d : Draft) (k : ForeignKey) (n : Int) : Draft :=
  if k.deferred then { d with db := { d.db with unmet := d.db.unmet + n } } else { d with unmet := d.unmet + n }

/-- the cell at a place -/
def cellAt (row : Row) (place : Nat) : Value := (StoredTable.visibleCells row)[place]?.getD .null

/-- a value as the key of the parent would hold it -/
def keyValue (parent : StoredTable) (place : Nat) (v : Value) : Value :=
  let kind := parent.affinityAt place
  if kind.isNumeric then Affinity.numeric.store v else kind.store v

/-- a row is its own parent -/
def isOwnParent (l : Link) (row : Row) : Bool :=
  l.places.all fun p =>
    let v := cellAt row p.2
    if l.byId then compareValues (toWholeNumber v) (.integer row.id) == .eq
    else compareValues v (cellAt row p.1) == .eq

/-- whether a row of the parent has the key that a row refers to -/
def hasParent (parent : StoredTable) (l : Link) (row : Row) : Bool :=
  let wanted := l.places.map fun p => (p.1, keyValue parent p.1 (cellAt row p.2))
  parent.rows.any fun r => wanted.all fun w => compareValues (cellAt r w.1) w.2 == .eq

/-- whether a row refers to anything -/
def refers (child : StoredTable) (k : ForeignKey) (row : Row) : Bool :=
  k.columns.all fun i => !(cellAt row (child.placeOf i)).isNull

/-- counts the reference of a row that comes (`n` is one) or goes (minus one) if its parent is missing. A
parent that does not exist at all has no rows. -/
def countOwn (child : StoredTable) (row : Row) (n : Int) (d : Draft) (k : ForeignKey) : Draft :=
  match d.db.table? k.parent with
  | none => if refers child k row then d.count k n else d
  | some parent =>
    match k.link? child parent with
    | none => d
    | some l =>
      if n < 0 && d.pending k = 0 then d
      else if !refers child k row then d
      else if 0 < n && Text.sameLetters child.name parent.name && isOwnParent l row then d
      else if hasParent parent l row then d
      else d.count k n

/-- the rows that refer to a row of their parent -/
def children (parent child : StoredTable) (l : Link) (row : Row) : List Row :=
  child.rows.filter fun r => l.places.all fun p =>
    relate .equal (some (parent.affinityAt p.1)) (some (child.affinityAt p.2)) (cellAt row p.1) (cellAt r p.2)
      == some true

/-- counts the references to a row of the parent that goes (`n` is one) or comes (minus one); a row that goes
takes its reference to itself along. The rows that refer are looked for in `seen`, unless a unique group leads
to them. -/
def countOthers (seen : Database) (parent : StoredTable) (row : Row) (n : Int) (d : Draft)
    (e : StoredTable × ForeignKey) : Draft :=
  let indexed := e.1.uniques.any fun g => g.head?.any fun c => e.2.columns.contains c.index
  let child := ((if indexed then d.db else seen).table? e.1.name).getD e.1
  match e.2.link? child parent with
  | none => d
  | some l =>
    if n < 0 && d.pending e.2 = 0 then d
    else
      let itself (r : Row) : Bool := 0 < n && Text.sameLetters child.name parent.name && r.id == row.id
      d.count e.2 (n * (((children parent child l row).filter fun r => !itself r).length : Int))

/-- a row goes away, for good or to come back changed -/
def countLeaving (t : StoredTable) (row : Row) (places : Option Places) (d : Draft) : Draft :=
  let own := (Database.ownReferences t places).foldl (countOwn t row (-1)) d
  (d.db.othersReferences t places).foldl (countOthers d.db t row 1) own

/-- a row comes, into a database that does not have it yet -/
def countComing (t : StoredTable) (row : Row) (places : Option Places) (seen : Database) (d : Draft) : Draft :=
  let own := (Database.ownReferences t places).foldl (countOwn t row 1) d
  (d.db.othersReferences t places).foldl (countOthers seen t row (-1)) own

/-- the database at the end of a command -/
def finish (d : Draft) : Except EngineFault Database :=
  if 0 < d.unmet then .error .brokenReference else .ok d.db

end Draft

end FluentSql.Engine
