import FluentSql.Engine.Clause
import FluentSql.Engine.Estimate
/-!
Ways to read one table, and what each of them is expected to cost.

A table can be read in the order of its row ids or of a unique group, from end to end or only where clauses
ask for certain values; it can also be read branch by branch of a disjunction, or in the order of a group that
is put together for the purpose. Nothing is known of the rows beforehand, so every table is taken to have about
a million of them. A way that another one beats in every respect is forgotten (`Access.insert`).
-/

namespace FluentSql.Engine

/-! ## Widths and numbers of rows -/

namespace StoredTable

/-- how wide a row is -/
def rowWidth (t : StoredTable) : Estimate :=
  Estimate.ofAmount (4 * (t.columns.foldr (fun c n => c.width + n) 0 + if t.rowIdColumn.isNone then 1 else 0))

/-- how wide an entry of a unique group is, with its row id -/
def groupWidth (t : StoredTable) (group : List GroupColumn) : Estimate :=
  Estimate.ofAmount
    (4 * group.foldr (fun c n => (t.columns[c.index]?.map TableColumn.width).getD 1 + n) 1)

def isNotNull (t : StoredTable) (index : Nat) : Bool := t.columns[index]?.any TableColumn.notNull

/-- whether a cell may be null; the row id never is -/
def mayBeNull (t : StoredTable) : Nat → Bool
  | 0 => false
  | place + 1 => !t.isNotNull place

end StoredTable

/-- the measure of the rows of any table -/
def tableRows : Estimate := 200

/-- the measure of the rows that agree in the first columns of a unique group of some length -/
def agreeingRows (length agreed : Nat) : Estimate :=
  if agreed = 0 then tableRows
  else if length ≤ agreed then 0
  else ([33, 32, 30, 28, 26] : List Int)[agreed - 1]?.getD 23

/-! ## What is known of a read -/

/-- a table of a read -/
structure Source where
  table : StoredTable
  /-- the places of the columns that are needed, besides the row id -/
  used : List Nat

/-- a term by which rows are wanted in order -/
structure Wish where
  term : Term
  descending : Bool
  /-- null comes behind everything, or in front of it in descending order -/
  nullGreatest : Bool

/-- what order is for -/
inductive Purpose where
  | sorting
  /-- equal rows have to be neighbours, in whatever order -/
  | grouping
  /-- equal rows have to be neighbours -/
  | distinguishing
  /-- only the first row counts -/
  | extreme
deriving DecidableEq, Repr

/-- a read as far as its ways depend on it -/
structure Inquiry where
  sources : List Source
  /-- the numbers of the tables to be read -/
  wanted : List Nat
  /-- the tables that are not read yet; the rows of the others are at hand -/
  opened : TableSet
  clauses : List Clause
  wishes : List Wish
  purpose : Purpose
  /-- the rows are wanted in groups that come in order -/
  groupsInOrder : Bool
  /-- repeated rows are to be left out -/
  distinct : Bool
  /-- the measure of the most rows that are wanted -/
  limit : Option Estimate
  /-- how many columns the result has -/
  width : Nat
  /-- the rows themselves are to be changed -/
  changes : Bool
  /-- only one branch of a disjunction is read -/
  isBranch : Bool

/-! ## Ways -/

/-- the order in which a way goes through the rows -/
inductive Way where
  | byId
  /-- by a unique group, counted in the order of definition -/
  | byGroup (number : Nat)
  /-- by a group that is put together for one read -/
  | byNewGroup
  | byBranches
deriving DecidableEq, Repr

structure Access where
  /-- the number of the table -/
  table : Nat
  way : Way
  /-- ways of different slots do not compete: their orders serve different wishes -/
  slot : Nat
  /-- the clauses that guide the reading -/
  clauses : List Clause
  /-- how many columns of the group are asked for single values -/
  equalities : Nat
  lower : Option Clause
  upper : Option Clause
  asksEqual : Bool
  asksRange : Bool
  asksChoices : Bool
  asksNull : Bool
  /-- at most one row is found -/
  oneRow : Bool
  /-- the group holds all columns that are needed -/
  covering : Bool
  /-- the tables that must have been read before -/
  needs : TableSet
  /-- the cost before the first row, of one run, and how many rows it yields -/
  setup : Estimate
  run : Estimate
  rows : Estimate

namespace Access

def start (table : Nat) (way : Way) (slot : Nat) (covering : Bool) : Access :=
  ⟨table, way, slot, [], 0, none, none, false, false, false, false, false, covering, 0, 0, 0, tableRows⟩

def byGroup? (a : Access) : Bool :=
  match a.way with
  | .byGroup _ => true
  | _ => false

/-- whether clauses guide the reading within an order -/
def isGuided (a : Access) : Bool := a.asksEqual || a.asksRange || a.asksChoices || a.asksNull

def self (a : Access) : TableSet := TableSet.single a.table

/-! ## Clauses for a column -/

/-- the right side of a clause, if it is a column -/
def rightCell (c : Clause) : Option (Nat × Nat) := (Clause.right? c.term).bind Clause.freeCell?

/-- the comparison needs no conversion that the order of a column of some kind would not follow -/
def suits (kind : Affinity) (c : Clause) : Bool :=
  let left := match c.term with
    | .oneOf t _ => t.affinity
    | t => (Clause.sides? t).bind fun s => s.1.affinity
  let right := (Clause.right? c.term).bind Term.affinity
  match commonKind left right with
  | some .text => kind == .text
  | some .blob => true
  | some _ => kind.isNumeric
  | none => true

/-- whether a clause equates a column with itself -/
def isIdle (column : Nat × Nat) (c : Clause) : Bool :=
  c.probe.any Probe.isEquality && (Clause.right? c.term).bind Clause.cell? == some column

/-- how many columns may stand for one another in the search for clauses -/
def mostEquals : Nat := 11

/-- one step of the search: the columns that stand for each other so far, and the clauses found -/
def look (column wanted : Nat × Nat) (kind : Option Affinity) (asks : Probe → Bool)
    (found : List (Nat × Nat) × List Clause) (c : Clause) : List (Nat × Nat) × List Clause :=
  if c.column != some wanted then found
  else
    let equals := match c.equates, rightCell c with
      | true, some x => if found.1.length < mostEquals && !found.1.contains x then found.1 ++ [x] else found.1
      | _, _ => found.1
    let fits := c.probe.any asks && (c.probe == some .isNull || kind.all fun k => suits k c)
      && !isIdle column c
    (equals, if fits then found.2 ++ [c] else found.2)

/-- the clauses that ask something of a column or of one that equals it. `kind` is the kind of a column by
which rows are kept in order; the order of row ids has none. -/
def clausesFor (clauses : List Clause) (column : Nat × Nat) (kind : Option Affinity) (asks : Probe → Bool) :
    List Clause :=
  go mostEquals 0 [column]
where
  go : Nat → Nat → List (Nat × Nat) → List Clause
    | 0, _, _ => []
    | fuel + 1, i, equals =>
      match equals[i]? with
      | none => []
      | some wanted =>
        let (equals, found) := clauses.foldl (look column wanted kind asks) (equals, [])
        found ++ go fuel (i + 1) equals

/-- the clause that fixes a column best, given the tables that are still to be read -/
def fixing? (clauses : List Clause) (column : Nat × Nat) (kind : Option Affinity) (asks : Probe → Bool)
    (unread : TableSet) : Option Clause :=
  let ready := (clausesFor clauses column kind asks).filter fun c => !c.right.meets unread
  let isConstant (c : Clause) : Bool := c.right == 0 && c.probe.any fun p => p.isEquality && asks p
  (ready.find? isConstant).or ready.head?

/-! ## Rows -/

/-- whether a term is one of the whole numbers that are taken to be common -/
def isCommonNumber : Term → Bool
  | .literal (.integer i) => -1 ≤ i && i ≤ 1
  | .plus t => isCommonNumber t
  | .negate t => isCommonNumber t
  | _ => false

/-- whether a clause is used by an access, itself or in a derived form -/
def isUsed (a : Access) (c : Clause) : Bool :=
  a.clauses.any fun d => d.id == c.id || d.parent == some c.id

/-- the rows that are left when the clauses are held against them that the way itself does not respect -/
def withOutput (own : List Clause) (a : Access) : Access :=
  let others := own.filter fun c =>
    !c.derived && c.tables.within (a.needs ||| a.self) && c.tables.meets a.self && !a.isUsed c
  let reduction : Estimate := others.foldl (fun m c =>
    if c.probe.any Probe.isEquality then
      max m (if (Clause.right? c.term).any isCommonNumber then 10 else 20)
    else m) 0
  { a with rows := min (a.rows - others.length) (tableRows - reduction) }

/-- the rows within bounds, out of a number of rows -/
def rowsWithin (rows : Estimate) (lower upper : Option Clause) : Estimate :=
  let bound (c : Option Clause) : Estimate := if c.any fun c => !c.bare then 20 else 0
  let both : Estimate := if lower.isSome && upper.isSome then 20 else 0
  let given : Estimate := (if lower.isSome then 1 else 0) + (if upper.isSome then 1 else 0)
  min (max 10 (rows - bound lower - bound upper - both)) (rows - given)

/-! ## Searching in an order -/

/-- an order of rows in which can be searched -/
structure Keyed where
  /-- the columns of the order, a row id without a number -/
  columns : List (Option Nat)
  /-- how many columns make a row unique -/
  length : Nat
  width : Estimate
  /-- none of the columns that make a row unique may be null -/
  withoutNull : Bool

def Keyed.ofId : Keyed := ⟨[none], 1, 3, true⟩

def Keyed.ofGroup (t : StoredTable) (group : List GroupColumn) : Keyed :=
  ⟨group.map (fun c => some c.index) ++ [none], group.length, t.groupWidth group,
    group.all fun c => t.isNotNull c.index⟩

/-- the cost of going through some rows of an order -/
def walkCost (t : StoredTable) (k : Keyed) (way : Way) (rows : Estimate) : Estimate :=
  if way = .byId then rows + 16 else rows + 1 + 15 * k.width / t.rowWidth

/-- the access that also respects one more clause for the next column, before its cost is known, with the
measure of its choices -/
def asking (a : Access) (k : Keyed) (column : Option Nat) (chosen : Estimate) (c : Clause) : Access × Estimate :=
  let next := { a with
    clauses := a.clauses ++ [c]
    needs := TableSet.without (a.needs ||| c.right) a.self }
  let counted (b : Access) (extra : Estimate) : Access :=
    { b with
      equalities := a.equalities + 1
      rows := a.rows + agreeingRows k.length (a.equalities + 1) - agreeingRows k.length a.equalities + extra }
  let last := column.isSome && chosen = 0 && a.equalities + 1 = k.length
  let alone (p : Probe) : Bool :=
    column.isNone || (last && (k.withoutNull || (k.length = 1 && p == .equal)))
  match c.probe with
  | some .oneOf =>
    let choices := match c.term with
      | .oneOf _ cs => Estimate.ofAmount cs.length
      | _ => 0
    (counted { next with asksChoices := true } 0, choices)
  | some .isNull => (counted { next with asksNull := true } 10, 0)
  | some p =>
    if p.isEquality then (counted { next with asksEqual := true, oneRow := a.oneRow || alone p } 0, 0)
    else
      let lower := if p.isLower then some c else a.lower
      let upper := if p.isLower then none else some c
      ({ next with asksRange := true, lower := lower, upper := upper, rows := rowsWithin a.rows lower upper }, 0)
  | none => (next, 0)

/-- all ways to search in an order, each with one clause more than the one it is built on. `own` are the
clauses whose effect on the rows is counted, `clauses` all that may guide; `chosen` is the measure of the
choices so far. -/
def searches (t : StoredTable) (own clauses : List Clause) (k : Keyed) : Nat → Access → Estimate → List Access
  | 0, _, _ => []
  | fuel + 1, a, chosen =>
    match k.columns[a.equalities]? with
    | none => []
    | some column =>
      let place := (column.map t.placeOf).getD 0
      let kind := if place = 0 then none else (column.bind fun i => t.columns[i]?).map TableColumn.affinity
      let asks (p : Probe) : Bool := a.lower.isNone || p.isUpper
      let neverNull := (column.map t.isNotNull).getD true
      let usable := (clausesFor clauses (a.table, place) kind asks).filter fun c =>
        !((c.probe == some .isNull || c.bare) && neverNull) && !c.right.meets a.self
      usable.flatMap fun c =>
        let (b, choices) := asking a k column chosen c
        let walked := Estimate.plus (Estimate.steps tableRows) (walkCost t k a.way b.rows)
        let run := if b.covering || a.way = .byId then walked else Estimate.plus walked (b.rows + 16)
        let found := { b with run := run + chosen + choices, rows := b.rows + chosen + choices }
        let more := if b.upper.isSome then []
          else searches t own clauses k fuel { b with rows := if b.asksRange then a.rows else b.rows }
            (chosen + choices)
        withOutput own found :: more

/-! ## Reading from end to end -/

/-- whether the order of some columns serves a wish -/
def servesWish (wishes : List Wish) (table : Nat) (places : List Nat) : Bool :=
  wishes.any fun w => match w.term with
    | .column t i _ => t == table && (i == 0 || places.contains i)
    | _ => false

/-- the cost of looking up the rows of a group in the table, apart from those that the clauses rule out
before -/
def lookupCost (q : Inquiry) (table : Nat) (places : List Nat) : Estimate :=
  let covered (c : Clause) : Bool :=
    c.term.cells.all fun x => x.1 != table || x.2 == 0 || places.contains x.2
  (q.clauses.takeWhile covered).foldl
    (fun cost c => cost - (if c.probe.any Probe.isEquality then 20 else 1)) (tableRows + 16)

/-- a whole group from end to end, if that can be of use -/
def wholeGroup (q : Inquiry) (s : Source) (own : List Clause) (k : Keyed) (a : Access) (served : Bool) :
    List Access :=
  let places := k.columns.filterMap fun c => c.map s.table.placeOf
  let narrow := decide (k.width < s.table.rowWidth)
  if served || (a.covering && narrow && !q.changes) then
    let run := walkCost s.table k a.way tableRows
    let run := if a.covering then run else Estimate.plus run (lookupCost q a.table places)
    [withOutput own { a with run := run }]
  else []

/-- the ways through a group that is put together for the read: one for each equality with another table -/
def newGroups (s : Source) (table : Nat) (own : List Clause) : List Access :=
  let leads (place : Nat) : Bool :=
    s.table.uniques.any fun g => (g.head?.map fun c => s.table.placeOf c.index) == some place
  let drives (c : Clause) : Bool :=
    match c.column with
    | some (t, place + 1) =>
      t == table && c.probe.any Probe.isEquality && !c.right.meets (TableSet.single table)
        && (s.table.columns[place]?.any fun col => suits col.affinity c) && !leads (place + 1)
    | _ => false
  let setup := Estimate.steps tableRows + tableRows + 28
  (own.filter drives).map fun c =>
    { start table .byNewGroup 0 false with
      clauses := [c], equalities := 1, needs := c.right, setup := setup, rows := 43
      run := Estimate.plus (Estimate.steps tableRows) 43 }

/-- the ways to read a table under some clauses, in the order in which they are weighed; `own` are the clauses
of the part of the condition that is looked at, `around` those around it -/
def candidates (q : Inquiry) (s : Source) (table : Nat) (own around : List Clause) (alone : Bool) : List Access :=
  let all := own ++ around
  let fuel := 2 * (s.table.columns.length + 4)
  let byId := start table .byId (if servesWish q.wishes table [] then 1 else 0) false
  let ofId := withOutput own { byId with run := tableRows + 16 } :: searches s.table own all Keyed.ofId fuel byId 0
  let groups := s.table.uniques.zipIdx.reverse.zipIdx
  let ofGroups := groups.flatMap fun e =>
    let k := Keyed.ofGroup s.table e.1.1
    let places := e.1.1.map fun c => s.table.placeOf c.index
    let served := servesWish q.wishes table places
    let covering := s.used.all places.contains
    let a := start table (.byGroup e.1.2) (if served then e.2 + 2 else 0) covering
    wholeGroup q s own k a served ++ searches s.table own all k fuel a 0
  (if alone then newGroups s table own else []) ++ ofId ++ ofGroups

/-! ## Choosing among the ways of one table -/

/-- whether one way is a search that respects less than another and yet is taken to be no dearer -/
def isCheaperPart (a b : Access) : Bool :=
  if b.run < a.run && b.rows < a.rows then false
  else if a.equalities < b.equalities && a.way == b.way then true
  else
    decide (a.clauses.length < b.clauses.length)
      && (a.clauses.all fun c => b.clauses.any fun d => d.id == c.id)
      && !(a.covering && !b.covering)

/-- keeps the costs of a new way in line with those of the ways that respect less or more than it does -/
def inLine (known : List Access) (a : Access) : Access :=
  if !a.byGroup? then a
  else known.foldl (fun a b =>
    if b.table != a.table || !b.byGroup? then a
    else if isCheaperPart b a then { a with run := min b.run a.run, rows := min (b.rows - 1) a.rows }
    else if isCheaperPart a b then { a with run := max b.run a.run, rows := max (b.rows + 1) a.rows }
    else a) a

/-- what becomes of a known way when a new one arrives -/
inductive Verdict where
  /-- the new way is no better -/
  | refuse
  /-- the new way takes its place -/
  | replace
  | keep
deriving DecidableEq

def verdict (known new : Access) : Verdict :=
  if known.table != new.table || known.slot != new.slot then .keep
  else if known.way == .byNewGroup && new.byGroup? && new.asksEqual
      && TableSet.within new.needs known.needs then .replace
  else if TableSet.within known.needs new.needs && known.setup ≤ new.setup && known.run ≤ new.run
      && known.rows ≤ new.rows then .refuse
  else if TableSet.within new.needs known.needs && new.run ≤ known.run && new.rows ≤ known.rows then .replace
  else .keep

/-- removes the ways that a new one takes the place of, up to the first that is better -/
def withoutWorse (new : Access) : List Access → List Access
  | [] => []
  | a :: rest =>
    match verdict a new with
    | .refuse => a :: rest
    | .replace => withoutWorse new rest
    | .keep => a :: withoutWorse new rest

/-- adds a way to the known ones: in the place of the first that it beats, or at the end -/
def place (new : Access) : List Access → List Access
  | [] => [new]
  | a :: rest =>
    match verdict a new with
    | .refuse => a :: rest
    | .replace => new :: withoutWorse new rest
    | .keep => a :: place new rest

def insert (known : List Access) (new : Access) : List Access := place (inLine known new) known

/-! ## Disjunctions -/

/-- what reading all branches of a disjunction costs -/
structure Sum where
  needs : TableSet
  run : Estimate
  rows : Estimate

/-- how many sums are kept -/
def mostSums : Nat := 3

/-- the position of the least cost, the first one of several -/
def cheapest (sums : List Sum) : Nat :=
  (sums.zipIdx.foldl (fun (best : Option (Sum × Nat)) e => match best with
    | none => some e
    | some b => if e.1.run < b.1.run then some e else best) none).elim 0 Prod.snd

/-- adds a sum to the best ones -/
def addSum (sums : List Sum) (s : Sum) : List Sum :=
  let takes (i : Nat) : List Sum := sums.modify i fun o => { s with rows := min o.rows s.rows }
  let settles (o : Sum) : Bool :=
    (s.run ≤ o.run && TableSet.within s.needs o.needs) || (o.run ≤ s.run && TableSet.within o.needs s.needs)
  match sums.zipIdx.find? fun e => settles e.1 with
  | some (o, i) => if s.run ≤ o.run && TableSet.within s.needs o.needs then takes i else sums
  | none =>
    if sums.length < mostSums then sums ++ [s]
    else
      let i := cheapest sums
      if sums[i]?.any fun o => o.run ≤ s.run then sums else takes i

/-- adds a way to the sums if clauses guide it -/
def addSumOf (known : List Access) (sums : List Sum) (a : Access) : List Sum :=
  if a.clauses.isEmpty then sums
  else
    let b := inLine known a
    addSum sums ⟨b.needs, b.run, b.rows⟩

/-- every sum of one list with every sum of the other -/
def addSums (before now : List Sum) : List Sum :=
  before.foldl (fun sums a => now.foldl (fun sums b =>
    addSum sums ⟨a.needs ||| b.needs, Estimate.plus a.run b.run, Estimate.plus a.rows b.rows⟩) sums) []

/-- reading a table branch by branch, at the cost of a sum; reading all branches is a little dearer than the
dearest one -/
def ofSum (table : Nat) (c : Clause) (s : Sum) : Access :=
  { start table .byBranches 0 false with
    clauses := [c], needs := s.needs, run := s.run + 1, rows := s.rows }

/-- the costs of reading a table by the branches of a disjunction -/
def sumsOf (q : Inquiry) (s : Source) (table : Nat) (known : List Access) :
    Nat → List Clause → Clause → List Sum
  | 0, _, _ => []
  | fuel + 1, around, c =>
    let isPart (b : Clause) : Bool := b.form == .both || (b.column.map Prod.fst) == some table
    let ofBranch (b : Clause) : List Sum :=
      let own := if b.form = .both then b.branches else [b]
      let direct := (candidates q s table own around false).foldl (addSumOf known) []
      (own.filter fun d => d.form == .either && d.indexable.meets (TableSet.single table)).foldl
        (fun sums d =>
          ((sumsOf q s table known fuel (own ++ around) d).map (ofSum table d)).foldl (addSumOf known) sums)
        direct
    match (c.branches.filter isPart).map ofBranch with
    | [] => []
    | first :: rest =>
      if first.isEmpty || rest.any List.isEmpty then [] else rest.foldl addSums first

/-- adds the ways to read a table by branches -/
def withBranches (q : Inquiry) (s : Source) (table : Nat) (known : List Access) : List Access :=
  (q.clauses.filter fun c => c.form == .either && c.indexable.meets (TableSet.single table)).foldl
    (fun known c =>
      ((sumsOf q s table known (c.term.size + 1) q.clauses c).map (ofSum table c)).foldl insert known)
    known

/-- the slot of the way through a table that is weighed last -/
def lastSlot (q : Inquiry) (s : Source) (table : Nat) : Nat :=
  match s.table.uniques with
  | [] => if servesWish q.wishes table [] then 1 else 0
  | g :: _ =>
    if servesWish q.wishes table (g.map fun c => s.table.placeOf c.index) then s.table.uniques.length + 1 else 0

/-- adds the ways to read one table; `slot` is that of the last way before -/
def ofTable (q : Inquiry) (known : List Access × Nat) (table : Nat) : List Access × Nat :=
  match q.sources[table]? with
  | none => known
  | some s =>
    let direct := (candidates q s table q.clauses [] (!q.isBranch)).foldl insert known.1
    (withBranches q s table direct, lastSlot q s table)

/-- the ways to read the tables that are wanted -/
def all (q : Inquiry) : List Access := (q.wanted.foldl (ofTable q) ([], 0)).1

end Access

end FluentSql.Engine
