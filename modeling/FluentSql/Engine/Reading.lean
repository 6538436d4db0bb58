import FluentSql.Engine.Walk
import FluentSql.Rows
/-!
Carrying out a read: the rows of its tables that satisfy the condition, put into groups if functions of a
group occur, cut to the output columns, without repetitions if asked for, sorted, and counted off.

Names are looked up before any row is read, so a read that names nothing wrong cannot fail for its rows. The
order in which rows are visited is that of a route through the tables; it shows where nothing else orders the
result, and in the rows that stand for their groups.
-/

namespace FluentSql.Engine

namespace Reading

/-! ## Looking up -/

/-- a result column: its name and its term -/
structure Result where
  name : String
  /-- the name that later clauses may use -/
  alias? : Option String
  term : Term
deriving Inhabited

/-- every column in sight, or those of one table; among several tables each column goes by the name of its
table, which must tell it from all others -/
def starResults (s : Scope) (table : Option String) : Except EngineFault (List Result) :=
  let picked := s.filter fun v => !v.isRowId && Scope.fits table v
  let several := s.any fun v => v.table != 0
  match picked, table with
  | [], some t => .error (.noTable t)
  | [], none => .error (.badStatement "no tables specified")
  | _, _ => picked.mapM fun v =>
    if several && 1 < (s.find (some v.goesBy) v.name).length then .error (.ambiguousColumn v.name)
    else .ok ⟨v.name, none, .column v.table v.place v.affinity⟩

/-- a column goes by its own name, any other expression by its text -/
def resultName (s : Scope) (alias? : Option String) (t : Term) (text : String) : String :=
  match alias?, t with
  | some a, _ => a
  | none, .column table place _ => (s.nameOf? table place).getD text
  | none, _ => text

def resolveOutput (s : Scope) : Output → Except EngineFault (List Result)
  | .all table => starResults s table
  | .expr e a text => do
    let t ← e.resolve s [] true
    return [⟨resultName s a t text, a, t⟩]

/-- the results that later clauses may use by name -/
def aliases (results : List Result) : List (String × Term) :=
  results.filterMap fun r => r.alias?.map fun a => (a, r.term)

/-- a term of a clause that sorts or groups: a whole number is the place of a result column -/
def resolveKey (s : Scope) (results : List Result) (aliasFirst grouped : Bool) (e : Expr) :
    Except EngineFault Term :=
  match e with
  | .literal (.integer i) =>
    match if i < 1 then none else results[i.toInt.toNat - 1]? with
    | some r => .ok r.term
    | none => .error (.badStatement "term out of range")
  | .name none c q =>
    match if aliasFirst then (aliases results).find? fun a => Text.sameLetters a.1 c else none with
    | some a => .ok a.2
    | none => (Expr.name none c q).resolve s (aliases results) grouped
  | e => e.resolve s (aliases results) grouped

/-- a key to sort by, with the direction and the place of null -/
structure Key where
  term : Term
  descending : Bool
  nullsFirst : Bool

def resolveSortKey (s : Scope) (results : List Result) (k : SortKey) : Except EngineFault Key := do
  let t ← resolveKey s results true true k.expr
  return ⟨t, k.descending, k.nullsFirst.getD (!k.descending)⟩

/-- a read with all names looked up -/
structure Plan where
  distinct : Bool
  results : List Result
  tables : List StoredTable
  condition : Option Term
  groupBy : List Term
  having : Option Term
  orderBy : List Key
  limit : Option Term
  offset : Option Term
  /-- whether rows are put into groups -/
  grouped : Bool

def resolveOption (s : Scope) (known : List (String × Term)) (grouped : Bool) :
    Option Expr → Except EngineFault (Option Term)
  | none => .ok none
  | some e => (e.resolve s known grouped).map some

/-- the most columns of a result, and the most terms of a clause -/
def mostTerms : Nat := 2000

/-- the most tables that are read together -/
def mostTables : Nat := 64

/-- looks all names up -/
def plan (db : Database) (r : Reading) : Except EngineFault Plan := do
  let tables ← r.tables.mapM fun t => db.readable t.1
  let scope : Scope := (tables.zip r.tables).zipIdx.flatMap fun e => e.1.1.scope e.2 e.1.2.2
  let results := (← r.outputs.mapM (resolveOutput scope)).flatten
  let known := aliases results
  let condition ← resolveOption scope known false r.condition
  let groupBy ← r.groupBy.mapM (resolveKey scope results false false)
  let having ← resolveOption scope known true r.having
  let orderBy ← r.orderBy.mapM (resolveSortKey scope results)
  let limit ← resolveOption [] [] false r.limit
  let offset ← resolveOption [] [] false r.offset
  if mostTables < tables.length then throw (.badStatement "too many tables in a join")
  if [results.length, groupBy.length, orderBy.length].any fun n => mostTerms < n then
    throw (.badStatement "too many columns or terms")
  let hasFunctions := results.any fun x => x.term.isGrouped
  let grouped := !groupBy.isEmpty || hasFunctions || orderBy.any fun k => k.term.isGrouped
  if having.isSome && !grouped then throw (.badStatement "HAVING clause on a non-aggregate query")
  if condition.any Term.isGrouped then throw (.badStatement "misuse of aggregate")
  return ⟨r.distinct, results, tables, condition, groupBy, having, orderBy, limit, offset, grouped⟩

/-! ## Asking for a route -/

/-- all terms of a read -/
def Plan.terms (p : Plan) : List Term :=
  p.results.map Result.term ++ p.condition.toList ++ p.groupBy ++ p.having.toList ++ p.orderBy.map Key.term

/-- the tables with the columns that are needed -/
def Plan.sources (p : Plan) : List Source :=
  let cells := p.terms.flatMap Term.cells
  p.tables.zipIdx.map fun e =>
    ⟨e.1, ((cells.filter fun c => c.1 == e.2 && c.2 != 0).map Prod.snd).eraseDups⟩

/-- the parts of the condition that all must hold. Parts of a condition on groups that speak only of what rows
are grouped by may as well be held against the rows. -/
def Plan.parts (p : Plan) : List Term :=
  let ofRows := (p.condition.map Term.conjuncts).getD []
  let shared (t : Term) : Bool :=
    !t.isGrouped && ((t.replace fun u => if p.groupBy.any u.alike then some (.literal .null) else none).isConstant)
  let ofGroups := (p.having.map Term.conjuncts).getD []
  if p.groupBy.isEmpty then ofRows else ofRows ++ ofGroups.filter shared

/-- the parts of the condition as clauses -/
def Plan.clauses (p : Plan) : List Clause :=
  let mayBeNull (table place : Nat) : Bool := (p.tables[table]?).any fun t => t.mayBeNull place
  let parts := p.parts.map (Term.withoutNullTests mayBeNull)
  Clause.ofParts (2 ^ p.tables.length - 1) (Term.pinnedParts parts)

/-- a whole number that is written out -/
def writtenNumber? : Term → Option Int
  | .literal (.integer i) => some i.toInt
  | .plus t => writtenNumber? t
  | .negate t => (writtenNumber? t).map (-·)
  | _ => none

/-- the measure of the most rows that are wanted, if their number is written out -/
def Plan.limitEstimate (p : Plan) : Option Estimate :=
  match p.limit.bind writtenNumber? with
  | some n => if 0 < n ∧ n < (2 ^ 31 : Nat) then some (Estimate.ofAmount n.toNat) else none
  | none => none

/-- a read for which no order is wished -/
def Plan.inquiry (p : Plan) : Inquiry where
  sources := p.sources
  wanted := List.range p.tables.length
  opened := 2 ^ p.tables.length - 1
  clauses := p.clauses
  wishes := []
  purpose := .sorting
  groupsInOrder := false
  distinct := false
  limit := none
  width := p.results.length
  changes := false
  isBranch := false

def Key.wish (k : Key) : Wish := ⟨k.term, k.descending, k.descending == k.nullsFirst⟩

/-- a key in ascending order -/
def Key.ascending (t : Term) : Key := ⟨t, false, true⟩

/-- whether two lists of keys ask for the same order -/
def Key.sameOrder (a b : List Key) : Bool :=
  a.length == b.length && (a.zip b).all fun e =>
    e.1.term.alike e.2.term && e.1.descending == e.2.descending && e.1.nullsFirst == e.2.nullsFirst

/-- whether rows of a single table cannot repeat in the result: it shows the row id, or all columns of a unique
group that are not fixed by the condition -/
def Plan.cannotRepeat (p : Plan) : Bool :=
  let shown (place : Nat) : Bool := p.results.any fun r => match r.term with
    | .column _ i _ => i == place
    | _ => false
  match p.tables with
  | [t] =>
    shown 0 || t.uniques.any fun g => g.all fun c =>
      let place := t.placeOf c.index
      let kind := if place = 0 then none else (t.columns[c.index]?).map TableColumn.affinity
      (Access.fixing? p.clauses (0, place) kind (· == .equal) 0).isSome
        || (shown place && t.isNotNull c.index)
  | _ => false

/-- what a read without groups asks for -/
def Plan.plainInquiry (p : Plan) : Inquiry :=
  let q := { p.inquiry with
    wishes := p.orderBy.map Key.wish, distinct := p.distinct, limit := p.limitEstimate }
  if p.distinct && p.orderBy.isEmpty && !p.cannotRepeat then
    { q with wishes := p.results.map fun r => (Key.ascending r.term).wish, purpose := .distinguishing }
  else q

/-- a distinct read that is sorted by all its results groups its rows by them -/
def Plan.groupsResults (p : Plan) : Bool :=
  p.distinct && !p.grouped && Key.sameOrder p.orderBy (p.results.map fun r => Key.ascending r.term)

/-- the keys of the groups. If there are as many keys to sort by, groups come in their directions. -/
def Plan.groupKeys (p : Plan) : List Key :=
  let terms := if p.groupsResults then p.results.map Result.term else p.groupBy
  let directions := p.orderBy.map Key.descending
  if terms.length == directions.length then
    List.zipWith (fun t d => ⟨t, d, !d⟩) terms directions
  else terms.map Key.ascending

/-- what a read with groups asks for -/
def Plan.groupInquiry (p : Plan) : Inquiry :=
  { p.inquiry with
    wishes := p.groupKeys.map Key.wish
    purpose := if p.groupsResults then .distinguishing else .grouping
    groupsInOrder := Key.sameOrder p.groupKeys p.orderBy }

/-- the functions of a group, in the order of the clauses, each once -/
def Plan.functions (p : Plan) : List (Aggregate × Option Term) :=
  let all := p.results.map Result.term ++ p.orderBy.map Key.term ++ p.having.toList
  let found := all.flatMap fun t => t.gather fun u => match u with
    | .aggregate f t => [(f, some t)]
    | .countAll => [(.count, none)]
    | _ => []
  let same (a b : Aggregate × Option Term) : Bool :=
    a.1 == b.1 && match a.2, b.2 with
      | some x, some y => x.alike y
      | none, none => true
      | _, _ => false
  found.foldl (fun known f => if known.any (same f) then known else known ++ [f]) []

/-- whether a term may be null -/
def Plan.mayBeNull (p : Plan) : Term → Bool
  | .column table place _ => (p.tables[table]?).any fun t => t.mayBeNull place
  | .literal v => v.isNull
  | _ => true

/-- what a read of a single group asks for: if only a least or a greatest value is wanted, it may come first -/
def Plan.singleInquiry (p : Plan) : Inquiry :=
  match p.functions, p.having with
  | [(.least, some t)], none =>
    { p.inquiry with wishes := [⟨t, false, p.mayBeNull t⟩], purpose := .extreme }
  | [(.greatest, some t)], none => { p.inquiry with wishes := [⟨t, true, false⟩], purpose := .extreme }
  | _, _ => p.inquiry

/-! ## Rows -/

/-- the rows along the route that a question leads to, and the route -/
def Plan.visit (args : List Value) (p : Plan) (q : Inquiry) : List Tuple × Route.Choice :=
  let choice := Route.find q 0
  (Walk.along args q p.parts choice, choice)

/-! ## Order -/

/-- two values under a key -/
def Key.compare (k : Key) (a b : Value) : Ordering :=
  match a.isNull, b.isNull with
  | true, true => .eq
  | true, false => if k.nullsFirst then .lt else .gt
  | false, true => if k.nullsFirst then .gt else .lt
  | false, false => if k.descending then (compareValues a b).swap else compareValues a b

def compareKeys : List Key → List Value → List Value → Ordering
  | k :: ks, a :: as, b :: bs => (k.compare a b).then (compareKeys ks as bs)
  | _, _, _ => .eq

/-! ## Groups -/

/-- a row of each table with the group that it stands for -/
structure Context where
  group : List Tuple
  row : Tuple

/-- splits rows where their keys change -/
def splitGroups (key : Tuple → List Value) : List Tuple → List (List Tuple)
  | [] => []
  | row :: rest =>
    match splitGroups key rest with
    | (next :: group) :: more =>
      if compareRows (key row) (key next) == .eq then (row :: next :: group) :: more
      else [row] :: (next :: group) :: more
    | groups => [row] :: groups

/-- the row that stands for a group: the first one, or the one that brought the least or the greatest value -/
def Plan.standFor (args : List Value) (p : Plan) (group : List Tuple) : Tuple :=
  let extreme := (p.functions.filter fun f => f.1 == .least || f.1 == .greatest).getLast?
  match extreme with
  | some (f, some t) =>
    (group.foldl (fun (best : Option (Value × Tuple)) row =>
      let v := t.eval args [] row
      match best with
      | none => some (v, row)
      | some (m, _) =>
        if m.isNull || (!v.isNull && Term.isBetter f m v) then some (v, row) else best) none).elim [] Prod.snd
  | _ => group.head?.getD []

/-- the rows in groups: neighbours with the same keys once equal keys are neighbours -/
def Plan.groups (args : List Value) (p : Plan) : List (List Tuple) :=
  let keys := p.groupKeys
  let key (row : Tuple) : List Value := keys.map fun k => k.term.eval args [] row
  let (rows, choice) := p.visit args p.groupInquiry
  let together := if choice.ordered then rows
    else rows.mergeSort fun a b => compareKeys keys (key a) (key b) != .gt
  splitGroups key together

/-- the first rows along a route: the very first one, or one for each of the values that a table is searched
for -/
def firstRows (choice : Route.Choice) (rows : List Tuple) : List Tuple :=
  let searched := (choice.steps.zipIdx.filter fun e => e.1.asksChoices).getLast?
  match searched with
  | none => rows.take 1
  | some (a, i) =>
    let cell (row : Tuple) (c : Nat × Nat) : Value := (row[c.1]?.bind fun r => r[c.2]?).getD .null
    let before := (choice.steps.take i).map fun s => (s.table, 0)
    let chosen := (a.clauses.filter fun c => c.probe == some .oneOf).filterMap Clause.column
    (splitGroups (fun row => (before ++ chosen).map (cell row)) rows).filterMap List.head?

/-- the rows of a single group; if the value that is wanted comes first, the rest is not looked at, and null
comes behind everything -/
def Plan.singleGroup (args : List Value) (p : Plan) : List Tuple :=
  let q := p.singleInquiry
  let (rows, choice) := p.visit args q
  let known (row : Tuple) : Bool := q.wishes.any fun w => !(w.term.eval args [] row).isNull
  if q.purpose = .extreme && choice.ordered then
    firstRows choice (if rows.any known then rows.filter known else rows)
  else rows

/-- the rows, or groups of rows, that output is made of; without keys all rows make one group -/
def Plan.contexts (args : List Value) (p : Plan) : List Context :=
  if p.grouped then
    let groups := if p.groupBy.isEmpty then [p.singleGroup args] else p.groups args
    groups.map fun g => ⟨g, p.standFor args g⟩
  else if p.groupsResults then (p.groups args).map fun g => ⟨[], g.head?.getD []⟩
  else (p.visit args p.plainInquiry).1.map fun row => ⟨[], row⟩

/-! ## Output -/

/-- an output row with its sort keys -/
structure Line where
  cells : List Value
  keys : List Value

def Plan.line (args : List Value) (p : Plan) (c : Context) : Line :=
  ⟨p.results.map fun r => r.term.eval args c.group c.row,
    p.orderBy.map fun k => k.term.eval args c.group c.row⟩

/-- keeps the first of equal rows -/
def withoutRepetitions : List Line → List (List Value) → List Line
  | [], _ => []
  | l :: rest, seen =>
    if seen.any fun s => compareRows s l.cells == .eq then withoutRepetitions rest seen
    else l :: withoutRepetitions rest (l.cells :: seen)

/-- a count of rows; anything that is no whole number is refused -/
def countOf (args : List Value) (t : Term) : Except EngineFault Int :=
  match toWholeNumber (t.eval args [] []) with
  | .integer i => .ok i.toInt
  | _ => .error .kindMismatch

/-- the lines that the limits leave; a negative limit is none, and at the limit zero nothing else is asked -/
def Plan.cut (args : List Value) (p : Plan) (lines : List Line) : Except EngineFault (List Line) := do
  let limit ← p.limit.mapM (countOf args)
  if limit = some 0 then return []
  let offset ← p.offset.mapM (countOf args)
  let rest := lines.drop (offset.getD 0).toNat
  return match limit with
    | some n => if n < 0 then rest else rest.take n.toNat
    | none => rest

/-- a sum of whole numbers may not overflow -/
def Plan.checkSums (args : List Value) (p : Plan) (c : Context) : Except EngineFault Unit :=
  let sums := p.functions.filterMap fun f => if f.1 == .sum then f.2 else none
  let parts (t : Term) : List Value := (c.group.map fun row => t.eval args [] row).filter fun v => !v.isNull
  if sums.any fun t => (Sum.of (parts t)).isOverflow then .error .overflow else .ok ()

/-- carries out a read -/
def run (db : Database) (args : List Value) (r : Reading) : Except EngineFault Rows := do
  let p ← r.plan db
  let contexts := p.contexts args
  contexts.forM (p.checkSums args)
  let kept := contexts.filter fun c => Term.holds args c.group c.row p.having
  let lines := kept.map (p.line args)
  let lines := if p.distinct then withoutRepetitions lines [] else lines
  let sorted := lines.mergeSort fun a b => compareKeys p.orderBy a.keys b.keys != .gt
  let left ← p.cut args (if p.orderBy.isEmpty then lines else sorted)
  return ⟨p.results.map Result.name, left.map Line.cells⟩

end Reading

end FluentSql.Engine
