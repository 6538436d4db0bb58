import FluentSql.Engine.Access
import FluentSql.Engine.Pinning
/-!
Routes: the order in which the tables of a read are gone through, each in one of its ways, one inside the other.

Routes are built table by table; of the unfinished ones only the cheapest are followed. The cost of a route is
that of reading, and of sorting if the rows do not come in the order in which they are wanted
(`Route.satisfied`). `Route.find` answers the cheapest route.
-/

namespace FluentSql.Engine

structure Route where
  steps : List Access
  /-- the tables that are gone through -/
  tables : TableSet
  /-- the steps that go backwards -/
  reversed : TableSet
  rows : Estimate
  cost : Estimate
  /-- the cost without sorting -/
  unsorted : Estimate
  /-- how many wishes are fulfilled from the first one on, if that is decided -/
  fulfilled : Option Nat

namespace Route

/-! ## Order -/

/-- the columns of the order of an access: the place of each, and whether it descends -/
def orderOf (t : StoredTable) : Way → Option (List (Nat × Bool))
  | .byId => some [(0, false)]
  | .byGroup k => t.uniques[k]?.map fun g => (g.map fun c => (t.placeOf c.index, c.descending)) ++ [(0, false)]
  | _ => none

/-- the length of a unique group -/
def groupLength (t : StoredTable) : Way → Nat
  | .byGroup k => (t.uniques[k]?.map List.length).getD 0
  | _ => 0

/-- what is known about the wishes while the steps of a route are looked at -/
structure Check where
  /-- the wishes that are fulfilled, as a set of numbers -/
  met : Nat
  /-- no two rows of the steps so far agree in everything that is wished -/
  distinct : Bool
  distinctTables : TableSet
  /-- the tables of the steps before -/
  ready : TableSet
  reversed : TableSet
  /-- nothing can be said any more -/
  broken : Bool

/-- what is known while the columns of one step are looked at -/
structure Column where
  check : Check
  /-- the direction, once it is known -/
  backwards : Option Bool
  /-- the row id was wished for -/
  hasId : Bool
  done : Bool

/-- which comparisons fix a column in the search for an order -/
def fixes (choices : Bool) (p : Probe) : Bool :=
  p.isEquality || p == .isNull || (choices && p == .oneOf)

/-- the wishes that a constant or an outer table fixes -/
def meetFixed (q : Inquiry) (wishes : List Wish) (choices : Bool) (a : Access) (c : Check) : Check :=
  wishes.zipIdx.foldl (fun c e =>
    match e.1.term with
    | .column t place _ =>
      if c.met.testBit e.2 || t != a.table then c
      else match Access.fixing? q.clauses (t, place) none (fixes choices) (q.opened.without c.ready) with
        | none => c
        | some d =>
          if d.probe == some .oneOf && !a.clauses.any fun e => e.id == d.id then c
          else { c with met := c.met ||| 2 ^ e.2 }
    | _ => c) c

/-- the wish that a column of the order fulfils: the next one, or any one if only neighbours matter -/
def wishFor (wishes : List Wish) (purpose : Purpose) (met : Nat) (cell : Nat × Nat) : Option (Wish × Nat) :=
  let open_ := wishes.zipIdx.filter fun e => !met.testBit e.2
  let fits (e : Wish × Nat) : Bool :=
    match e.1.term with
    | .column t i _ => (t, i) == cell
    | _ => false
  if purpose = .grouping ∨ purpose = .distinguishing then open_.find? fits
  else open_.head?.filter fits

/-- the next column of the order of a step -/
def meetColumn (t : StoredTable) (wishes : List Wish) (purpose : Purpose) (choices : Bool)
    (a : Access) (step : Nat) (s : Column) (e : (Nat × Bool) × Nat) : Column :=
  let ((place, descending), j) := e
  let given := if j < a.equalities then (a.clauses[j]?).bind Clause.probe else none
  if s.done then s
  else if given.any (fixes choices) then
    if given == some .isNull || given == some .same then { s with check := { s.check with distinct := false } }
    else s
  else
    let mayRepeat := place != 0 && a.equalities ≤ j && t.mayBeNull place
    let check := if mayRepeat then { s.check with distinct := false } else s.check
    let wish := (wishFor wishes purpose check.met (a.table, place)).filter fun w =>
      (!w.1.nullGreatest || j == a.equalities)
    let turned (w : Wish) : Bool := descending != w.descending
    let fits := wish.any fun w => purpose == .grouping || s.backwards.all (· == turned w.1)
    let seen := (wishFor wishes purpose check.met (a.table, place)).map fun w => turned w.1
    let backwards := if purpose = .grouping then s.backwards else s.backwards.or seen
    let reversed := if purpose != .grouping && s.backwards.isNone && seen == some true
      then check.reversed ||| TableSet.single step else check.reversed
    match wish.filter fun _ => fits with
    | some w =>
      { s with
        check := { check with met := check.met ||| 2 ^ w.2, reversed := reversed }
        backwards := backwards
        hasId := s.hasId || place == 0 }
    | none =>
      let ends := j == 0 || j < groupLength t a.way
      { s with
        check := { check with distinct := check.distinct && !ends, reversed := reversed }
        backwards := backwards
        done := true }

/-- the wishes that depend only on steps without repetitions -/
def meetDistinct (q : Inquiry) (wishes : List Wish) (a : Access) (c : Check) : Check :=
  if !c.distinct then c
  else
    let tables := c.distinctTables ||| a.self
    let met := wishes.zipIdx.foldl (fun met e =>
      let needs := e.1.term.tables q.opened
      let counts := needs != 0 || e.1.term.isConstant
      if counts && needs.within tables then met ||| 2 ^ e.2 else met) c.met
    { c with distinctTables := tables, met := met }

/-- the next step of a route -/
def meetStep (q : Inquiry) (wishes : List Wish) (purpose : Purpose) (choices : Bool) (c : Check)
    (e : Access × Nat) : Check :=
  let (a, step) := e
  let all := 2 ^ wishes.length - 1
  if c.broken || !c.distinct || c.met == all then c
  else
    let fixed := meetFixed q wishes choices a c
    let walked :=
      if a.oneRow then fixed
      else match (q.sources[a.table]?).bind fun s => (orderOf s.table a.way).map fun o => (s.table, o) with
        | none => { fixed with broken := true }
        | some (t, order) =>
          let s := order.zipIdx.foldl (meetColumn t wishes purpose choices a step) ⟨fixed, none, false, false⟩
          { s.check with distinct := s.check.distinct || s.hasId }
    if walked.broken then walked
    else { meetDistinct q wishes a walked with ready := c.ready ||| a.self }

/-- how many wishes the rows of some steps fulfil, from the first one on, and the steps that have to go
backwards for it; nothing is decided as long as more steps may fulfil more. `only` looks at the last step
alone. -/
def satisfied (q : Inquiry) (wishes : List Wish) (purpose : Purpose) (choices only : Bool)
    (steps : List Access) : Option Nat × TableSet :=
  let count := wishes.length
  let numbered := steps.zipIdx
  let looked := if only then numbered.drop (steps.length - 1) else numbered
  let before := if only then TableSet.ofList ((numbered.take (steps.length - 1)).map fun e => e.1.table) else 0
  let c := looked.foldl (meetStep q wishes purpose choices) ⟨0, true, 0, before, 0, false⟩
  if c.broken then (some 0, c.reversed)
  else if c.met == 2 ^ count - 1 then (some count, c.reversed)
  else if c.distinct then (none, c.reversed)
  else
    let first (i : Nat) : Bool := TableSet.within (2 ^ i - 1) c.met
    (some ((((List.range count).drop 1).reverse.find? first).getD 0), c.reversed)

/-! ## Cost -/

/-- the cost of sorting some rows of which the first wishes are fulfilled already -/
def sortingCost (q : Inquiry) (rows : Estimate) (fulfilled : Nat) : Estimate :=
  let count := q.wishes.length
  let base := rows + Estimate.ofAmount ((q.width + 59) / 30)
    + if 0 < fulfilled then Estimate.ofAmount ((count - fulfilled) * 100 / count) - 66 else 0
  match q.limit with
  | some most =>
    base + 10 + (if fulfilled ≠ 0 then 6 else 0) + Estimate.steps (min most rows)
  | none => base + Estimate.steps (if q.distinct && 10 < rows then rows - 10 else rows)

/-- one table more; `sorted` are the rows to be sorted, if that counts -/
def extend (q : Inquiry) (sorted : Option Estimate) (r : Route) (a : Access) : Option Route :=
  if !a.needs.within r.tables || a.self.meets r.tables then none
  else if a.way = .byNewGroup ∧ r.rows < 3 then none
  else
    let once := a.run + r.rows
    let unsorted := Estimate.plus (if a.setup = 0 then once else Estimate.plus a.setup once) r.unsorted
    let steps := r.steps ++ [a]
    let (fulfilled, reversed) := match r.fulfilled with
      | some k => (some k, r.reversed)
      | none => satisfied q q.wishes q.purpose (q.purpose == Purpose.extreme) false steps
    let toSort := sorted.filter fun _ => fulfilled.any fun k => k < q.wishes.length
    let (cost, unsorted) := match toSort with
      | some rows => (Estimate.plus unsorted (sortingCost q rows (fulfilled.getD 0)) + 3, unsorted)
      | none => (unsorted, unsorted - 2)
    some ⟨steps, r.tables ||| a.self, reversed, r.rows + a.rows, cost, unsorted, fulfilled⟩

/-! ## Choice -/

/-- the width of the group that an access follows, if it follows one -/
def followedWidth (q : Inquiry) (a : Access) : Option Estimate :=
  match a.way with
  | .byGroup k => do
    let s ← q.sources[a.table]?
    let g ← s.table.uniques[k]?
    return s.table.groupWidth g
  | _ => none

/-- whether the last step of one route is no better than that of another -/
def isNoBetter (q : Inquiry) (new old : Route) : Bool :=
  match new.steps.getLast?.bind (followedWidth q), old.steps.getLast?.bind (followedWidth q) with
  | some x, some y => !(x < y)
  | _, _ => true

/-- whether a route stays although another one reads the same tables -/
def stays (q : Inquiry) (old new : Route) : Bool :=
  old.cost < new.cost
    || (old.cost == new.cost && (old.rows < new.rows
      || (old.rows == new.rows && (old.unsorted < new.unsorted
        || (old.unsorted == new.unsorted && isNoBetter q new old)))))

/-- the position and the costs of the worst of some routes -/
def worst : List Route → Nat × Estimate × Estimate
  | [] => (0, 0, 0)
  | first :: rest =>
    rest.zipIdx.foldl (fun w e =>
      if w.2.1 < e.1.cost || (e.1.cost == w.2.1 && w.2.2 < e.1.unsorted) then (e.2 + 1, e.1.cost, e.1.unsorted)
      else w) (0, first.cost, first.rows)

/-- adds a route to the best ones, of which there are at most so many -/
def offer (q : Inquiry) (most : Nat) (routes : List Route) (new : Route) : List Route :=
  match routes.findIdx? fun r => r.tables == new.tables && r.fulfilled.isNone == new.fulfilled.isNone with
  | some i =>
    if (routes[i]?).any fun r => stays q r new then routes else routes.set i new
  | none =>
    if routes.length < most then routes ++ [new]
    else
      let (i, cost, unsorted) := worst routes
      if cost < new.cost || (new.cost == cost && unsorted ≤ new.unsorted) then routes else routes.set i new

/-- how many routes are followed through so many tables -/
def mostRoutes (tables : Nat) : Nat := if tables ≤ 1 then 1 else if tables = 2 then 5 else 10

/-- the best routes through one table more -/
def extendAll (q : Inquiry) (ways : List Access) (most : Nat) (sorted : Option Estimate) (routes : List Route) :
    List Route :=
  (routes.flatMap fun r => ways.filterMap fun a => extend q sorted r a).foldl (offer q most) []

/-- the cheapest route through a number of tables; `before` measures how often it is taken -/
def cheapest (q : Inquiry) (ways : List Access) (count : Nat) (before : Estimate) (sorted : Option Estimate) :
    Option Route :=
  let start : Route := ⟨[], 0, 0, min before 48, 0, 0, if sorted.isSome then none else some 0⟩
  let routes := (List.range count).foldl
    (fun routes _ => extendAll q ways (mostRoutes count) sorted routes) [start]
  routes.foldl (fun best r => match best with
    | some b => if r.cost < b.cost then some r else some b
    | none => some r) none

/-- the ways that are left once the tables are known that are searched for single values: these tables are
not read without guidance any more, up to the first table that is not searched -/
def withoutUnguided (first : Route) (ways : List Access) : List Access :=
  let searched := (first.steps.takeWhile fun a => a.asksEqual || a.asksNull || a.asksChoices).map Access.table
  ways.filter fun a => !searched.contains a.table || a.isGuided || a.way == .byNewGroup

/-- a route that is taken -/
structure Choice where
  steps : List Access
  /-- the steps that go backwards -/
  reversed : TableSet
  rows : Estimate
  /-- the rows come as they are wished -/
  ordered : Bool
  /-- the groups come in order as well -/
  sorted : Bool

/-- settles the directions of a route -/
def settle (q : Inquiry) (r : Route) : Choice :=
  let all := !q.wishes.isEmpty && r.fulfilled == some q.wishes.length
  let rows := if q.distinct then r.rows - 30 else r.rows
  let last := r.steps.getLast?
  let searchesIds := last.any fun a => a.way == .byId && a.asksChoices
  let inner := satisfied q q.wishes .sorting true true r.steps
  let reversed :=
    if q.wishes.isEmpty || q.purpose = .distinguishing then 0
    else if (r.fulfilled.getD 0) = 0 && !(last.any Access.oneRow) && !searchesIds
        && inner.1 == some q.wishes.length then inner.2
    else r.reversed
  let strict := satisfied q q.wishes .sorting false false r.steps
  if q.groupsInOrder && all && strict.1 == some q.wishes.length then ⟨r.steps, strict.2, rows, all, true⟩
  else ⟨r.steps, reversed, rows, all, false⟩

/-- the cheapest route for a read. What sorting costs depends on how many rows there are, so a first route is
found without it. -/
def find (q : Inquiry) (before : Estimate) : Choice :=
  let ways := Access.all q
  let count := q.wanted.length
  match cheapest q ways count before none with
  | none => ⟨[], 0, 0, false, false⟩
  | some first =>
    if q.wishes.isEmpty then settle q first
    else
      let rows := if first.rows < 0 then 1 else first.rows + 1
      settle q ((cheapest q (withoutUnguided first ways) count before (some rows)).getD first)

end Route

end FluentSql.Engine
