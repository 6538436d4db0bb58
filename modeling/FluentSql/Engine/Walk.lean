import FluentSql.Engine.Route
/-!
Going through the rows of tables along a route.

The tables are gone through one inside the other; a part of the condition is held against the rows as soon as
all the tables that it names have been reached. Nothing but the order of the result depends on the route:
every combination of rows that satisfies the condition is visited exactly once.
-/

namespace FluentSql.Engine

/-- the rows of a table in the order of visit, given the rows of the tables that were reached before -/
abbrev Visit := Tuple → List (List Value)

namespace Walk

/-! ## One table -/

/-- the order of two rows by some of their places -/
def compareAt (columns : List (Nat × Bool)) (a b : List Value) : Ordering :=
  columns.foldl (fun o c =>
    let p := compareValues (a[c.1]?.getD .null) (b[c.1]?.getD .null)
    o.then (if c.2 then p.swap else p)) .eq

/-- the rows of a table in the order of some columns, rows that agree in them by their ids -/
def inOrder (t : StoredTable) (columns : List (Nat × Bool)) (backwards : Bool) : List (List Value) :=
  let rows := t.rows.map StoredTable.visibleCells
  let sorted := rows.mergeSort fun a b => compareAt columns a b != .gt
  if backwards then sorted.reverse else sorted

/-- the columns of a group that is put together for a read: those that are equated with what is at hand, then
the others that are needed -/
def newGroup (q : Inquiry) (s : Source) (table : Nat) (ready : TableSet) : List (Nat × Bool) :=
  let drives (a : Access) : Bool := a.clauses.all fun c => !c.right.meets (q.opened.without ready)
  let keys := ((Access.newGroups s table q.clauses).filter drives).filterMap fun a =>
    (a.clauses.head?.bind Clause.column).map Prod.snd
  let others := (List.range (s.table.columns.length + 1)).filter s.used.contains
  ((keys ++ others).eraseDups).map fun place => (place, false)

/-- keeps the first of the rows with the same id -/
def withoutSeen : List (List Value) → List Value → List (List Value)
  | [], _ => []
  | row :: rest, seen =>
    let id := row.head?.getD .null
    if seen.any fun v => v == id then withoutSeen rest seen else row :: withoutSeen rest (id :: seen)

/-- one branch after the other, without the rows that an earlier branch has visited; of a branch only what
names none of the tables that are still to come is held against a row -/
def branches (args : List Value) (table : Nat) (later : TableSet) (list : List (Term × Visit)) : Visit :=
  fun tuple =>
    let holds (t : Term) (row : List Value) : Bool :=
      (t.conjuncts.filter fun u => !(u.tables later).meets later).all fun u =>
        Term.holds args [] (tuple.set table row) (some u)
    withoutSeen (list.flatMap fun b => (b.2 tuple).filter (holds b.1)) []

/-- the question that reading one branch of a disjunction asks: the branch together with the rest of the
condition -/
def ofBranch (q : Inquiry) (table : Nat) (ready : TableSet) (c b : Clause) : Inquiry :=
  let opened := q.opened.without ready
  let others := q.clauses.filter fun d => !d.derived && d.isUseful && d.id != c.id
  { q with
    wanted := [table], opened := opened, wishes := [], purpose := .sorting, groupsInOrder := false
    clauses := Clause.ofParts opened (b.term.conjuncts ++ others.flatMap fun d => d.term.conjuncts)
    distinct := false, limit := none, changes := false, isBranch := true }

/-- the clauses on columns of other tables that guide an access because its own columns equal them, said of its
own columns -/
def implied (s : Source) (a : Access) : List Term :=
  let places := ((Route.orderOf s.table a.way).getD []).map Prod.fst
  a.clauses.zipIdx.filterMap fun e => do
    let place ← places[min e.2 a.equalities]?
    let other ← e.1.column
    let own := Term.column a.table place (s.table.affinityAt place)
    if other == (a.table, place) then none
    else if e.1.bare then some (.notNull own)
    else some (e.1.term.replace fun u => if Clause.cell? u == some other then some own else u.constant?)

/-- the visit of a table in one step of a route; `before` measures how often the step is taken -/
def visit (args : List Value) : Nat → Inquiry → Estimate → TableSet → Access → Bool → Visit
  | 0, q, _, _, a, backwards => fun _ =>
    (q.sources[a.table]?.map fun s => inOrder s.table [] backwards).getD []
  | fuel + 1, q, before, ready, a, backwards =>
    match q.sources[a.table]? with
    | none => fun _ => []
    | some s =>
      let along (columns : List (Nat × Bool)) : Visit :=
        let rows := inOrder s.table columns backwards
        let guides := implied s a
        if guides.isEmpty then fun _ => rows
        else fun tuple => rows.filter fun row =>
          guides.all fun t => Term.holds args [] (tuple.set a.table row) (some t)
      match a.way with
      | .byNewGroup => along (newGroup q s a.table ready)
      | .byBranches =>
        match a.clauses.head? with
        | none => along []
        | some c =>
          let parts := c.branches.filter fun b => b.form == .both || (b.column.map Prod.fst) == some a.table
          branches args a.table (q.opened.without (ready ||| a.self)) (parts.map fun b =>
            let sub := ofBranch q a.table ready c b
            let choice := Route.find sub before
            match choice.steps.head? with
            | none => (b.term, fun _ => [])
            | some step => (b.term, visit args fuel sub (before + choice.rows) ready step false))
      | way => along ((Route.orderOf s.table way).getD [])

/-! ## All tables -/

/-- one table of a route with the parts of the condition that can be held against its rows -/
structure Level where
  table : Nat
  visit : Visit
  conditions : List Term

/-- the levels of a route -/
def levels (args : List Value) (q : Inquiry) (parts : List Term) (choice : Route.Choice) : List Level :=
  go 0 0 choice.steps
where
  go (number : Nat) (ready : TableSet) : List Access → List Level
    | [] => []
    | a :: rest =>
      let reached := ready ||| a.self
      let fuel := q.clauses.length + parts.foldr (fun t n => t.size + n) 0 + 1
      let conditions := parts.filter fun t =>
        let needs := t.tables q.opened
        needs.within reached && !needs.within ready
      ⟨a.table, visit args fuel q choice.rows ready a (choice.reversed.testBit number), conditions⟩
        :: go (number + 1) reached rest

/-- all combinations of rows that satisfy the conditions of the levels -/
def through (args : List Value) : List Level → Tuple → List Tuple
  | [], tuple => [tuple]
  | l :: rest, tuple =>
    (l.visit tuple).flatMap fun row =>
      let reached := tuple.set l.table row
      if l.conditions.all fun t => Term.holds args [] reached (some t) then through args rest reached else []

/-- the combinations of rows along a route that satisfy all parts of a condition -/
def along (args : List Value) (q : Inquiry) (parts : List Term) (choice : Route.Choice) : List Tuple :=
  let constant := parts.filter fun t => t.tables q.opened == 0
  if constant.all fun t => Term.holds args [] [] (some t) then
    through args (levels args q parts choice) (List.replicate q.sources.length [])
  else []

end Walk

end FluentSql.Engine
