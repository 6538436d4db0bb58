import FluentSql.Engine.Database
/-!
Clauses: the parts of a condition that must all hold, and what each of them tells about a single column.

A clause that compares a column with something that does not depend on the column's own table can guide the
reading of that table. Some clauses are derived from others: both bounds of a range, the mirror image of an
equality of two columns, a list of choices out of several equalities. Derived clauses restrict nothing new;
they only offer another way to read.
-/

namespace FluentSql.Engine

/-! ## Sets of tables -/

/-- a set of tables, one binary digit for the number of each -/
abbrev TableSet := Nat

namespace TableSet

def single (table : Nat) : TableSet := 2 ^ table

def meets (a b : TableSet) : Bool := a &&& b != 0

def within (a b : TableSet) : Bool := a &&& b == a

/-- the tables of the first set that are not in the second -/
def without (a b : TableSet) : TableSet := a ^^^ (a &&& b)

def ofList (tables : List Nat) : TableSet := tables.foldl (fun s t => s ||| single t) 0

end TableSet

/-- the tables among the open ones that a term depends on -/
def Term.tables (opened : TableSet) (t : Term) : TableSet :=
  TableSet.ofList (t.freeCells.map Prod.fst) &&& opened

/-! ## Clauses -/

/-- what a clause asks of a column -/
inductive Probe where
  | equal
  | same
  | oneOf
  | isNull
  | less
  | lessEqual
  | greater
  | greaterEqual
deriving DecidableEq, Repr

namespace Probe

def ofRelation : Relation → Option Probe
  | .equal => some equal
  | .unequal => none
  | .less => some less
  | .lessEqual => some lessEqual
  | .greater => some greater
  | .greaterEqual => some greaterEqual

/-- the comparison that a probe stands for -/
def relation? : Probe → Option Relation
  | equal => some .equal
  | less => some .less
  | lessEqual => some .lessEqual
  | greater => some .greater
  | greaterEqual => some .greaterEqual
  | _ => none

/-- bounds a column from above -/
def isUpper (p : Probe) : Bool := p == less || p == lessEqual

/-- bounds a column from below -/
def isLower (p : Probe) : Bool := p == greater || p == greaterEqual

/-- asks for one value -/
def isEquality (p : Probe) : Bool := p == equal || p == same

end Probe

/-- the comparison with its sides exchanged -/
def Relation.mirrored : Relation → Relation
  | equal => equal
  | unequal => unequal
  | less => greater
  | lessEqual => greaterEqual
  | greater => less
  | greaterEqual => lessEqual

/-- how a clause is put together -/
inductive Form where
  | single
  /-- one of its branches must hold -/
  | either
  /-- all of its branches must hold; only a branch of another clause is of this form -/
  | both
deriving DecidableEq, Repr, Inhabited

structure Clause where
  /-- its position, behind it the positions of the clauses it is a branch of -/
  id : List Nat
  /-- a comparison has the column that it is about on its left -/
  term : Term
  form : Form
  /-- the table and the place of the column that the clause is about -/
  column : Option (Nat × Nat)
  probe : Option Probe
  /-- two columns have to be equal, and either may stand for the other -/
  equates : Bool
  /-- the tables that the column is compared with -/
  right : TableSet
  /-- all tables that the clause depends on -/
  tables : TableSet
  /-- the clause follows from another one -/
  derived : Bool
  /-- a derived clause takes its place in some ways of reading -/
  copied : Bool
  /-- the clause that it is derived from -/
  parent : Option (List Nat)
  /-- the column is only asked not to be null -/
  bare : Bool
  branches : List Clause
  /-- the tables that each branch can guide the reading of -/
  indexable : TableSet
deriving Inhabited

namespace Clause

/-- a clause that guides nothing -/
def plain (id : List Nat) (opened : TableSet) (t : Term) : Clause :=
  ⟨id, t, .single, none, none, false, 0, t.tables opened, false, false, none, false, [], 0⟩

/-- derived from another clause -/
def childOf (parent : List Nat) (c : Clause) : Clause := { c with derived := true, parent := some parent }

/-- the clause says something that can guide a reading -/
def isUseful (c : Clause) : Bool := c.probe.isSome || c.equates || c.form != .single

/-- the table that the clause is about, if it is one of the open ones -/
def columnTable (opened : TableSet) (c : Clause) : TableSet :=
  match c.column with
  | some (t, _) => TableSet.single t &&& opened
  | none => 0

/-! ## Comparisons -/

/-- a cell, even a pinned one -/
def cell? : Term → Option (Nat × Nat)
  | .column t i _ => some (t, i)
  | .pinned t i _ _ => some (t, i)
  | _ => none

/-- a cell that is not pinned -/
def freeCell? : Term → Option (Nat × Nat)
  | .column t i _ => some (t, i)
  | _ => none

/-- the sides of a comparison of two terms, what it asks, and the comparison the other way round -/
def sides? : Term → Option (Term × Term × Probe × Term × Probe)
  | .relate r a b => do
    let p ← Probe.ofRelation r
    let q ← Probe.ofRelation r.mirrored
    return (a, b, p, .relate r.mirrored b a, q)
  | .same a b => some (a, b, .same, .same b a, .same)
  | _ => none

def right? (t : Term) : Option Term := (sides? t).map fun s => s.2.1

/-- equal columns of these kinds stand for each other -/
def interchangeable (a b : Option Affinity) : Bool :=
  a == b || (a.any Affinity.isNumeric && b.any Affinity.isNumeric)

/-- a comparison of two terms, with its mirror image if both sides are columns -/
def ofComparison (id mirrorId : List Nat) (opened : TableSet) (t : Term) : Clause × List Clause :=
  match sides? t with
  | none => (plain id opened t, [])
  | some (a, b, p, mirrored, q) =>
    let left := a.tables opened
    let right := b.tables opened
    let base := plain id opened t
    let about (c : Clause) (column : Nat × Nat) (probe : Probe) (other : TableSet) : Clause :=
      { c with column := some column, right := other, probe := if left.meets right then none else some probe }
    match cell? a, freeCell? b with
    | some x, some y =>
      let equates := p.isEquality && interchangeable a.affinity b.affinity
      let mirror := about { plain mirrorId opened mirrored with equates := equates } y q left
      ({ about base x p right with equates := equates, copied := true }, [mirror.childOf id])
    | some x, none => (about base x p right, [])
    | none, some y => (about { base with term := mirrored } y q left, [])
    | none, none => ({ base with right := right }, [])

/-- whether a term is of a kind that can ask something of a column -/
def mayProbe : Term → Bool
  | .relate r _ _ => r != .unequal
  | .same _ _ => true
  | .oneOf _ _ => true
  | .isNull _ => true
  | _ => false

/-- a test of one term by itself -/
def ofTest (id : List Nat) (opened : TableSet) (t subject : Term) (other : TableSet) (p : Probe) : Clause :=
  let base := { plain id opened t with right := other }
  match cell? subject with
  | none => base
  | some x =>
    { base with column := some x, probe := if (subject.tables opened).meets other then none else some p }

/-! ## Disjunctions -/

/-- the conditions that a branch stands for -/
def members (c : Clause) : List Clause := if c.form = .both then c.branches else [c]

/-- the one comparison that two comparisons of the same terms amount to when one of them must hold -/
def combined? (a b : Clause) : Option Term := do
  if a.bare || b.bare || a.equates || b.equates then none
  let p ← a.probe.bind Probe.relation?
  let q ← b.probe.bind Probe.relation?
  let (x, y, _) ← sides? a.term
  let (x', y', _) ← sides? b.term
  let below (r : Relation) : Bool := r == .equal || r == .less || r == .lessEqual
  let above (r : Relation) : Bool := r == .equal || r == .greater || r == .greaterEqual
  if !(x.alike x' && y.alike y') then none
  else if p = q then some (.relate p x y)
  else if below p && below q then some (.relate .lessEqual x y)
  else if above p && above q then some (.relate .greaterEqual x y)
  else none

/-- an equality of a column with a side that needs no conversion to be a choice of it -/
def isChoice (column : Nat × Nat) (c : Clause) : Bool :=
  c.column == some column &&
    match sides? c.term with
    | some (a, b, _) => b.affinity.isNone || b.affinity == a.affinity
    | none => false

/-- the column that is equated in every branch, if the branches that are about other tables are left out -/
def commonColumn (opened candidates : TableSet) (branches : List Clause) : Option (Nat × Nat) :=
  let start (skipped : Option Nat) : List Clause := branches.dropWhile fun c =>
    !(c.columnTable opened).meets candidates || (c.column.map Prod.fst) == skipped && skipped.isSome
  let common (from_ : List Clause) : Option (Nat × Nat) := do
    let column ← from_.head?.bind Clause.column
    if from_.all fun c => (c.column.map Prod.fst) != some column.1 || isChoice column c then some column
    else none
  match common (start none) with
  | some column => some column
  | none => (start none).head?.bind fun c => common (start (c.column.map Prod.fst))

/-- the equalities of a column in the branches as one list of choices -/
def asChoices (column : Nat × Nat) (branches : List Clause) : Option Term := do
  let chosen := branches.filter (isChoice column)
  let last ← chosen.getLast?
  let (subject, _) ← sides? last.term
  return .oneOf subject (chosen.filterMap fun c => right? c.term)

/-! ## Analysis -/

/-- what the branches of a disjunction can guide: the tables that each of them is about, and the tables with a
column that each of them equates -/
structure Reach where
  indexable : TableSet
  equated : TableSet

/-- how a branch narrows the reach of its disjunction -/
def narrow (opened : TableSet) (branches : List Clause) (r : Reach) (c : Clause) : Reach :=
  if c.form = .both then
    let about := c.branches.foldl (fun s d => if mayProbe d.term then s ||| d.columnTable opened else s) 0
    ⟨r.indexable &&& about, 0⟩
  else if c.copied then r
  else
    let parent := c.parent.bind fun id => branches.find? fun d => d.id == id
    let about := c.columnTable opened ||| (parent.map (columnTable opened)).getD 0
    ⟨r.indexable &&& about, if c.probe = some .equal then r.equated &&& about else 0⟩

mutual

/-- a term as a clause, with the clauses derived from it, which are numbered from `next` on; `within` tells a
clause of a condition from a branch of a disjunction -/
def analyse (opened : TableSet) (inside : Bool) (above : List Nat) : Nat → Nat → Nat → Term →
    Clause × List Clause
  | 0, number, _, t => (plain (number :: above) opened t, [])
  | fuel + 1, number, next, t =>
    let id := number :: above
    match t with
    | .oneOf subject choices =>
      let other := choices.foldl (fun s c => s ||| c.tables opened) 0
      (ofTest id opened t subject other .oneOf, [])
    | .isNull subject => (ofTest id opened t subject 0 .isNull, [])
    | .notNull subject =>
      match cell? subject with
      | some (table, place + 1) =>
        let bound := { plain (next :: above) opened (.relate .greater subject (.literal .null)) with
          column := some (table, place + 1), probe := some .greater, bare := true, tables := t.tables opened }
        ({ plain id opened t with copied := true }, [bound.childOf id])
      | _ => (plain id opened t, [])
    | .between subject low high =>
      if !inside then (plain id opened t, [])
      else
        let (a, as) := analyse opened true above fuel next (next + 1) (.relate .greaterEqual subject low)
        let after := next + 1 + as.length
        let (b, bs) := analyse opened true above fuel after (after + 1) (.relate .lessEqual subject high)
        (plain id opened t, (a.childOf id :: as) ++ (b.childOf id :: bs))
    | .or _ _ =>
      if inside then analyseEither opened above fuel number next t else (plain id opened t, [])
    | t => ofComparison id (next :: above) opened t

/-- a disjunction, and the clauses that it amounts to -/
def analyseEither (opened : TableSet) (above : List Nat) : Nat → Nat → Nat → Term → Clause × List Clause
  | 0, number, _, t => (plain (number :: above) opened t, [])
  | fuel + 1, number, next, t =>
    let id := number :: above
    let given := analyseAll opened false id fuel t.disjuncts
    let branches := given.map fun c =>
      if c.probe.isNone then
        { c with form := .both, column := none, branches := analyseAll opened true c.id fuel c.term.conjuncts }
      else c
    let reach := branches.foldl (narrow opened branches) ⟨opened, opened⟩
    let clause := { plain id opened t with form := .either, branches := branches, indexable := reach.indexable }
    let merged : List Term := match branches with
      | [a, b] =>
        if reach.indexable = 0 then []
        else a.members.flatMap fun x => b.members.filterMap (combined? x)
      | _ => []
    let choices := if reach.equated = 0 then none
      else (commonColumn opened reach.equated branches).bind fun column => asChoices column branches
    let step (derived : List Clause) (t : Term) : List Clause :=
      let at_ := next + derived.length
      let (c, more) := analyse opened true above fuel at_ (at_ + 1) t
      derived ++ { c with derived := true } :: more
    let derived := merged.foldl step []
    match choices with
    | none => (clause, derived)
    | some t =>
      let at_ := next + derived.length
      let (c, more) := analyse opened true above fuel at_ (at_ + 1) t
      (clause, derived ++ c.childOf id :: more)

/-- all terms as clauses: those of the terms themselves, then the derived ones, the last term's first -/
def analyseAll (opened : TableSet) (inside : Bool) (above : List Nat) : Nat → List Term → List Clause
  | 0, _ => []
  | fuel + 1, ts =>
    let step (e : Term × Nat) (done : List Clause × List Clause) : List Clause × List Clause :=
      let (c, derived) := analyse opened inside above fuel e.2 (ts.length + done.2.length) e.1
      (c :: done.1, done.2 ++ derived)
    let (own, derived) := ts.zipIdx.foldr step ([], [])
    own ++ derived

end

/-- the clauses of a condition, given the parts of it that must all hold -/
def ofParts (opened : TableSet) (parts : List Term) : List Clause :=
  analyseAll opened true [] (4 * parts.foldr (fun t n => t.size + n) 0 + 8) parts

end Clause

end FluentSql.Engine
