import FluentSql.Engine.Command
import FluentSql.Error
/-!
Expressions whose names have been looked up, and their values.

Looking up (`Expr.resolve`) needs the columns in sight and fails for a name that is unknown or ambiguous;
the value of a term is then total: it depends on the arguments, the rows of the tables, and for functions of a
group on all that belongs to the group.
-/

namespace FluentSql.Engine

/-- one row of each table of a read -/
abbrev Tuple := List (List Value)

/-- an expression over the rows of some tables -/
inductive Term where
  | literal (v : Value)
  /-- a cell: the number of the table, and the place in its row -/
  | column (table place : Nat) (affinity : Affinity)
  /-- a cell of which a condition says that it equals a constant -/
  | pinned (table place : Nat) (affinity : Affinity) (constant : Term)
  | param (place : Nat)
  | negate (t : Term)
  | plus (t : Term)
  | not (t : Term)
  | isNull (t : Term)
  | notNull (t : Term)
  /-- whether a value counts as true, or as false -/
  | isTruth (wanted : Bool) (t : Term)
  | same (a b : Term)
  | relate (r : Relation) (a b : Term)
  | between (t low high : Term)
  | oneOf (t : Term) (choices : List Term)
  | and (a b : Term)
  | or (a b : Term)
  | like (a b : Term)
  | compute (op : Arithmetic) (a b : Term)
  | append (a b : Term)
  | countAll
  | aggregate (f : Aggregate) (t : Term)
deriving Inhabited

/-! ## Names -/

/-- a column in sight -/
structure Visible where
  /-- the name that its table goes by -/
  goesBy : String
  name : String
  /-- the number of its table -/
  table : Nat
  /-- its place in a row -/
  place : Nat
  affinity : Affinity
  /-- the id of the row, which only its special names reach -/
  isRowId : Bool
deriving Inhabited

/-- the columns in sight, in the order of the tables and of their columns -/
abbrev Scope := List Visible

namespace Scope

/-- the names that reach the id of a row if no column has them -/
def rowIdNames : List String := ["rowid", "_rowid_", "oid"]

def fits (table : Option String) (v : Visible) : Bool := table.all fun t => Text.sameLetters t v.goesBy

/-- the columns that a name may mean -/
def find (s : Scope) (table : Option String) (column : String) : List Visible :=
  match s.filter fun v => fits table v && !v.isRowId && Text.sameLetters column v.name with
  | [] =>
    if rowIdNames.contains (Text.lowerAscii column) then s.filter fun v => fits table v && v.isRowId else []
  | found => found

/-- the name of the column at a place -/
def nameOf? (s : Scope) (table place : Nat) : Option String :=
  let here := s.filter fun v => v.table == table && v.place == place
  ((here.find? fun v => !v.isRowId).or here.head?).map Visible.name

/-- the truth value that a word stands for -/
def truthWord (w : String) : Option Bool :=
  if Text.sameLetters w "true" then some true else if Text.sameLetters w "false" then some false else none

/-- what a name means that is no column: a result column, a truth value, or the text in double quotes -/
def otherwise (aliases : List (String × Term)) (column : String) (doubleQuoted : Bool) :
    Except EngineFault Term :=
  match aliases.find? fun a => Text.sameLetters a.1 column with
  | some a => .ok a.2
  | none =>
    if doubleQuoted then .ok (.literal (.text column))
    else match truthWord column with
      | some b => .ok (.literal (.integer (if b then 1 else 0)))
      | none => .error (.noColumn column)

/-- looks a name up: columns first, then the names of result columns -/
def lookup (s : Scope) (aliases : List (String × Term)) (table : Option String) (column : String)
    (doubleQuoted : Bool) : Except EngineFault Term :=
  match s.find table column with
  | [v] => .ok (.column v.table v.place v.affinity)
  | _ :: _ => .error (.ambiguousColumn column)
  | [] => match table with
    | some t => .error (.noColumn (t ++ "." ++ column))
    | none => otherwise aliases column doubleQuoted

/-- a word for a truth value that names nothing else -/
def truthOf? (s : Scope) (aliases : List (String × Term)) : Expr → Option Bool
  | .name none c false =>
    if (s.find none c).isEmpty && !(aliases.any fun a => Text.sameLetters a.1 c) then truthWord c else none
  | _ => none

end Scope

/-! ## Looking up -/

mutual

/-- an expression over the columns in sight; `grouped` allows functions of a group -/
def Expr.resolve (s : Scope) (aliases : List (String × Term)) (grouped : Bool) :
    Expr → Except EngineFault Term
  | .literal v => .ok (.literal v)
  | .name t c q => s.lookup aliases t c q
  | .param k => .ok (.param k)
  | .negate e => do return .negate (← e.resolve s aliases grouped)
  | .plus e => do return .plus (← e.resolve s aliases grouped)
  | .not e => do return .not (← e.resolve s aliases grouped)
  | .isNull e => do return .isNull (← e.resolve s aliases grouped)
  | .notNull e => do return .notNull (← e.resolve s aliases grouped)
  | .same a b => do
    let x ← a.resolve s aliases grouped
    match s.truthOf? aliases b with
    | some wanted => return .isTruth wanted x
    | none => return .same x (← b.resolve s aliases grouped)
  | .relate r a b => do return .relate r (← a.resolve s aliases grouped) (← b.resolve s aliases grouped)
  | .between e low high => do
    return .between (← e.resolve s aliases grouped) (← low.resolve s aliases grouped)
      (← high.resolve s aliases grouped)
  | .oneOf e choices => do
    return .oneOf (← e.resolve s aliases grouped) (← Expr.resolveAll s aliases grouped choices)
  | .and a b => do return .and (← a.resolve s aliases grouped) (← b.resolve s aliases grouped)
  | .or a b => do return .or (← a.resolve s aliases grouped) (← b.resolve s aliases grouped)
  | .like a b => do return .like (← a.resolve s aliases grouped) (← b.resolve s aliases grouped)
  | .compute op a b => do return .compute op (← a.resolve s aliases grouped) (← b.resolve s aliases grouped)
  | .append a b => do return .append (← a.resolve s aliases grouped) (← b.resolve s aliases grouped)
  | .countAll => if grouped then .ok .countAll else .error (.badStatement "misuse of aggregate: count()")
  | .aggregate f e => do
    if grouped then return .aggregate f (← e.resolve s aliases false)
    else .error (.badStatement "misuse of aggregate")

def Expr.resolveAll (s : Scope) (aliases : List (String × Term)) (grouped : Bool) :
    List Expr → Except EngineFault (List Term)
  | [] => .ok []
  | e :: es => do return (← e.resolve s aliases grouped) :: (← Expr.resolveAll s aliases grouped es)

end

/-! ## Parts of terms -/

namespace Term

/-- only a column has a kind of its own -/
def affinity : Term → Option Affinity
  | column _ _ a => some a
  | pinned _ _ a _ => some a
  | _ => none

/-- the constant that a cell is pinned to -/
def constant? : Term → Option Term
  | pinned _ _ _ c => some c
  | _ => none

mutual

/-- what a look at each of the terms inside a term yields, the term itself first -/
def gather {α : Type} (look : Term → List α) : Term → List α
  | literal v => look (literal v)
  | column t i a => look (column t i a)
  | pinned t i a c => look (pinned t i a c)
  | param k => look (param k)
  | negate t => look (negate t) ++ t.gather look
  | plus t => look (plus t) ++ t.gather look
  | not t => look (not t) ++ t.gather look
  | isNull t => look (isNull t) ++ t.gather look
  | notNull t => look (notNull t) ++ t.gather look
  | isTruth w t => look (isTruth w t) ++ t.gather look
  | same a b => look (same a b) ++ a.gather look ++ b.gather look
  | relate r a b => look (relate r a b) ++ a.gather look ++ b.gather look
  | between t low high => look (between t low high) ++ t.gather look ++ low.gather look ++ high.gather look
  | oneOf t choices => look (oneOf t choices) ++ t.gather look ++ gatherAll look choices
  | and a b => look (and a b) ++ a.gather look ++ b.gather look
  | or a b => look (or a b) ++ a.gather look ++ b.gather look
  | like a b => look (like a b) ++ a.gather look ++ b.gather look
  | compute op a b => look (compute op a b) ++ a.gather look ++ b.gather look
  | append a b => look (append a b) ++ a.gather look ++ b.gather look
  | countAll => look countAll
  | aggregate f t => look (aggregate f t) ++ t.gather look

def gatherAll {α : Type} (look : Term → List α) : List Term → List α
  | [] => []
  | t :: ts => t.gather look ++ gatherAll look ts

end

mutual

/-- a term with some of the terms inside it replaced, the outermost ones first -/
def replace (new : Term → Option Term) : Term → Term
  | literal v => (new (literal v)).getD (literal v)
  | column t i a => (new (column t i a)).getD (column t i a)
  | pinned t i a c => (new (pinned t i a c)).getD (pinned t i a c)
  | param k => (new (param k)).getD (param k)
  | negate t => (new (negate t)).getD (negate (t.replace new))
  | plus t => (new (plus t)).getD (plus (t.replace new))
  | not t => (new (not t)).getD (not (t.replace new))
  | isNull t => (new (isNull t)).getD (isNull (t.replace new))
  | notNull t => (new (notNull t)).getD (notNull (t.replace new))
  | isTruth w t => (new (isTruth w t)).getD (isTruth w (t.replace new))
  | same a b => (new (same a b)).getD (same (a.replace new) (b.replace new))
  | relate r a b => (new (relate r a b)).getD (relate r (a.replace new) (b.replace new))
  | between t low high =>
    (new (between t low high)).getD (between (t.replace new) (low.replace new) (high.replace new))
  | oneOf t choices => (new (oneOf t choices)).getD (oneOf (t.replace new) (replaceAll new choices))
  | and a b => (new (and a b)).getD (and (a.replace new) (b.replace new))
  | or a b => (new (or a b)).getD (or (a.replace new) (b.replace new))
  | like a b => (new (like a b)).getD (like (a.replace new) (b.replace new))
  | compute op a b => (new (compute op a b)).getD (compute op (a.replace new) (b.replace new))
  | append a b => (new (append a b)).getD (append (a.replace new) (b.replace new))
  | countAll => (new countAll).getD countAll
  | aggregate f t => (new (aggregate f t)).getD (aggregate f (t.replace new))

def replaceAll (new : Term → Option Term) : List Term → List Term
  | [] => []
  | t :: ts => t.replace new :: replaceAll new ts

end

mutual

/-- whether two terms are written the same -/
def alike : Term → Term → Bool
  | literal v, literal w => v == w
  | column t i _, column t' i' _ => t == t' && i == i'
  | pinned t i _ _, pinned t' i' _ _ => t == t' && i == i'
  | param k, param k' => k == k'
  | negate t, negate t' => t.alike t'
  | plus t, plus t' => t.alike t'
  | not t, not t' => t.alike t'
  | isNull t, isNull t' => t.alike t'
  | notNull t, notNull t' => t.alike t'
  | isTruth w t, isTruth w' t' => w == w' && t.alike t'
  | same a b, same a' b' => a.alike a' && b.alike b'
  | relate r a b, relate r' a' b' => r == r' && a.alike a' && b.alike b'
  | between t l h, between t' l' h' => t.alike t' && l.alike l' && h.alike h'
  | oneOf t cs, oneOf t' cs' => t.alike t' && alikeAll cs cs'
  | and a b, and a' b' => a.alike a' && b.alike b'
  | or a b, or a' b' => a.alike a' && b.alike b'
  | like a b, like a' b' => a.alike a' && b.alike b'
  | compute op a b, compute op' a' b' => op == op' && a.alike a' && b.alike b'
  | append a b, append a' b' => a.alike a' && b.alike b'
  | countAll, countAll => true
  | aggregate f t, aggregate f' t' => f == f' && t.alike t'
  | _, _ => false

def alikeAll : List Term → List Term → Bool
  | [], [] => true
  | t :: ts, t' :: ts' => t.alike t' && alikeAll ts ts'
  | _, _ => false

end

/-- whether a function of a group occurs -/
def isGrouped (t : Term) : Bool :=
  !(t.gather fun u => match u with
    | countAll => [()]
    | aggregate _ _ => [()]
    | _ => []).isEmpty

/-- all cells that occur, each as the number of its table and its place -/
def cells (t : Term) : List (Nat × Nat) :=
  t.gather fun u => match u with
    | column t i _ => [(t, i)]
    | pinned t i _ _ => [(t, i)]
    | _ => []

/-- the cells that no condition pins to a constant -/
def freeCells (t : Term) : List (Nat × Nat) :=
  t.gather fun u => match u with
    | column t i _ => [(t, i)]
    | _ => []

/-- the terms that must all be true for a term to be true -/
def conjuncts : Term → List Term
  | and a b => a.conjuncts ++ b.conjuncts
  | t => [t]

/-- the terms of which one must be true for a term to be true -/
def disjuncts : Term → List Term
  | or a b => a.disjuncts ++ b.disjuncts
  | t => [t]

/-- how many terms a term consists of -/
def size (t : Term) : Nat := (t.gather fun _ => [()]).length

/-! ## Values -/

/-- conjunction of truth values that may be unknown -/
def andTruth : Option Bool → Option Bool → Option Bool
  | some false, _ => some false
  | _, some false => some false
  | some true, some true => some true
  | _, _ => none

def orTruth (a b : Option Bool) : Option Bool := (andTruth (a.map (!·)) (b.map (!·))).map (!·)

/-- two values as one text -/
def appendValues (a b : Value) : Value :=
  if a.isNull || b.isNull then .null
  else .text (String.ofList (textOf a ++ textOf b))

/-- whether a value takes the place of the least or the greatest one so far -/
def isBetter (f : Aggregate) (best v : Value) : Bool :=
  match f with
  | .least => compareValues v best == .lt
  | .greatest => compareValues v best == .gt
  | _ => false

/-- the value of a function of a group, nulls left out -/
def applyAggregate (f : Aggregate) (all : List Value) : Value :=
  let vs := all.filter fun v => !v.isNull
  match f with
  | .count => .integer (Int64.ofNat vs.length)
  | .sum => if vs.isEmpty then .null else (Sum.of vs).value
  | f => vs.foldl (fun m v => if m.isNull || isBetter f m v then v else m) .null

/-- whether one of several choices equals a value -/
def oneOfTruth (a : Option Affinity) (v : Value) (choices : List Value) : Option Bool :=
  (choices.map (Engine.relate .equal a none v)).foldl orTruth (some false)

mutual

/-- the value of a term for one row of each table and its group, given the arguments of the placeholders -/
def eval (args : List Value) (group : List Tuple) (rows : Tuple) : Term → Value
  | literal v => v
  | column t i _ => (rows[t]?.bind fun r => r[i]?).getD .null
  | pinned t i _ _ => (rows[t]?.bind fun r => r[i]?).getD .null
  | param k => args[k - 1]?.getD .null
  | negate t => Arithmetic.negate (eval args group rows t)
  | plus t => eval args group rows t
  | not t => ofTruth ((truth (eval args group rows t)).map (!·))
  | isNull t => ofTruth (some (eval args group rows t).isNull)
  | notNull t => ofTruth (some !(eval args group rows t).isNull)
  | isTruth wanted t => ofTruth (some (truth (eval args group rows t) == some wanted))
  | same a b =>
    ofTruth (some (Engine.same a.affinity b.affinity (eval args group rows a) (eval args group rows b)))
  | relate r a b =>
    ofTruth (Engine.relate r a.affinity b.affinity (eval args group rows a) (eval args group rows b))
  | between t low high =>
    let v := eval args group rows t
    ofTruth (andTruth (Engine.relate .greaterEqual t.affinity low.affinity v (eval args group rows low))
      (Engine.relate .lessEqual t.affinity high.affinity v (eval args group rows high)))
  | oneOf t choices => ofTruth (oneOfTruth t.affinity (eval args group rows t) (evalAll args group rows choices))
  | and a b => ofTruth (andTruth (truth (eval args group rows a)) (truth (eval args group rows b)))
  | or a b => ofTruth (orTruth (truth (eval args group rows a)) (truth (eval args group rows b)))
  | like a b => ofTruth (Engine.like (eval args group rows a) (eval args group rows b))
  | compute op a b => op.apply (eval args group rows a) (eval args group rows b)
  | append a b => appendValues (eval args group rows a) (eval args group rows b)
  | countAll => .integer (Int64.ofNat group.length)
  | aggregate f t => applyAggregate f (group.map fun r => eval args [] r t)

def evalAll (args : List Value) (group : List Tuple) (rows : Tuple) : List Term → List Value
  | [] => []
  | t :: ts => eval args group rows t :: evalAll args group rows ts

end

/-- whether a condition holds; without one everything does -/
def holds (args : List Value) (group : List Tuple) (rows : Tuple) (condition : Option Term) : Bool :=
  condition.all fun t => truth (eval args group rows t) == some true

end Term

end FluentSql.Engine
