import FluentSql.Engine.Clause
/-!
Conditions made ready for planning, without a change of meaning.

A column that can hold no null is never found to be null (`withoutNullTests`). A column that one part of a
condition equates with a constant is marked wherever else it occurs (`pinned`), so that the other parts depend
on one table less.
-/

namespace FluentSql.Engine

namespace Term

/-- decides the tests for null of columns that can hold none -/
def withoutNullTests (mayBeNull : Nat → Nat → Bool) (t : Term) : Term :=
  t.replace fun u => match u with
    | isNull (column table place _) => if mayBeNull table place then none else some (literal (.integer 0))
    | notNull (column table place _) => if mayBeNull table place then none else some (literal (.integer 1))
    | _ => none

/-- whether a term needs no row and belongs to no group -/
def isConstant (t : Term) : Bool := t.freeCells.isEmpty && !t.isGrouped

/-! ## Pinning -/

/-- a column that equals a constant, and where that is said: in which part of the condition, on which side -/
structure Pin where
  table : Nat
  place : Nat
  affinity : Affinity
  constant : Term
  part : Nat
  onRight : Bool

/-- the pin that a side of an equality gives, if the other side is a constant without a kind of its own -/
def pinOf (part : Nat) (onRight : Bool) (side other : Term) : Option Pin :=
  match side with
  | column table place a =>
    if other.isConstant && other.affinity.isNone then some ⟨table, place, a, other, part, onRight⟩ else none
  | _ => none

/-- adds a pin unless its column is pinned already -/
def addPin (pins : List Pin) (p : Option Pin) : List Pin :=
  match p with
  | none => pins
  | some p => if pins.any fun q => q.table == p.table && q.place == p.place then pins else pins ++ [p]

/-- the pins of all parts, the last part first -/
def pinsOf (parts : List Term) : List Pin :=
  parts.zipIdx.foldr (fun e pins => match e.1 with
    | relate .equal a b => addPin (addPin pins (pinOf e.2 true b a)) (pinOf e.2 false a b)
    | _ => pins) []

/-- a column marked by its pin; a column without a kind is left alone if asked -/
def markColumn (pins : List Pin) (leaveKindless : Bool) : Term → Option Term
  | column table place a =>
    match pins.find? fun p => p.table == table && p.place == place with
    | some p =>
      if leaveKindless && p.affinity == .blob then none else some (pinned table place a p.constant)
    | none => none
  | _ => none

/-- marks the pinned columns of a term. If a pinned column has no kind, such columns are marked only as the
sides of a comparison, and on its right only if its left is no text. -/
def mark (pins : List Pin) (t : Term) : Term :=
  let careful := pins.any fun p => p.affinity == .blob
  let side (u : Term) : Term := (markColumn pins false u).getD (u.replace (markColumn pins true))
  let other (left u : Term) : Term :=
    if left.affinity == some .text then u.replace (markColumn pins true) else side u
  if !careful then t.replace (markColumn pins false)
  else t.replace fun u => match u with
    | relate r a b => if r = .unequal then markColumn pins true u else some (relate r (side a) (other a b))
    | same a b => some (same (side a) (other a b))
    | u => markColumn pins true u

/-- marks the pinned columns of one part, except where they are pinned -/
def markPart (pins : List Pin) (part : Nat) (t : Term) : Term :=
  let tells (onRight : Bool) : Bool := pins.any fun p => p.part == part && p.onRight == onRight
  match t with
  | relate .equal a b =>
    if tells false || tells true then
      relate .equal (if tells false then a else mark pins a) (if tells true then b else mark pins b)
    else mark pins t
  | t => mark pins t

/-- marks the parts until nothing is left to mark; `fuel` bounds the columns to be marked -/
def markParts : Nat → List Term → List Term
  | 0, parts => parts
  | fuel + 1, parts =>
    let pins := pinsOf parts
    let marked := parts.zipIdx.map fun e => markPart pins e.2 e.1
    let free (ts : List Term) : Nat := (ts.flatMap freeCells).length
    if free marked < free parts then markParts fuel marked else parts

/-- the parts of a condition with their pinned columns marked; a condition of one part pins nothing -/
def pinnedParts (parts : List Term) : List Term :=
  if parts.length < 2 then parts else markParts (parts.flatMap freeCells).length parts

end Term

end FluentSql.Engine
