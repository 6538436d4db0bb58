import FluentSql.Value
/-!
Records: column values under their names, in the order in which the names were first written.

Writing a name that is already there replaces the value and keeps the place; erasing a name closes the gap.
The view of a record is `get?`, and each operation has one lemma on it: `get?_set`, `get?_erase`. The names
after a write are the old ones, with the new name at the end if it was not there (`names_set`); erasing leaves
the other names in their order (`names_erase`). A name is there exactly if it has a value (`mem_names_iff`).
-/

namespace FluentSql

/-- one row: column names with their values, in order -/
structure Record where
  cells : List (String × Value)
deriving Inhabited

namespace Record

/-! ## Cell lists -/

/-- replaces the value under a name, or adds the name at the end -/
def putCell (name : String) (v : Value) : List (String × Value) → List (String × Value)
  | [] => [(name, v)]
  | cell :: rest => if cell.1 = name then (name, v) :: rest else cell :: putCell name v rest

/-- the value under a name -/
def findCell (name : String) : List (String × Value) → Option Value
  | [] => none
  | cell :: rest => if cell.1 = name then some cell.2 else findCell name rest

/-- removes every cell with a name -/
def dropCell (name : String) : List (String × Value) → List (String × Value)
  | [] => []
  | cell :: rest => if cell.1 = name then dropCell name rest else cell :: dropCell name rest

/-! ## Records -/

def empty : Record := ⟨[]⟩

def set (r : Record) (name : String) (v : Value) : Record := ⟨putCell name v r.cells⟩

def get? (r : Record) (name : String) : Option Value := findCell name r.cells

def erase (r : Record) (name : String) : Record := ⟨dropCell name r.cells⟩

def contains (r : Record) (name : String) : Bool := (r.get? name).isSome

def names (r : Record) : List String := r.cells.map Prod.fst

def values (r : Record) : List Value := r.cells.map Prod.snd

def size (r : Record) : Nat := r.cells.length

def isEmpty (r : Record) : Bool := r.cells.isEmpty

/-- writes every cell of a list, in order -/
def setAll (r : Record) (cells : List (String × Value)) : Record :=
  cells.foldl (fun acc cell => acc.set cell.1 cell.2) r

/-- writes every cell of another record, in its order -/
def extend (r other : Record) : Record := r.setAll other.cells

def ofList (cells : List (String × Value)) : Record := empty.setAll cells

/-- the same names with the same values, in any order -/
protected def beq (a b : Record) : Bool :=
  a.size == b.size && a.cells.all fun cell => (b.get? cell.1).any (cell.2 == ·)

instance : BEq Record := ⟨Record.beq⟩

/-! ## Typed readings -/

def getText? (r : Record) (name : String) : Option String := (r.get? name).bind Value.asText

def getInt64? (r : Record) (name : String) : Option Int64 := (r.get? name).bind Value.asInt

/-- whole numbers that fit in 32 bits -/
def getInt32? (r : Record) (name : String) : Option Int32 :=
  (r.getInt64? name).bind fun i =>
    if Int32.minValue.toInt ≤ i.toInt ∧ i.toInt ≤ Int32.maxValue.toInt then some i.toInt32 else none

def getDouble? (r : Record) (name : String) : Option Float := (r.get? name).bind Value.asFloat

def getFloat? (r : Record) (name : String) : Option Float32 := (r.getDouble? name).map Float.toFloat32

def getBool? (r : Record) (name : String) : Option Bool := (r.get? name).bind Value.asBool

def getBytes? (r : Record) (name : String) : Option (List UInt8) := (r.get? name).bind Value.asBytes

/-! ## Lemmas -/

theorem findCell_putCell (name other : String) (v : Value) (cells : List (String × Value)) :
    findCell other (putCell name v cells) = if name = other then some v else findCell other cells := by
  induction cells with
  | nil => simp [putCell, findCell]
  | cons cell rest ih =>
    by_cases hn : cell.1 = name <;> by_cases ho : name = other
    · simp [putCell, findCell, hn, ho]
    · simp [putCell, findCell, hn, ho]
    · subst ho; simp [putCell, findCell, hn, ih]
    · simp [putCell, findCell, hn, ih, ho]

theorem get?_set (r : Record) (name other : String) (v : Value) :
    (r.set name v).get? other = if name = other then some v else r.get? other :=
  findCell_putCell name other v r.cells

theorem map_fst_putCell (name : String) (v : Value) (cells : List (String × Value)) :
    (putCell name v cells).map Prod.fst
      = if name ∈ cells.map Prod.fst then cells.map Prod.fst else cells.map Prod.fst ++ [name] := by
  induction cells with
  | nil => simp [putCell]
  | cons cell rest ih =>
    by_cases hn : cell.1 = name
    · simp [putCell, hn]
    · have hn' : ¬ name = cell.1 := fun h => hn h.symm
      simp only [putCell, hn, if_false, List.map_cons, ih, List.mem_cons, hn', false_or]
      split <;> rfl

theorem findCell_dropCell (name other : String) (cells : List (String × Value)) :
    findCell other (dropCell name cells) = if name = other then none else findCell other cells := by
  induction cells with
  | nil => simp [dropCell, findCell]
  | cons cell rest ih =>
    by_cases hn : cell.1 = name
    · rw [dropCell, if_pos hn, ih, findCell]
      split
      · rfl
      · rename_i ho
        rw [if_neg (hn ▸ ho)]
    · rw [dropCell, if_neg hn, findCell, findCell, ih]
      split
      · rename_i hc
        rw [if_neg fun ho => hn (hc.trans ho.symm)]
      · rfl

theorem get?_erase (r : Record) (name other : String) :
    (r.erase name).get? other = if name = other then none else r.get? other :=
  findCell_dropCell name other r.cells

theorem names_set (r : Record) (name : String) (v : Value) :
    (r.set name v).names = if name ∈ r.names then r.names else r.names ++ [name] :=
  map_fst_putCell name v r.cells

theorem names_erase (r : Record) (name : String) : (r.erase name).names = r.names.filter (· ≠ name) := by
  obtain ⟨cells⟩ := r
  simp only [names, erase]
  induction cells with
  | nil => rfl
  | cons cell rest ih =>
    by_cases hn : cell.1 = name
    · simp [dropCell, hn, ih]
    · simp [dropCell, hn, ih]

theorem mem_names_iff (r : Record) (name : String) : name ∈ r.names ↔ (r.get? name).isSome = true := by
  obtain ⟨cells⟩ := r
  simp only [names, get?]
  induction cells with
  | nil => simp [findCell]
  | cons cell rest ih =>
    by_cases hn : cell.1 = name
    · simp [findCell, hn]
    · have hn' : ¬ name = cell.1 := fun h => hn h.symm
      rw [List.map_cons, List.mem_cons, findCell, if_neg hn, ih]
      exact or_iff_right hn'

end Record

/-- rows in order -/
abbrev RecordSet := List Record

end FluentSql
