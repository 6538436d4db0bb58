import FluentSql.Rows
import Mathlib.Data.List.Basic
/-!
The cell under a name, in a raw row and in the record that the row makes. The raw row takes the first column with the
name (`cellNamed?_eq_findCell`); a record is written column by column, and its last write under a name counts
(`get?_setAll`), so it keeps the last column with the name.

Main result: `named_access`. Both look-ups find something exactly if there is a column with the name, and they find the
same cell if there is only one. A join that brings a name twice tells them apart (`repeated_name_differs`).
-/

namespace FluentSql

variable {name : String}

/-! ## The last write -/

namespace Record

theorem findCell_append (name : String) (l m : List (String × Value)) :
    findCell name (l ++ m) = (findCell name l).or (findCell name m) := by
  induction l with
  | nil => rfl
  | cons cell rest ih =>
    by_cases hn : cell.1 = name
    · simp [findCell, hn]
    · simp [findCell, hn, ih]

/-- after writes, a name has the value of the last write under it, or else the one it had before -/
theorem get?_setAll (r : Record) (cells : List (String × Value)) (name : String) :
    (r.setAll cells).get? name = (findCell name cells.reverse).or (r.get? name) := by
  induction cells generalizing r with
  | nil => rfl
  | cons cell rest ih =>
    have hset : r.setAll (cell :: rest) = (r.set cell.1 cell.2).setAll rest := rfl
    rw [hset, ih, get?_set, List.reverse_cons, findCell_append, Option.or_assoc]
    by_cases hn : cell.1 = name
    · simp [findCell, hn]
    · simp [findCell, hn]

theorem get?_ofList (cells : List (String × Value)) (name : String) :
    (ofList cells).get? name = findCell name cells.reverse := by
  have hempty : empty.get? name = none := rfl
  rw [ofList, get?_setAll, hempty, Option.or_none]

/-! ## Cells beside their columns -/

/-- the first cell under a name stands where the name first stands -/
theorem findCell_zip {columns before after : List String} {row : List Value} (hlen : row.length = columns.length)
    (hsplit : columns = before ++ name :: after) (hbefore : name ∉ before) :
    findCell name (columns.zip row) = row[before.length]? := by
  subst hsplit
  induction before generalizing row with
  | nil =>
    cases row with
    | nil => simp at hlen
    | cons v rest => simp [findCell]
  | cons c before ih =>
    cases row with
    | nil => simp at hlen
    | cons v rest =>
      have hc : ¬ c = name := fun heq => hbefore (heq ▸ List.mem_cons_self)
      have hrest : name ∉ before := fun hmem => hbefore (List.mem_cons_of_mem c hmem)
      have htail : rest.length = (before ++ name :: after).length := by simpa using hlen
      simpa [findCell, hc] using ih hrest htail

theorem zip_reversed {columns : List String} {row : List Value} (hlen : row.length = columns.length) :
    (columns.zip row).reverse = columns.reverse.zip row.reverse := by
  rw [List.zip_eq_zipWith, List.zip_eq_zipWith, List.reverse_zipWith hlen.symm]

/-- the last cell under a name stands where the name last stands -/
theorem findCell_zip_reverse {columns before after : List String} {row : List Value}
    (hlen : row.length = columns.length) (hsplit : columns = before ++ name :: after) (hafter : name ∉ after) :
    findCell name (columns.zip row).reverse = row[before.length]? := by
  have hrev : columns.reverse = after.reverse ++ name :: before.reverse := by simp [hsplit]
  have hlenRev : row.reverse.length = columns.reverse.length := by simpa using hlen
  have hfound := findCell_zip hlenRev hrev (by simpa using hafter)
  have hcount : row.length = before.length + after.length + 1 := by
    rw [hlen, hsplit, List.length_append, List.length_cons]
    omega
  have hplace : row.length - 1 - after.length = before.length := by omega
  rw [zip_reversed hlen, hfound, List.length_reverse, List.getElem?_reverse (by omega), hplace]

/-- a name is found exactly if some column has it -/
theorem findCell_zip_eq_none_iff {columns : List String} {row : List Value} (hlen : row.length = columns.length) :
    findCell name (columns.zip row) = none ↔ name ∉ columns := by
  induction columns generalizing row with
  | nil => simp [findCell]
  | cons c columns ih =>
    cases row with
    | nil => simp at hlen
    | cons v rest =>
      have htail : rest.length = columns.length := by simpa using hlen
      by_cases hc : c = name
      · simp [findCell, hc]
      · have hne : ¬ name = c := fun heq => hc heq.symm
        simp [findCell, hc, hne, ih htail]

end Record

/-! ## Rows that were added one by one -/

namespace Rows

/-- rows with columns, added one after the other -/
def ofPushes (columns : List String) (pushed : List (List Value)) : Rows :=
  pushed.foldl push (ofColumns columns)

theorem foldl_push (pushed : List (List Value)) (rows : Rows) :
    pushed.foldl push rows =
      { rows with cells := rows.cells ++ pushed.map (fit rows.columns.length) } := by
  induction pushed generalizing rows with
  | nil => simp
  | cons cells pushed ih => simp [ih, push]

theorem ofPushes_eq (columns : List String) (pushed : List (List Value)) :
    ofPushes columns pushed = ⟨columns, pushed.map (fit columns.length)⟩ := by
  rw [ofPushes, foldl_push]
  simp [ofColumns]

/-- every row has a cell for each column -/
theorem length_row {columns : List String} {pushed : List (List Value)} {i : Nat} {row : List Value}
    (hrow : (ofPushes columns pushed).row? i = some row) : row.length = columns.length := by
  rw [ofPushes_eq, row?, List.getElem?_map, Option.map_eq_some_iff] at hrow
  obtain ⟨cells, -, rfl⟩ := hrow
  exact length_fit _ _

/-- the raw look-up scans the columns together with their cells -/
theorem cellNamed?_eq_findCell (rows : Rows) {row : List Value} (hlen : row.length = rows.columns.length)
    (name : String) : rows.cellNamed? row name = Record.findCell name (rows.columns.zip row) := by
  obtain ⟨columns, cells⟩ := rows
  simp only [cellNamed?, columnIndex?]
  induction columns generalizing row with
  | nil => rfl
  | cons c columns ih =>
    cases row with
    | nil => simp at hlen
    | cons v rest =>
      have htail : rest.length = columns.length := by simpa using hlen
      by_cases hc : c = name
      · simp [Record.findCell, List.findIdx?_cons, hc]
      · have hne : (c == name) = false := beq_eq_false_iff_ne.2 hc
        simp only [List.findIdx?_cons, hne, Bool.false_eq_true, if_false, List.zip_cons_cons, Record.findCell, hc,
          ← ih htail]
        cases columns.findIdx? (· == name) <;> rfl

/-- the record of a row, looked up by the place of the row -/
theorem toRecords_get? {rows : Rows} {i : Nat} {row : List Value} (hrow : rows.row? i = some row) (name : String) :
    (rows.toRecords[i]?.bind fun r => r.get? name) = Record.findCell name (rows.columns.zip row).reverse := by
  have hcell : rows.cells[i]? = some row := hrow
  rw [toRecords, List.getElem?_map, hcell]
  exact Record.get?_ofList _ name

/-- **Raw and materialized look-ups by name.** Both find a cell exactly if some column has the name. The raw row gives
the cell of the first such column and the record that of the last one, so they agree on every name that no two columns
share. -/
theorem named_access {columns : List String} {pushed : List (List Value)} {i : Nat} {row : List Value}
    (hrow : (ofPushes columns pushed).row? i = some row) (name : String) :
    let raw := (ofPushes columns pushed).cellNamed? row name
    let kept := (ofPushes columns pushed).toRecords[i]?.bind fun r => r.get? name
    (raw = none ↔ name ∉ columns) ∧ (kept = none ↔ name ∉ columns) ∧
    (∀ before after, columns = before ++ name :: after → name ∉ before → raw = row[before.length]?) ∧
    (∀ before after, columns = before ++ name :: after → name ∉ after → kept = row[before.length]?) ∧
    (columns.count name ≤ 1 → raw = kept) := by
  intro raw kept
  have hlen := length_row hrow
  have hcolumns : (ofPushes columns pushed).columns = columns := by rw [ofPushes_eq]
  have hraw : raw = Record.findCell name (columns.zip row) := by
    have hfound := cellNamed?_eq_findCell (ofPushes columns pushed) (hlen.trans (congrArg _ hcolumns.symm)) name
    rwa [hcolumns] at hfound
  have hkept : kept = Record.findCell name (columns.zip row).reverse := by
    have hfound := toRecords_get? hrow name
    rwa [hcolumns] at hfound
  have hfirst : ∀ before after, columns = before ++ name :: after → name ∉ before → raw = row[before.length]? :=
    fun before after hsplit hbefore => hraw.trans (Record.findCell_zip hlen hsplit hbefore)
  have hlast : ∀ before after, columns = before ++ name :: after → name ∉ after → kept = row[before.length]? :=
    fun before after hsplit hafter => hkept.trans (Record.findCell_zip_reverse hlen hsplit hafter)
  have hrawNone : raw = none ↔ name ∉ columns := by rw [hraw, Record.findCell_zip_eq_none_iff hlen]
  have hkeptNone : kept = none ↔ name ∉ columns := by
    rw [hkept, Record.zip_reversed hlen, Record.findCell_zip_eq_none_iff (by simpa using hlen), List.mem_reverse]
  refine ⟨hrawNone, hkeptNone, hfirst, hlast, fun hcount => ?_⟩
  by_cases hmem : name ∈ columns
  · obtain ⟨before, after, hsplit, hbefore⟩ := List.eq_append_cons_of_mem hmem
    have hafter : name ∉ after := by
      rw [hsplit, List.count_append, List.count_cons_self] at hcount
      exact List.count_eq_zero.1 (by omega)
    exact (hfirst before after hsplit hbefore).trans (hlast before after hsplit hafter).symm
  · exact (hrawNone.2 hmem).trans (hkeptNone.2 hmem).symm

/-- two joined tables that both have an `id`; the second row came without its last cell -/
def joinedRows : Rows :=
  ofPushes ["id", "title", "id"] [[.integer 1, .text "milk", .integer 7], [.integer 2, .text "eggs"]]

theorem joinedRows_title :
    joinedRows.row? 1 = some [.integer 2, .text "eggs", .null] ∧ ["id", "title", "id"].count "title" ≤ 1 ∧
    joinedRows.cellNamed? [.integer 2, .text "eggs", .null] "title" = some (.text "eggs") ∧
    joinedRows.cellNamed? [.integer 2, .text "eggs", .null] "title" =
      joinedRows.toRecords[1]?.bind fun r => r.get? "title" := by
  have hrow : joinedRows.row? 1 = some [.integer 2, .text "eggs", .null] := rfl
  have honce : ["id", "title", "id"].count "title" ≤ 1 := by decide
  obtain ⟨-, -, hfirst, -, hsame⟩ := named_access hrow "title"
  exact ⟨hrow, honce, hfirst ["id"] ["id"] rfl (by decide), hsame honce⟩

/-- under the name that the tables share, the raw row shows the first cell and the record the second -/
theorem repeated_name_differs :
    joinedRows.row? 0 = some [.integer 1, .text "milk", .integer 7] ∧
    joinedRows.cellNamed? [.integer 1, .text "milk", .integer 7] "id" = some (.integer 1) ∧
    (joinedRows.toRecords[0]?.bind fun r => r.get? "id") = some (.integer 7) ∧
    joinedRows.cellNamed? [.integer 1, .text "milk", .integer 7] "id" ≠
      joinedRows.toRecords[0]?.bind fun r => r.get? "id" := by
  have hraw : joinedRows.cellNamed? [.integer 1, .text "milk", .integer 7] "id" = some (.integer 1) := rfl
  have hkept : (joinedRows.toRecords[0]?.bind fun r => r.get? "id") = some (.integer 7) := rfl
  refine ⟨rfl, hraw, hkept, fun heq => ?_⟩
  rw [hraw, hkept] at heq
  cases heq

end Rows

end FluentSql
