import FluentSql.Proofs.NamedAccess
import Mathlib.Data.List.Forall2
import Mathlib.Data.List.Induction
/-!
Rows that are pushed one by one, and the records that they become. A pushed row is cut or filled up to the number of
columns (`fit_eq`), so all rows have the same length, and a row lines up with the columns. A record that is written cell
by cell has each name once, at the place of its first cell (`names_ofList`).

Main result: `rows_materialize`. There is one record for each row, in order, with the names of the columns and under
each name the cell of its last column.
-/

namespace FluentSql

namespace Record

theorem ofList_concat (cells : List (String × Value)) (cell : String × Value) :
    ofList (cells ++ [cell]) = (ofList cells).set cell.1 cell.2 := by
  rw [ofList, setAll, List.foldl_append]
  rfl

/-- writing cells keeps each name at the place where it comes first -/
theorem names_ofList (cells : List (String × Value)) : (ofList cells).names = (cells.map Prod.fst).eraseDups := by
  induction cells using List.reverseRecOn with
  | nil => rfl
  | append_singleton cells cell ih =>
    rw [ofList_concat, names_set, ih, List.map_append, List.eraseDups_append]
    by_cases hmem : cell.1 ∈ cells.map Prod.fst
    · have hold : [cell.1].removeAll (cells.map Prod.fst) = [] := by simpa [List.removeAll] using hmem
      rw [if_pos (List.mem_eraseDups.2 hmem), List.map_singleton, hold, List.eraseDups_nil, List.append_nil]
    · have hnew : [cell.1].removeAll (cells.map Prod.fst) = [cell.1] := by simpa [List.removeAll] using hmem
      rw [if_neg fun h => hmem (List.mem_eraseDups.1 h), List.map_singleton, hnew]
      rfl

end Record

namespace Rows

theorem fit_eq (n : Nat) (cells : List Value) :
    fit n cells = cells.take n ++ List.replicate (n - cells.length) .null := by
  induction n generalizing cells with
  | zero => simp [fit]
  | succ n ih =>
    cases cells with
    | nil => simp [fit, ih, List.replicate_succ]
    | cons v rest => simp [fit, ih]

/-- the record of a row, by its names and the cell under each of them -/
theorem record_of_row (rows : Rows) {row : List Value} (hlen : row.length = rows.columns.length) :
    (rows.record row).names = rows.columns.eraseDups ∧
    ∀ before name after, rows.columns = before ++ name :: after → name ∉ after →
      (rows.record row).get? name = row[before.length]? := by
  refine ⟨?_, fun before name after hsplit hafter => ?_⟩
  · rw [record, Record.names_ofList, List.map_fst_zip (Nat.le_of_eq hlen.symm)]
  · rw [record, Record.get?_ofList]
    exact Record.findCell_zip_reverse hlen hsplit hafter

/-- **Rows are rectangular and each becomes a record.** Every stored row has one cell for each column: the first cells
that were pushed, and null where there were too few. The records stand for the rows one by one. The names of a record
are those of the columns, each at its first place, and under a name is the cell of the last column that has it. -/
theorem rows_materialize (columns : List String) (pushed : List (List Value)) :
    let rows := ofPushes columns pushed
    rows.columns = columns ∧ (∀ row ∈ rows.cells, row.length = rows.columnCount) ∧
    List.Forall₂ (fun cells row =>
      row = cells.take columns.length ++ List.replicate (columns.length - cells.length) .null) pushed rows.cells ∧
    List.Forall₂ (fun row record => record.names = columns.eraseDups ∧
      ∀ before name after, columns = before ++ name :: after → name ∉ after →
        record.get? name = row[before.length]?) rows.cells rows.toRecords := by
  intro rows
  have hrows : rows = ⟨columns, pushed.map (fit columns.length)⟩ := ofPushes_eq columns pushed
  have hlength : ∀ row ∈ rows.cells, row.length = columns.length := by
    rw [hrows]
    intro row hrow
    obtain ⟨cells, -, rfl⟩ := List.mem_map.1 hrow
    exact length_fit _ _
  have hcolumns : rows.columns = columns := by rw [hrows]
  refine ⟨hcolumns, fun row hrow => ?_, ?_, ?_⟩
  · rw [columnCount, hcolumns]
    exact hlength row hrow
  · rw [hrows, List.forall₂_map_right_iff, List.forall₂_same]
    exact fun cells _ => fit_eq _ _
  · rw [toRecords, List.forall₂_map_right_iff, List.forall₂_same]
    intro row hrow
    have hrecord := record_of_row rows ((hlength row hrow).trans (congrArg _ hcolumns.symm))
    rwa [hcolumns] at hrecord

/-- the name that two joined tables share has the cell of the second, which is missing in the second row -/
theorem joinedRows_id :
    ["id", "title", "id"] = ["id", "title"] ++ "id" :: [] ∧ "id" ∉ ([] : List String) ∧
    joinedRows.toRecords.map (·.get? "id") = [some (.integer 7), some .null] ∧
    joinedRows.toRecords.map Record.names = [["id", "title"], ["id", "title"]] := by
  have hsplit : ["id", "title", "id"] = ["id", "title"] ++ "id" :: [] := rfl
  have hlast : "id" ∉ ([] : List String) := List.not_mem_nil
  obtain ⟨-, -, -, hrecords⟩ := rows_materialize ["id", "title", "id"]
    [[.integer 1, .text "milk", .integer 7], [.integer 2, .text "eggs"]]
  obtain ⟨hfirst, hrest⟩ := List.forall₂_cons.1 hrecords
  obtain ⟨hsecond, -⟩ := List.forall₂_cons.1 hrest
  refine ⟨hsplit, hlast, ?_, ?_⟩
  · exact congrArg₂ (fun a b => [a, b]) (hfirst.2 _ _ _ hsplit hlast) (hsecond.2 _ _ _ hsplit hlast)
  · exact congrArg₂ (fun a b => [a, b]) hfirst.1 hsecond.1

end Rows

end FluentSql
