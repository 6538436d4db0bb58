import FluentSql.Host
import Mathlib.Data.List.Basic
/-!
The placeholders of the statements that write, beside the values that a handle binds to them.

A placeholder is counted by the marks in front of it (`Asks`). In a list with commas the `k`-th part has `k` parts in
front of it (`intercalate_at`), so among names without marks the `k`-th placeholder belongs to the `k`-th column.

Main result: `placeholders_bound`.
-/

namespace FluentSql

open Embedded

/-! ## Marks -/

namespace SqlText

/-- how many placeholders a text has -/
def marks (s : String) : Nat := s.toList.count '?'

/-- behind `front`, a text has its `k`-th placeholder, counted from zero -/
structure Asks (text : String) (k : Nat) (front : String) : Prop where
  opens : ∃ back, text = front ++ "?" ++ back
  count : marks front = k

@[simp]
theorem marks_append (s t : String) : marks (s ++ t) = marks s + marks t := by
  rw [marks, String.toList_append, List.count_append]
  rfl

theorem marks_of_not_mem {s : String} (hs : '?' ∉ s.toList) : marks s = 0 := List.count_eq_zero.2 hs

/-- texts with a comma behind each -/
def listed : List String → String
  | [] => ""
  | t :: ts => t ++ ", " ++ listed ts

/-- texts with a comma in front of each -/
def further : List String → String
  | [] => ""
  | t :: ts => ", " ++ t ++ further ts

theorem intercalate_eq_further (t : String) (ts : List String) : ", ".intercalate (t :: ts) = t ++ further ts := by
  induction ts generalizing t with
  | nil => simp [further]
  | cons u ts ih => rw [String.intercalate_cons_cons, ih, further, String.append_assoc, String.append_assoc]

/-- **A part of a list, with what stands before and after it.** -/
theorem intercalate_at {ts : List String} {k : Nat} {t : String} (hk : ts[k]? = some t) :
    ", ".intercalate ts = listed (ts.take k) ++ t ++ further (ts.drop (k + 1)) := by
  induction ts generalizing k with
  | nil => cases hk
  | cons u ts ih =>
    cases k with
    | zero =>
      cases hk
      simp [intercalate_eq_further, listed]
    | succ k =>
      have hts : ts[k]? = some t := hk
      cases ts with
      | nil => cases hts
      | cons v ts =>
        rw [String.intercalate_cons_cons, ih hts]
        simp [listed, String.append_assoc]

theorem marks_listed {n : Nat} {ts : List String} (hts : ∀ t ∈ ts, marks t = n) : marks (listed ts) = ts.length * n := by
  induction ts with
  | nil => exact (Nat.zero_mul n).symm
  | cons t ts ih =>
    have hcomma : marks ", " = 0 := by decide
    have hrest := ih fun u hu => hts u (List.mem_cons_of_mem t hu)
    rw [listed, marks_append, marks_append, hcomma, hts t List.mem_cons_self, hrest, List.length_cons, Nat.succ_mul]
    omega

theorem marks_intercalate {n : Nat} {ts : List String} (hts : ∀ t ∈ ts, marks t = n) :
    marks (", ".intercalate ts) = ts.length * n := by
  rcases List.eq_nil_or_concat ts with rfl | ⟨us, t, rfl⟩
  · exact (Nat.zero_mul n).symm
  · have hlast : (us.concat t)[us.length]? = some t := by simp
    have hfront : ∀ u ∈ us, marks u = n := fun u hu => hts u (by simp [hu])
    rw [intercalate_at hlast]
    simp [further, marks_listed hfront, hts t (by simp), Nat.succ_mul]

/-! ## The places of columns -/

/-- an insert up to its values -/
def insertHead (table : String) (names : List String) : String :=
  "INSERT INTO " ++ table ++ " (" ++ ", ".intercalate names ++ ") VALUES ("

/-- an update up to the columns that it sets -/
def updateHead (table : String) : String := "UPDATE " ++ table ++ " SET "

/-- how an update sets a column -/
def assignment (column : String) : String := column ++ " = ?"

/-- the `k`-th column of an insert, its placeholder and the value that is bound to it -/
structure InsertSlot (table : String) (values : Record) (k : Nat) (column : String) (v : Value) : Prop where
  /-- `k` columns are named before it -/
  named : ", ".intercalate values.names = listed (values.names.take k) ++ column ++ further (values.names.drop (k + 1))
  /-- `k` placeholders stand before its own -/
  asks : Asks (insert table values) k (insertHead table values.names ++ listed (List.replicate k "?"))
  bound : values.values[k]? = some v

/-- the `k`-th column of an update, its placeholder and the value that is bound to it -/
structure UpdateSlot (table : String) (values : Record) (condition : Option String) (given : List Value) (k : Nat)
    (column : String) (v : Value) : Prop where
  /-- `k` columns are set before it, and its placeholder stands right behind it -/
  asks : Asks (update table values condition) k
    (updateHead table ++ listed ((values.names.take k).map assignment) ++ column ++ " = ")
  bound : given[k]? = some v

section

variable {table : String} {values : Record} {k : Nat} {column : String} {v : Value}

theorem insert_eq (hfull : values.isEmpty = false) : insert table values =
    insertHead table values.names ++ ", ".intercalate (List.replicate values.size "?") ++ ")" := by
  have hmarks : (values.names.map fun _ => "?") = List.replicate values.size "?" := by
    rw [List.map_const', Record.names, List.length_map, Record.size]
  rw [insert, hfull, hmarks]
  rfl

theorem update_eq (condition : Option String) : update table values condition =
    updateHead table ++ ", ".intercalate (values.names.map assignment) ++ clauseText "WHERE" condition := rfl

theorem marks_insertHead (htable : '?' ∉ table.toList) (hnames : ∀ c ∈ values.names, '?' ∉ c.toList) :
    marks (insertHead table values.names) = 0 := by
  have hwords : marks "INSERT INTO " = 0 ∧ marks " (" = 0 ∧ marks ") VALUES (" = 0 := by decide
  have hlist := marks_intercalate fun c hc => marks_of_not_mem (hnames c hc)
  simp only [insertHead, marks_append, hwords, marks_of_not_mem htable, hlist, Nat.mul_zero, Nat.add_zero]

theorem marks_updateHead (htable : '?' ∉ table.toList) : marks (updateHead table) = 0 := by
  have hwords : marks "UPDATE " = 0 ∧ marks " SET " = 0 := by decide
  simp only [updateHead, marks_append, hwords, marks_of_not_mem htable, Nat.add_zero]

theorem marks_assignment (hcolumn : '?' ∉ column.toList) : marks (assignment column) = 1 := by
  rw [assignment, marks_append, marks_of_not_mem hcolumn]
  decide

theorem marks_assignments (hnames : ∀ c ∈ values.names, '?' ∉ c.toList) :
    ∀ t ∈ values.names.map assignment, marks t = 1 := by
  intro t ht
  obtain ⟨c, hc, rfl⟩ := List.mem_map.1 ht
  exact marks_assignment (hnames c hc)

theorem marks_insert (htable : '?' ∉ table.toList) (hnames : ∀ c ∈ values.names, '?' ∉ c.toList) :
    marks (insert table values) = values.size := by
  cases hempty : values.isEmpty with
  | true =>
    have hwords : marks "INSERT INTO " = 0 ∧ marks " DEFAULT VALUES" = 0 := by decide
    have hsize : values.size = 0 := by simpa [Record.size, Record.isEmpty] using hempty
    rw [insert, hempty, if_pos rfl, marks_append, marks_append, hwords.1, hwords.2, marks_of_not_mem htable, hsize]
  | false =>
    have hvalues : marks (", ".intercalate (List.replicate values.size "?")) = values.size := by
      rw [marks_intercalate (n := 1) fun t ht => by rw [List.eq_of_mem_replicate ht]; decide]
      simp
    have hclose : marks ")" = 0 := by decide
    rw [insert_eq hempty, marks_append, marks_append, marks_insertHead htable hnames, hvalues, hclose]
    omega

theorem marks_condition (condition : Option String) :
    marks (clauseText "WHERE" condition) = condition.elim 0 fun w => if Text.blank w then 0 else marks w := by
  cases condition with
  | none => rfl
  | some w =>
    have hword : marks (" " ++ "WHERE" ++ " ") = 0 := by decide
    rw [clauseText, Option.elim_some]
    split
    · rfl
    · rw [marks_append, hword, Nat.zero_add]

theorem marks_update (htable : '?' ∉ table.toList) (hnames : ∀ c ∈ values.names, '?' ∉ c.toList)
    (condition : Option String) :
    marks (update table values condition) =
      values.size + condition.elim 0 fun w => if Text.blank w then 0 else marks w := by
  have hlist := marks_intercalate (marks_assignments hnames)
  rw [update_eq, marks_append, marks_append, marks_updateHead htable, hlist, marks_condition]
  simp [Record.names, Record.size]

theorem names_at (hk : values.cells[k]? = some (column, v)) :
    values.names[k]? = some column ∧ values.values[k]? = some v := by
  simp [Record.names, Record.values, hk]

theorem insertSlot (htable : '?' ∉ table.toList) (hnames : ∀ c ∈ values.names, '?' ∉ c.toList)
    (hk : values.cells[k]? = some (column, v)) : InsertSlot table values k column v := by
  obtain ⟨hname, hvalue⟩ := names_at hk
  have hlt : k < values.size := (List.getElem?_eq_some_iff.1 hk).1
  have hfull : values.isEmpty = false := by
    simp only [Record.isEmpty, List.isEmpty_eq_false_iff]
    rintro hnil
    simp [hnil] at hk
  refine ⟨intercalate_at hname, ⟨⟨further (List.replicate (values.size - (k + 1)) "?") ++ ")", ?_⟩, ?_⟩, hvalue⟩
  · have hmark : (List.replicate values.size "?")[k]? = some "?" := by simp [hlt]
    have hmin : min k values.size = k := Nat.min_eq_left (Nat.le_of_lt hlt)
    rw [insert_eq hfull, intercalate_at hmark, List.take_replicate, List.drop_replicate, hmin]
    simp only [String.append_assoc]
  · rw [marks_append, marks_insertHead htable hnames,
      marks_listed (n := 1) fun t ht => by rw [List.eq_of_mem_replicate ht]; decide]
    simp

theorem updateSlot (htable : '?' ∉ table.toList) (hnames : ∀ c ∈ values.names, '?' ∉ c.toList)
    (hk : values.cells[k]? = some (column, v)) (condition : Option String) (more : List Value) :
    UpdateSlot table values condition (values.values ++ more) k column v := by
  obtain ⟨hname, hvalue⟩ := names_at hk
  have hlt : k < values.size := (List.getElem?_eq_some_iff.1 hk).1
  refine ⟨⟨⟨further ((values.names.map assignment).drop (k + 1)) ++ clauseText "WHERE" condition, ?_⟩, ?_⟩, ?_⟩
  · have hset : (values.names.map assignment)[k]? = some (assignment column) := by simp [hname]
    have hmark : assignment column = column ++ " = " ++ "?" := by
      rw [assignment, String.append_assoc]
      rfl
    rw [update_eq, intercalate_at hset, ← List.map_take, hmark]
    simp only [String.append_assoc]
  · have hmarks : ∀ t ∈ (values.names.take k).map assignment, marks t = 1 := by
      rw [List.map_take]
      exact fun t ht => marks_assignments hnames t (List.mem_of_mem_take ht)
    have hword : marks " = " = 0 := by decide
    have hcolumn := marks_of_not_mem (hnames column (List.mem_of_getElem? hname))
    rw [marks_append, marks_append, marks_append, marks_updateHead htable, marks_listed hmarks, hcolumn, hword]
    simp [Record.names, Record.size] at hlt ⊢
    omega
  · rw [List.getElem?_append_left (List.getElem?_eq_some_iff.1 hvalue).1]
    exact hvalue

/-- the placeholders of the condition come behind those of the columns -/
theorem conditionSlot (htable : '?' ∉ table.toList) (hnames : ∀ c ∈ values.names, '?' ∉ c.toList) {w front back : String}
    (hw : Text.blank w = false) (hsplit : w = front ++ "?" ++ back) :
    Asks (update table values (some w)) (values.size + marks front)
      (updateHead table ++ ", ".intercalate (values.names.map assignment) ++ " WHERE " ++ front) := by
  refine ⟨⟨back, ?_⟩, ?_⟩
  · rw [update_eq, clauseText, hw, if_neg Bool.false_ne_true, hsplit]
    simp [String.append_assoc]
  · have hword : marks " WHERE " = 0 := by decide
    rw [marks_append, marks_append, marks_append, marks_updateHead htable, hword,
      marks_intercalate (marks_assignments hnames)]
    simp [Record.names, Record.size]

end

end SqlText

/-! ## The values of columns -/

namespace Record

/-- where no name comes twice, every cell is found under its name -/
theorem findCell_of_mem {cells : List (String × Value)} (hnodup : (cells.map Prod.fst).Nodup) {name : String} {v : Value}
    (hmem : (name, v) ∈ cells) : findCell name cells = some v := by
  induction cells with
  | nil => cases hmem
  | cons cell rest ih =>
    obtain ⟨hnew, hrest⟩ := List.nodup_cons.1 hnodup
    rw [findCell]
    rcases List.mem_cons.1 hmem with rfl | hmem
    · rw [if_pos rfl]
    · have hne : cell.1 ≠ name := by
        rintro rfl
        exact hnew (List.mem_map.2 ⟨(cell.1, v), hmem, rfl⟩)
      rw [if_neg hne, ih hrest hmem]

end Record

namespace SqlText

open Handle (Act logged request lastId)

/-- **Placeholders and bound values line up.** Whatever the engine is, a handle carries out an insert and an update
with the texts and the values below, for names without question marks. An insert has one placeholder for each value,
an update those and the ones of its condition, unless that is blank. The `k`-th placeholder of either stands at the
place of the `k`-th column, and the `k`-th value bound is the one of that column; behind them come the placeholders of
the condition with its arguments, in order. So no value gets under the name of another column. -/
theorem placeholders_bound {C S W : Type} [Reporting W] {L : Library C S} {table : String} {values : Record}
    (htable : '?' ∉ table.toList) (hnames : ∀ c ∈ values.names, '?' ∉ c.toList) (condition : Option String)
    (args : List String) :
    let given := values.values ++ args.map .text
    ((Handle.insert L table values : Act C S W Int64) = do
      logged (insert table values) values.values.length
      let _ ← request L (.change (insert table values) values.values)
      lastId L) ∧
    ((Handle.update L table values condition args : Act C S W Nat) =
      if values.isEmpty then Task.fail (.validation (.emptyUpdate table))
      else do
        logged (update table values condition) given.length
        request L (.change (update table values condition) given)) ∧
    marks (insert table values) = values.size ∧ values.values.length = values.size ∧
    marks (update table values condition) =
      values.size + (condition.elim 0 fun w => if Text.blank w then 0 else marks w) ∧
    (∀ k column v, values.cells[k]? = some (column, v) →
      InsertSlot table values k column v ∧ UpdateSlot table values condition given k column v ∧
      (values.names.Nodup → values.get? column = some v)) ∧
    (∀ w front back, condition = some w → Text.blank w = false → w = front ++ "?" ++ back →
      Asks (update table values condition) (values.size + marks front)
        (updateHead table ++ ", ".intercalate (values.names.map assignment) ++ " WHERE " ++ front)) ∧
    ∀ j, given[values.size + j]? = args[j]?.map .text := by
  intro given
  have hlength : values.values.length = values.size := List.length_map _
  refine ⟨?_, rfl, marks_insert htable hnames, hlength, marks_update htable hnames condition, fun k column v hk => ?_,
    fun w front back hw hfull hsplit => ?_, fun j => ?_⟩
  · rw [hlength]
    rfl
  · exact ⟨insertSlot htable hnames hk, updateSlot htable hnames hk condition _,
      fun hnodup => Record.findCell_of_mem hnodup (List.mem_of_getElem? hk)⟩
  · rw [hw]
    exact conditionSlot htable hnames hfull hsplit
  · rw [← hlength, List.getElem?_append_right (Nat.le_add_right _ _), Nat.add_sub_cancel_left, List.getElem?_map]

/-- a note, with a question mark among its values -/
def noteValues : Record := ⟨[("title", .text "why?"), ("done", .boolean true)]⟩

/-- the second column and the second argument of a condition -/
theorem noteValues_bound :
    ('?' ∉ "notes".toList ∧ (∀ c ∈ noteValues.names, '?' ∉ c.toList) ∧ noteValues.names.Nodup) ∧
    marks (insert "notes" noteValues) = 2 ∧
    InsertSlot "notes" noteValues 1 "done" (.boolean true) ∧
    noteValues.get? "done" = some (.boolean true) ∧
    marks (update "notes" noteValues (some "id = ? AND owner <> ?")) = 4 ∧
    Asks (update "notes" noteValues (some "id = ? AND owner <> ?")) 1 "UPDATE notes SET title = ?, done = " ∧
    Asks (update "notes" noteValues (some "id = ? AND owner <> ?")) 3
      "UPDATE notes SET title = ?, done = ? WHERE id = ? AND owner <> " ∧
    (noteValues.values ++ ["7", "eve"].map Value.text)[3]? = some (.text "eve") := by
  have htable : '?' ∉ "notes".toList := by decide
  have hnames : ∀ c ∈ noteValues.names, '?' ∉ c.toList := by decide
  have hnodup : noteValues.names.Nodup := by decide
  obtain ⟨-, -, hinsert, -, hupdate, hcolumns, hcondition, hargs⟩ :=
    placeholders_bound (W := Host) (L := Storage.library) htable hnames (some "id = ? AND owner <> ?") ["7", "eve"]
  obtain ⟨hinserted, hupdated, hvalue⟩ := hcolumns 1 "done" (.boolean true) rfl
  refine ⟨⟨htable, hnames, hnodup⟩, hinsert, hinserted, hvalue hnodup, hupdate.trans (by decide), hupdated.asks, ?_,
    hargs 1⟩
  exact hcondition _ "id = ? AND owner <> " "" rfl (by decide) (by decide)

end SqlText

end FluentSql
