import FluentSql.Proofs.UnitReuse
import Mathlib.Data.List.DropRight
/-!
A record after any sequence of calls, read off the sequence alone.

Every call is a sequence of changes that write one name, erase one name or clear all of them (`Edit.changes`). What
counts for a name are the changes since it was last erased or cleared away (`since`): its value is the last one written
to it there (`lastWrite?`), and its place among the names is that of the first write (`firstWrite?`). One change keeps
this up (`Reads.concat`), so every sequence does (`ofEdits_reads`).

In a unit of work the insert and the update get the same calls on their values, whatever the kind is when they come
(`insertPart_values`, `updatePart_values`).

Main result: `ordered_last_writes`. A record is a map that keeps the last write to each name, in the order of the first
ones, and an insert and an update that are put together by the same calls send the same record.
-/

namespace FluentSql

namespace Record

/-! ## Calls and changes -/

/-- one call on a record -/
inductive Edit where
  | set (name : String) (v : Value)
  | extend (other : Record)
  | erase (name : String)
  | clear
  /-- a new record takes the place of the old one -/
  | collect (cells : List (String × Value))

def Edit.apply (r : Record) : Edit → Record
  | .set name v => r.set name v
  | .extend other => r.extend other
  | .erase name => r.erase name
  | .clear => .empty
  | .collect cells => .ofList cells

/-- the record that calls make -/
def ofEdits (es : List Edit) : Record := es.foldl Edit.apply .empty

/-- what happens to a record at once -/
inductive Change where
  | write (name : String) (v : Value)
  | erase (name : String)
  | clear

def Change.apply (r : Record) : Change → Record
  | .write name v => r.set name v
  | .erase name => r.erase name
  | .clear => .empty

/-- the writes of cells, in order -/
def writes (cells : List (String × Value)) : List Change := cells.map fun cell => .write cell.1 cell.2

/-- the changes that a call makes, in order -/
def Edit.changes : Edit → List Change
  | .set name v => [.write name v]
  | .extend other => writes other.cells
  | .erase name => [.erase name]
  | .clear => [.clear]
  | .collect cells => .clear :: writes cells

theorem foldl_writes (cells : List (String × Value)) (r : Record) :
    (writes cells).foldl Change.apply r = r.setAll cells := by
  rw [writes, List.foldl_map]
  rfl

theorem apply_eq_changes (r : Record) (e : Edit) : e.apply r = e.changes.foldl Change.apply r := by
  cases e with
  | extend other => exact (foldl_writes other.cells r).symm
  | collect cells => exact (foldl_writes cells .empty).symm
  | _ => rfl

theorem ofEdits_append (es fs : List Edit) : ofEdits (es ++ fs) = fs.foldl Edit.apply (ofEdits es) := List.foldl_append

theorem ofEdits_eq_changes (es : List Edit) :
    ofEdits es = (es.flatMap Edit.changes).foldl Change.apply .empty := by
  rw [List.foldl_flatMap, ofEdits]
  congr 1
  funext r e
  exact apply_eq_changes r e

/-! ## What the changes say of a name -/

/-- the name is gone after the change -/
def Change.removes (name : String) : Change → Bool
  | .write _ _ => false
  | .erase other => other = name
  | .clear => true

/-- the value that a change writes to a name -/
def Change.value? (name : String) : Change → Option Value
  | .write other v => if other = name then some v else none
  | _ => none

/-- the changes since the name was last erased or cleared away -/
def since (name : String) (cs : List Change) : List Change := cs.rtakeWhile fun c => !c.removes name

/-- the value of the last write to a name that was not followed by its removal -/
def lastWrite? (name : String) (cs : List Change) : Option Value :=
  ((since name cs).filterMap (Change.value? name)).getLast?

/-- the place, among all changes, of the first write to a name since it was last removed -/
def firstWrite? (name : String) (cs : List Change) : Option Nat :=
  ((since name cs).findIdx? fun c => (c.value? name).isSome).map (· + (cs.length - (since name cs).length))

/-- both names are there, and the first one was written first -/
def Earlier (cs : List Change) (a b : String) : Prop :=
  ∃ i j, firstWrite? a cs = some i ∧ firstWrite? b cs = some j ∧ i < j

section

variable (name : String) (cs : List Change) (c : Change)

theorem since_concat : since name (cs ++ [c]) = if c.removes name then [] else since name cs ++ [c] := by
  rw [since, List.rtakeWhile_concat, ← since]
  cases c.removes name <;> rfl

theorem length_since_le : (since name cs).length ≤ cs.length := (List.rtakeWhile_suffix _ _).length_le

theorem lastWrite?_concat :
    lastWrite? name (cs ++ [c]) = if c.removes name then none else (c.value? name).or (lastWrite? name cs) := by
  rw [lastWrite?, since_concat]
  cases c.removes name with
  | true => rfl
  | false =>
    rw [if_neg Bool.false_ne_true, if_neg Bool.false_ne_true, getLast?_filterMap_concat, ← lastWrite?]

theorem firstWrite?_concat :
    firstWrite? name (cs ++ [c]) = if c.removes name then none
      else (firstWrite? name cs).or (if (c.value? name).isSome then some cs.length else none) := by
  have hle := length_since_le name cs
  rw [firstWrite?, since_concat]
  cases c.removes name with
  | true => rfl
  | false =>
    have hshift : cs.length + 1 - ((since name cs).length + 1) = cs.length - (since name cs).length := by omega
    have hplace : (since name cs).length + (cs.length - (since name cs).length) = cs.length := by omega
    rw [if_neg Bool.false_ne_true, if_neg Bool.false_ne_true, List.findIdx?_append, Option.map_or, List.length_append,
      List.length_append, List.length_singleton, hshift, ← firstWrite?]
    cases hwrites : (c.value? name).isSome with
    | false => simp [List.findIdx?_cons, hwrites]
    | true => simp [List.findIdx?_cons, hwrites, hplace]

/-- a name has a value exactly if it has a place -/
theorem isSome_firstWrite? : (firstWrite? name cs).isSome = (lastWrite? name cs).isSome := by
  induction cs using List.reverseRecOn with
  | nil => rfl
  | append_singleton cs c ih =>
    rw [firstWrite?_concat, lastWrite?_concat]
    cases c.removes name with
    | true => rfl
    | false => cases c.value? name <;> simp [ih]

end

theorem firstWrite?_lt {name : String} {cs : List Change} {i : Nat} (h : firstWrite? name cs = some i) :
    i < cs.length := by
  rw [firstWrite?, Option.map_eq_some_iff] at h
  obtain ⟨k, hk, rfl⟩ := h
  have hlt : k < (since name cs).length := (List.findIdx?_eq_some_iff_getElem.1 hk).1
  have hle := length_since_le name cs
  omega

/-- what does not remove two names leaves their places alone -/
theorem Earlier.concat {cs : List Change} {c : Change} {a b : String} (h : Earlier cs a b) (ha : c.removes a = false)
    (hb : c.removes b = false) : Earlier (cs ++ [c]) a b := by
  obtain ⟨i, j, hi, hj, hlt⟩ := h
  refine ⟨i, j, ?_, ?_, hlt⟩
  · rw [firstWrite?_concat, ha, hi]
    rfl
  · rw [firstWrite?_concat, hb, hj]
    rfl

/-! ## One change -/

/-- a record has for each name the last value written, and its names in the order of their first writes -/
structure Reads (cs : List Change) (r : Record) : Prop where
  value : ∀ name, r.get? name = lastWrite? name cs
  order : r.names.Pairwise (Earlier cs)

namespace Reads

variable {cs : List Change} {r : Record}

theorem mem_names (h : Reads cs r) (name : String) : name ∈ r.names ↔ (firstWrite? name cs).isSome = true := by
  rw [mem_names_iff, h.value, isSome_firstWrite?]

theorem nodup (h : Reads cs r) : r.names.Nodup := by
  refine h.order.imp ?_
  rintro a b ⟨i, j, hi, hj, hlt⟩ rfl
  rw [hi] at hj
  cases hj
  exact Nat.lt_irrefl i hlt

theorem write (h : Reads cs r) (name : String) (v : Value) : Reads (cs ++ [.write name v]) (r.set name v) := by
  refine ⟨fun other => ?_, ?_⟩
  · rw [get?_set, lastWrite?_concat, h.value]
    by_cases hn : name = other <;> simp [Change.removes, Change.value?, hn]
  · have hkept : r.names.Pairwise (Earlier (cs ++ [.write name v])) := h.order.imp fun he => he.concat rfl rfl
    rw [names_set]
    split_ifs with hmem
    · exact hkept
    -- a new name goes to the end, and its write is the last change
    · refine List.pairwise_append.2 ⟨hkept, List.pairwise_singleton _ _, fun a ha b hb => ?_⟩
      rw [List.mem_singleton.1 hb]
      obtain ⟨i, hi⟩ := Option.isSome_iff_exists.1 ((h.mem_names a).1 ha)
      have hnone : firstWrite? name cs = none := by
        rw [← Option.not_isSome_iff_eq_none, ← h.mem_names]
        exact hmem
      refine ⟨i, cs.length, ?_, ?_, firstWrite?_lt hi⟩
      · rw [firstWrite?_concat, hi]
        rfl
      · rw [firstWrite?_concat, hnone]
        simp [Change.removes, Change.value?]

theorem erase (h : Reads cs r) (name : String) : Reads (cs ++ [.erase name]) (r.erase name) := by
  refine ⟨fun other => ?_, ?_⟩
  · rw [get?_erase, lastWrite?_concat, h.value]
    by_cases hn : name = other <;> simp [Change.removes, Change.value?, hn]
  · rw [names_erase]
    have hother : ∀ a ∈ r.names.filter (· ≠ name), (Change.erase name).removes a = false := fun a ha =>
      decide_eq_false fun heq => of_decide_eq_true (List.mem_filter.1 ha).2 heq.symm
    exact (h.order.sublist List.filter_sublist).imp_of_mem fun ha hb he => he.concat (hother _ ha) (hother _ hb)

theorem clear : Reads (cs ++ [.clear]) .empty := by
  refine ⟨fun name => ?_, List.Pairwise.nil⟩
  rw [lastWrite?_concat]
  rfl

/-- one more change -/
theorem concat (h : Reads cs r) (c : Change) : Reads (cs ++ [c]) (c.apply r) := by
  cases c with
  | write name v => exact h.write name v
  | erase name => exact h.erase name
  | clear => exact clear

end Reads

/-- **A record is what its changes say of each name.** -/
theorem foldl_reads (cs : List Change) : Reads cs (cs.foldl Change.apply .empty) := by
  induction cs using List.reverseRecOn with
  | nil => exact ⟨fun _ => rfl, List.Pairwise.nil⟩
  | append_singleton cs c ih =>
    rw [List.foldl_append]
    exact ih.concat c

theorem ofEdits_reads (es : List Edit) : Reads (es.flatMap Edit.changes) (ofEdits es) := by
  rw [ofEdits_eq_changes]
  exact foldl_reads _

/-- a name that was erased comes back at the end -/
example : (ofEdits [.set "a" .null, .set "b" .null, .erase "a", .extend ⟨[("b", .null), ("a", .null)]⟩]).names =
    ["b", "a"] := rfl

end Record

/-! ## The values of a unit -/

/-- what a step does to the values of an insert and of an update alike -/
def Step.valueEdits : Step → List Record.Edit
  | .values r => [.extend r]
  | .set column v => [.set column v]
  | _ => []

/-- a step that gives an insert values of its own -/
def Step.seedsInsert : Step → Bool
  | .insert _ => true
  | .recordSet _ => true
  | _ => false

/-- conditions leave the values of an update alone -/
theorem Update.values_foldl_filter (es : List Filter.Edit) (s : Update) :
    ((es.map Update.Edit.filter).foldl Update.Edit.apply s).values = s.values := by
  induction es generalizing s with
  | nil => rfl
  | cons e es ih => exact ih _

namespace WorkUnit

variable {steps : List Step}

/-- without values of its own, an insert has the values that the calls on values make, and no record set -/
theorem insertPart_values (h : ∀ step ∈ steps, step.seedsInsert = false) :
    (ofSteps steps).insertPart.values = .ofEdits (steps.flatMap Step.valueEdits) ∧
      (ofSteps steps).insertPart.records = none := by
  induction steps using List.reverseRecOn with
  | nil => exact ⟨rfl, rfl⟩
  | append_singleton steps step ih =>
    obtain ⟨hvalues, hrecords⟩ := ih fun s hs => h s (List.mem_append_left _ hs)
    have hseeds : step.seedsInsert = false := h step (by simp)
    rw [ofSteps_concat, insertPart_apply, List.flatMap_append, List.flatMap_singleton, Record.ofEdits_append,
      ← hvalues, ← hrecords]
    cases step <;> first | exact ⟨rfl, rfl⟩ | cases hseeds

/-- an update has the values that the calls on values make -/
theorem updatePart_values (steps : List Step) :
    (ofSteps steps).updatePart.values = .ofEdits (steps.flatMap Step.valueEdits) := by
  induction steps using List.reverseRecOn with
  | nil => rfl
  | append_singleton steps step ih =>
    rw [ofSteps_concat, updatePart_apply, List.flatMap_append, List.flatMap_singleton, Record.ofEdits_append, ← ih]
    cases step <;> first | rfl | exact Update.values_foldl_filter _ _

section

variable {W : Type} [Reporting W] (c : Channel W) (w : W)

/-- the statements that a unit issues -/
def issued (u : WorkUnit) : List Statement := (u.run (c.recorded id) ([], w)).2.1

variable {u : WorkUnit}

theorem issued_insert (hkind : u.verb = some .insert) (hrecords : u.insertPart.records = none) :
    issued c w u = if Text.blank u.insertPart.table then [] else [.insert u.insertPart.table u.insertPart.values] := by
  have hrun : issued c w u = (u.insertPart.run (c.recorded id) ([], w)).2.1 := by
    simp only [issued, run, hkind, Task.bind_pure_eq]
  rw [hrun, Insert.run, Task.bind_eq, Task.ofExcept_eq, Insert.validate, requireTable]
  split_ifs with hblank
  · rfl
  · simp only [Insert.execute, hrecords, Task.bind_pure_eq]
    rfl

theorem issued_update (hkind : u.verb = some .update) :
    issued c w u = if Text.blank u.updatePart.table then []
      else [.update u.updatePart.table u.updatePart.values u.updatePart.filter.clause? u.updatePart.filter.args] := by
  have hrun : issued c w u = (u.updatePart.run (c.recorded id) ([], w)).2.1 := by
    simp only [issued, run, hkind, Task.bind_pure_eq]
  rw [hrun, Update.run, Task.bind_eq, Task.ofExcept_eq, Update.validate, requireTable]
  split_ifs with hblank
  · rfl
  · rfl

end

/-- **Records keep the last write to each name, in the order of the first ones.** Whatever was called on a record, its
names differ, a name has the value of the last write that no removal followed, and the names stand in the order of
their first writes since they were last removed. So an insert and an update that got the same calls on their values,
and the insert no values of its own, send one and the same record. -/
theorem ordered_last_writes :
    (∀ es : List Record.Edit,
      let r := Record.ofEdits es
      let changes := es.flatMap Record.Edit.changes
      r.names.Nodup ∧ (∀ name, r.get? name = Record.lastWrite? name changes) ∧
      (∀ name, name ∈ r.names ↔ (Record.firstWrite? name changes).isSome = true) ∧
      r.names.Pairwise (Record.Earlier changes)) ∧
    ∀ {W : Type} [Reporting W] (c : Channel W) (w : W) (steps : List Step),
      (∀ step ∈ steps, step.seedsInsert = false) →
      let r := Record.ofEdits (steps.flatMap Step.valueEdits)
      let insert := (ofSteps steps).insertPart
      let update := (ofSteps steps).updatePart
      (lastKind steps = some .insert →
        issued c w (ofSteps steps) = if Text.blank insert.table then [] else [.insert insert.table r]) ∧
      (lastKind steps = some .update →
        issued c w (ofSteps steps) = if Text.blank update.table then []
          else [.update update.table r update.filter.clause? update.filter.args]) := by
  refine ⟨fun es => ?_, fun c w steps hseeds => ⟨fun hkind => ?_, fun hkind => ?_⟩⟩
  · have hreads := Record.ofEdits_reads es
    exact ⟨hreads.nodup, hreads.value, hreads.mem_names, hreads.order⟩
  · obtain ⟨hvalues, hrecords⟩ := insertPart_values hseeds
    rw [issued_insert c w ((verb_ofSteps steps).trans hkind) hrecords, hvalues]
  · rw [issued_update c w ((verb_ofSteps steps).trans hkind), updatePart_values]

/-- values given one by one and as a record, in front of the verb and behind it -/
def priceSteps (verb : Step) : List Step :=
  [.set "price" (.integer 3), .values ⟨[("name", .text "milk"), ("price", .integer 4)]⟩, verb, .set "name" .null]

theorem priceSteps_same :
    (∀ verb ∈ [Step.insertInto "t", Step.update "t"], ∀ step ∈ priceSteps verb, step.seedsInsert = false) ∧
    rehearsedStatements (ofSteps (priceSteps (.insertInto "t"))) =
      [.insert "t" ⟨[("price", .integer 4), ("name", .null)]⟩] ∧
    rehearsedStatements (ofSteps (priceSteps (.update "t"))) =
      [.update "t" ⟨[("price", .integer 4), ("name", .null)]⟩ none []] := by
  have hseeds : ∀ verb ∈ [Step.insertInto "t", Step.update "t"], ∀ step ∈ priceSteps verb,
      step.seedsInsert = false := by
    simp [priceSteps, Step.seedsInsert]
  have hclause : Filter.empty.clause? = none := Filter.clause?_of_no_fragments rfl
  obtain ⟨hinsert, -⟩ := ordered_last_writes.2 (Host.backend.channel (Host.first "app"))
    (Host.rehearsing "app" .standard) _ (hseeds (.insertInto "t") (by simp))
  obtain ⟨-, hupdate⟩ := ordered_last_writes.2 (Host.backend.channel (Host.first "app"))
    (Host.rehearsing "app" .standard) _ (hseeds (.update "t") (by simp))
  rw [← hclause]
  exact ⟨hseeds, hinsert rfl, hupdate rfl⟩

end WorkUnit

end FluentSql
