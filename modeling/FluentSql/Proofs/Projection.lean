import FluentSql.Proofs.FilterHistory
import FluentSql.Proofs.Recording
/-!
A unit of work as four statement builders that do not know of each other.

Each builder gets a part of the steps. Some steps reach several builders, and a condition reaches the builder
of the kind that is current when it is given (`Step.condition`). What a builder inside a unit has become is what
its own part of the steps, the projection (`project`), makes of a new one: one step is simulated by the part of
that step (`selectPart_apply` and its sisters), hence a chain by the projection of the chain (`foldl_project`).

Main result: `run_ofSteps_eq_builder`. A unit without a verb does nothing, and any other one makes the calls
and has the errors of the builder of its last kind, standing alone.
-/

namespace FluentSql

/-! ## Builders that stand alone -/

namespace Select

/-- one call on a read under construction -/
inductive Edit where
  | fromTable (table : String)
  | fromTables (tables : List String)
  | columns (columns : List String)
  | allColumns
  | distinct (on : Bool)
  | groupBy (body : String)
  | having (body : String)
  | orderBy (body : String)
  | limit (count : Nat)
  | limitOffset (count offset : Nat)
  | filter (e : Filter.Edit)

def Edit.apply (s : Select) : Edit → Select
  | .fromTable table => s.fromTable table
  | .fromTables tables => s.fromTables tables
  | .columns names => s.ofColumns names
  | .allColumns => s.allColumns
  | .distinct on => s.withDistinct on
  | .groupBy body => s.withGroupBy body
  | .having body => s.withHaving body
  | .orderBy body => s.withOrderBy body
  | .limit count => s.withLimit count
  | .limitOffset count offset => s.withLimitOffset count offset
  | .filter e => s.onFilter fun f => e.apply f

/-- the read that edits make -/
def ofEdits (es : List Edit) : Select := es.foldl Edit.apply .empty

end Select

namespace Insert

/-- one call on an insert under construction -/
inductive Edit where
  | intoTable (table : String)
  | set (column : String) (v : Value)
  | values (values : Record)
  | recordSet (records : RecordSet)

def Edit.apply (s : Insert) : Edit → Insert
  | .intoTable table => s.intoTable table
  | .set column v => s.set column v
  | .values r => s.withValues r
  | .recordSet records => s.withRecords records

/-- the insert that edits make -/
def ofEdits (es : List Edit) : Insert := es.foldl Edit.apply .empty

end Insert

namespace Update

/-- one call on an update under construction -/
inductive Edit where
  | table (table : String)
  | tables (tables : List String)
  | set (column : String) (v : Value)
  | values (values : Record)
  | filter (e : Filter.Edit)

def Edit.apply (s : Update) : Edit → Update
  | .table name => s.ofTable name
  | .tables names => s.ofTables names
  | .set column v => s.set column v
  | .values r => s.withValues r
  | .filter e => s.onFilter fun f => e.apply f

/-- the update that edits make -/
def ofEdits (es : List Edit) : Update := es.foldl Edit.apply .empty

end Update

namespace Delete

/-- one call on a delete under construction -/
inductive Edit where
  | fromTable (table : String)
  | fromTables (tables : List String)
  | filter (e : Filter.Edit)

def Edit.apply (s : Delete) : Edit → Delete
  | .fromTable table => s.fromTable table
  | .fromTables tables => s.fromTables tables
  | .filter e => s.onFilter fun f => e.apply f

/-- the delete that edits make -/
def ofEdits (es : List Edit) : Delete := es.foldl Edit.apply .empty

end Delete

/-! ## The part of a step that reaches a builder -/

namespace Step

/-- the kind that a step switches to; naming the table of an insert is one of them -/
def kind? : Step → Option Verb
  | .getAll => some .select
  | .get _ => some .select
  | .selectAll => some .select
  | .select _ => some .select
  | .getScalar _ _ => some .select
  | .insert _ => some .insert
  | .insertInto _ => some .insert
  | .intoTable _ => some .insert
  | .update _ => some .update
  | .updateTables _ => some .update
  | .deleteFrom _ => some .delete
  | .deleteFromTables _ => some .delete
  | _ => none

/-- how a read verb wants its rows back -/
def mode? : Step → Option OutputMode
  | .getAll => some .records
  | .get _ => some .records
  | .selectAll => some .raw
  | .select _ => some .raw
  | .getScalar _ kind => some (.scalar kind)
  | _ => none

/-- an edit that is lost unless its kind is current -/
def routed (kind : Verb) (current : Option Verb) (e : Filter.Edit) : List Filter.Edit :=
  if current = some kind then [e] else []

/-- arguments reach every builder with a condition, all else the one of the current kind -/
def condition (kind : Verb) (current : Option Verb) : Step → List Filter.Edit
  | .whereArgs args => [.setArgs args]
  | .whereRaw fragment => routed kind current (.push fragment)
  | .compare c field v => routed kind current (.compare c field v)
  | .connect c => routed kind current (.connect c)
  | _ => []

def toSelect (current : Option Verb) : Step → List Select.Edit
  | .getAll => [.allColumns]
  | .get names => [.columns names]
  | .selectAll => [.allColumns]
  | .select names => [.columns names]
  | .getScalar column _ => [.columns [column]]
  | .fromTable table => [.fromTable table]
  | .fromTables tables => [.fromTables tables]
  | .distinct => [.distinct true]
  | .columns names => [.columns names]
  | .groupBy body => [.groupBy body]
  | .having body => [.having body]
  | .orderBy body => [.orderBy body]
  | .limit count => [.limit count]
  | .limitOffset count offset => [.limitOffset count offset]
  | step => (step.condition .select current).map .filter

def toInsert : Step → List Insert.Edit
  | .insert r => [.values r]
  | .insertInto table => [.intoTable table]
  | .intoTable table => [.intoTable table]
  | .values r => [.values r]
  | .set column v => [.set column v]
  | .recordSet records => [.recordSet records]
  | _ => []

def toUpdate (current : Option Verb) : Step → List Update.Edit
  | .update table => [.table table]
  | .updateTables tables => [.tables tables]
  | .values r => [.values r]
  | .set column v => [.set column v]
  | step => (step.condition .update current).map .filter

def toDelete (current : Option Verb) : Step → List Delete.Edit
  | .deleteFrom table => [.fromTable table]
  | .deleteFromTables tables => [.fromTables tables]
  | .fromTable table => [.fromTable table]
  | .fromTables tables => [.fromTables tables]
  | step => (step.condition .delete current).map .filter

end Step

/-- the last value that a longer sequence gives -/
theorem getLast?_filterMap_concat {α β : Type} (pick : α → Option β) (l : List α) (a : α) :
    ((l ++ [a]).filterMap pick).getLast? = (pick a).or (l.filterMap pick).getLast? := by
  rw [List.filterMap_append, List.getLast?_append]
  cases h : pick a <;> simp [h]

namespace WorkUnit

/-- the parts of a chain that reach a builder, in order; each step is seen with the kind current before it -/
def project {E : Type} (part : Option Verb → Step → List E) : Option Verb → List Step → List E
  | _, [] => []
  | current, step :: rest => part current step ++ project part (step.kind?.or current) rest

/-- the kind of the last verb -/
def lastKind (steps : List Step) : Option Verb := (steps.filterMap Step.kind?).getLast?

/-- the mode of the last read verb -/
def lastMode (steps : List Step) : OutputMode := (steps.filterMap Step.mode?).getLast?.getD .records

/-! ## One step -/

section

variable (u : WorkUnit)

theorem verb_onFilter (f : Filter → Filter) : (u.onFilter f).verb = u.verb := by
  obtain ⟨verb, _, _, _, _, _⟩ := u
  rcases verb with _ | _ | _ | _ | _ <;> rfl

theorem mode_onFilter (f : Filter → Filter) : (u.onFilter f).mode = u.mode := by
  obtain ⟨verb, _, _, _, _, _⟩ := u
  rcases verb with _ | _ | _ | _ | _ <;> rfl

theorem selectPart_onFilter (e : Filter.Edit) :
    (u.onFilter fun f => e.apply f).selectPart =
      ((Step.routed .select u.verb e).map Select.Edit.filter).foldl Select.Edit.apply u.selectPart := by
  obtain ⟨verb, _, _, _, _, _⟩ := u
  rcases verb with _ | _ | _ | _ | _ <;> rfl

theorem insertPart_onFilter (f : Filter → Filter) : (u.onFilter f).insertPart = u.insertPart := by
  obtain ⟨verb, _, _, _, _, _⟩ := u
  rcases verb with _ | _ | _ | _ | _ <;> rfl

theorem updatePart_onFilter (e : Filter.Edit) :
    (u.onFilter fun f => e.apply f).updatePart =
      ((Step.routed .update u.verb e).map Update.Edit.filter).foldl Update.Edit.apply u.updatePart := by
  obtain ⟨verb, _, _, _, _, _⟩ := u
  rcases verb with _ | _ | _ | _ | _ <;> rfl

theorem deletePart_onFilter (e : Filter.Edit) :
    (u.onFilter fun f => e.apply f).deletePart =
      ((Step.routed .delete u.verb e).map Delete.Edit.filter).foldl Delete.Edit.apply u.deletePart := by
  obtain ⟨verb, _, _, _, _, _⟩ := u
  rcases verb with _ | _ | _ | _ | _ <;> rfl

variable (step : Step)

theorem verb_apply : (u.apply step).verb = step.kind?.or u.verb := by
  cases step with
  | whereRaw fragment => exact verb_onFilter u _
  | compare c field v => exact verb_onFilter u _
  | connect c => exact verb_onFilter u _
  | _ => rfl

theorem mode_apply : (u.apply step).mode = step.mode?.getD u.mode := by
  cases step with
  | whereRaw fragment => exact mode_onFilter u _
  | compare c field v => exact mode_onFilter u _
  | connect c => exact mode_onFilter u _
  | _ => rfl

/-- the read inside a unit takes its own part of a step -/
theorem selectPart_apply :
    (u.apply step).selectPart = (step.toSelect u.verb).foldl Select.Edit.apply u.selectPart := by
  cases step with
  | whereRaw fragment => exact selectPart_onFilter u (.push fragment)
  | compare c field v => exact selectPart_onFilter u (.compare c field v)
  | connect c => exact selectPart_onFilter u (.connect c)
  | _ => rfl

theorem insertPart_apply :
    (u.apply step).insertPart = step.toInsert.foldl Insert.Edit.apply u.insertPart := by
  cases step with
  | whereRaw fragment => exact insertPart_onFilter u _
  | compare c field v => exact insertPart_onFilter u _
  | connect c => exact insertPart_onFilter u _
  | _ => rfl

theorem updatePart_apply :
    (u.apply step).updatePart = (step.toUpdate u.verb).foldl Update.Edit.apply u.updatePart := by
  cases step with
  | whereRaw fragment => exact updatePart_onFilter u (.push fragment)
  | compare c field v => exact updatePart_onFilter u (.compare c field v)
  | connect c => exact updatePart_onFilter u (.connect c)
  | _ => rfl

theorem deletePart_apply :
    (u.apply step).deletePart = (step.toDelete u.verb).foldl Delete.Edit.apply u.deletePart := by
  cases step with
  | whereRaw fragment => exact deletePart_onFilter u (.push fragment)
  | compare c field v => exact deletePart_onFilter u (.compare c field v)
  | connect c => exact deletePart_onFilter u (.connect c)
  | _ => rfl

end

/-! ## A chain of steps -/

/-- **A chain by its projection.** What takes its own part of every step takes the projection of a chain. -/
theorem foldl_project {B E : Type} {look : WorkUnit → B} {app : B → E → B} {part : Option Verb → Step → List E}
    (hstep : ∀ u step, look (u.apply step) = (part u.verb step).foldl app (look u)) (steps : List Step)
    (u : WorkUnit) : look (steps.foldl apply u) = (project part u.verb steps).foldl app (look u) := by
  induction steps generalizing u with
  | nil => rfl
  | cons step rest ih => rw [List.foldl_cons, ih, hstep, verb_apply, project, List.foldl_append]

section

variable (steps : List Step)

/-- the kind of the last verb of a chain, if it has one -/
theorem verb_foldl (u : WorkUnit) : (steps.foldl apply u).verb = (lastKind steps).or u.verb := by
  induction steps using List.reverseRecOn with
  | nil => rfl
  | append_singleton steps step ih =>
    rw [List.foldl_append, List.foldl_cons, List.foldl_nil, verb_apply, ih, lastKind, lastKind,
      getLast?_filterMap_concat, Option.or_assoc]

/-- the mode of the last read verb of a chain, if it has one -/
theorem mode_foldl (u : WorkUnit) :
    (steps.foldl apply u).mode = (steps.filterMap Step.mode?).getLast?.getD u.mode := by
  induction steps using List.reverseRecOn with
  | nil => rfl
  | append_singleton steps step ih =>
    rw [List.foldl_append, List.foldl_cons, List.foldl_nil, mode_apply, ih, getLast?_filterMap_concat]
    cases step.mode? <;> rfl

theorem verb_ofSteps : (ofSteps steps).verb = lastKind steps :=
  (verb_foldl steps .empty).trans (Option.or_none)

theorem mode_ofSteps : (ofSteps steps).mode = lastMode steps := mode_foldl steps .empty

theorem selectPart_ofSteps : (ofSteps steps).selectPart = .ofEdits (project Step.toSelect none steps) :=
  foldl_project selectPart_apply steps .empty

theorem insertPart_ofSteps : (ofSteps steps).insertPart = .ofEdits (project (fun _ => Step.toInsert) none steps) :=
  foldl_project insertPart_apply steps .empty

theorem updatePart_ofSteps : (ofSteps steps).updatePart = .ofEdits (project Step.toUpdate none steps) :=
  foldl_project updatePart_apply steps .empty

theorem deletePart_ofSteps : (ofSteps steps).deletePart = .ofEdits (project Step.toDelete none steps) :=
  foldl_project deletePart_apply steps .empty

end

/-! ## Running -/

/-- **A unit runs as the builder of its last kind.** Without a verb it makes no call. Otherwise its calls, what
they leave behind and the error of a failing one are those of the builder that got the projection of the chain
and nothing else; only a result that came is handed back in the unit's own shape. -/
theorem run_ofSteps_eq_builder {W : Type} [Reporting W] (steps : List Step) (c : Channel W) (w : W) :
    let unit := (ofSteps steps).run (c.recorded id) ([], w)
    match lastKind steps with
    | none => unit = (.ok .nothing, [], w)
    | some .select =>
      let alone := (Select.ofEdits (project Step.toSelect none steps)).run (c.recorded id) ([], w)
      unit = (alone.1.bind (shapeRows (lastMode steps)), alone.2)
    | some .insert =>
      let builder := Insert.ofEdits (project (fun _ => Step.toInsert) none steps)
      let alone := builder.run (c.recorded id) ([], w)
      unit = (alone.1.map (shapeIds builder.records.isSome), alone.2)
    | some .update =>
      let alone := (Update.ofEdits (project Step.toUpdate none steps)).run (c.recorded id) ([], w)
      unit = (alone.1.map .affected, alone.2)
    | some .delete =>
      let alone := (Delete.ofEdits (project Step.toDelete none steps)).run (c.recorded id) ([], w)
      unit = (alone.1.map .affected, alone.2) := by
  intro unit
  rcases hkind : lastKind steps with _ | _ | _ | _ | _ <;>
    simp only [unit, run, verb_ofSteps, mode_ofSteps, hkind, ← selectPart_ofSteps, ← insertPart_ofSteps,
      ← updatePart_ofSteps, ← deletePart_ofSteps]
  · rfl
  · exact Task.bind_ofExcept_eq ..
  · exact Task.bind_pure_eq ..
  · exact Task.bind_pure_eq ..
  · exact Task.bind_pure_eq ..

end WorkUnit

end FluentSql
