import FluentSql.Proofs.NamedAccess
import FluentSql.Proofs.UnitReuse
/-!
A read of a single value beside the same read of records. The two units differ in the verb only, so they hold the same
read (`selectPart_scalarRead`) and hand back the same rows in two shapes (`scalarRead_answered`, `recordRead_answered`).
The scalar is converted from the first cell of the first row (`shapeRows_single`), and that is the cell that the first
record has under the name of the column (`toRecords_single`), so the record foretells the answer (`shapeRows_foretold`).

Main result: `scalar_reads_agree`.
-/

namespace FluentSql

/-! ## One cell in two readings -/

namespace Record

/-- the reading of a record that belongs to each kind of scalar -/
def scalar? (r : Record) (name : String) : ScalarKind → Option Scalar
  | .text => (r.getText? name).map .text
  | .int => (r.getInt64? name).map .int
  | .float => (r.getFloat? name).map .float
  | .double => (r.getDouble? name).map .double

theorem scalar?_eq (r : Record) (name : String) (kind : ScalarKind) :
    r.scalar? name kind = (r.get? name).bind (Scalar.ofValue? kind) := by
  cases hcell : r.get? name with
  | none => cases kind <;> simp [scalar?, getText?, getInt64?, getFloat?, getDouble?, hcell]
  | some v =>
    cases kind <;>
      simp [scalar?, getText?, getInt64?, getFloat?, getDouble?, hcell, Scalar.ofValue?, Function.comp_def]

/-- the answer of a scalar read is what the record has under the name -/
structure Foretells (r : Record) (name : String) (kind : ScalarKind) (answer : Except DbError Outcome) : Prop where
  absent : answer = .ok (.scalar none) ↔ r.get? name = some .null
  found : ∀ s, answer = .ok (.scalar (some s)) ↔ r.scalar? name kind = some s
  unreadable : (∃ why, answer = .error (.conversion name why)) ↔
    r.get? name ≠ some .null ∧ r.scalar? name kind = none

end Record

namespace Scalar

theorem ofValue?_null (kind : ScalarKind) : ofValue? kind .null = none := by
  cases kind <;> rfl

theorem convert_null (column : String) (kind : ScalarKind) : convert column kind .null = .ok none := rfl

/-- a cell with a value is converted, or it cannot be read -/
theorem convert_of_ne_null {v : Value} (hv : v ≠ .null) (column : String) (kind : ScalarKind) :
    convert column kind v =
      ((ofValue? kind v).map fun s => .ok (some s)).getD (.error (.conversion column (.cannotRead v kind))) := by
  have hnull : v.isNull = false := by
    cases v <;> first | rfl | exact absurd rfl hv
  rw [convert, hnull, if_neg Bool.false_ne_true]
  cases ofValue? kind v <;> rfl

/-- converting the cell of a record -/
theorem convert_foretold {r : Record} {column : String} {v : Value} (hcell : r.get? column = some v)
    (kind : ScalarKind) : r.Foretells column kind ((convert column kind v).map .scalar) := by
  have hreading : r.scalar? column kind = ofValue? kind v := by rw [Record.scalar?_eq, hcell, Option.bind_some]
  by_cases hv : v = .null
  · subst hv
    rw [convert_null]
    rw [ofValue?_null] at hreading
    constructor <;> simp [Except.map, hcell, hreading]
  · rw [convert_of_ne_null hv]
    cases hs : ofValue? kind v with
    | none => constructor <;> simp [Except.map, hcell, hreading, hv, hs]
    | some s => constructor <;> simp [Except.map, hcell, hreading, hv, hs]

end Scalar

/-! ## Results with one column -/

/-- a row of one cell becomes a record of one cell -/
theorem Rows.toRecords_single (column : String) (cells : List Value) (pushed : List (List Value)) :
    (ofPushes [column] (cells :: pushed)).toRecords =
      .ofList [(column, cells.headD .null)] :: (ofPushes [column] pushed).toRecords := by
  rw [ofPushes_eq, ofPushes_eq]
  cases cells <;> rfl

namespace WorkUnit

/-- the scalar of a result with one column is the first cell of its first row -/
theorem shapeRows_single (kind : ScalarKind) (column : String) (cells : List Value) (pushed : List (List Value)) :
    shapeRows (.scalar kind) (Rows.ofPushes [column] (cells :: pushed)) =
      (Scalar.convert column kind (cells.headD .null)).map .scalar := by
  rw [Rows.ofPushes_eq]
  cases cells <;> rfl

/-- without records there is no scalar -/
theorem shapeRows_absent {column : String} {pushed : List (List Value)}
    (hnone : (Rows.ofPushes [column] pushed).toRecords = []) (kind : ScalarKind) :
    shapeRows (.scalar kind) (Rows.ofPushes [column] pushed) = .ok (.scalar none) := by
  cases pushed with
  | nil => rfl
  | cons cells pushed => cases (Rows.toRecords_single column cells pushed).symm.trans hnone

/-- the first record tells the scalar -/
theorem shapeRows_foretold {column : String} {pushed : List (List Value)} {r : Record} {rest : List Record}
    (hfirst : (Rows.ofPushes [column] pushed).toRecords = r :: rest) (kind : ScalarKind) :
    r.Foretells column kind (shapeRows (.scalar kind) (Rows.ofPushes [column] pushed)) := by
  cases pushed with
  | nil => cases hfirst
  | cons cells pushed =>
    obtain ⟨rfl, -⟩ := List.cons.inj ((Rows.toRecords_single column cells pushed).symm.trans hfirst)
    have hcell : (Record.ofList [(column, cells.headD .null)]).get? column = some (cells.headD .null) := by
      simp [Record.get?_ofList, Record.findCell]
    rw [shapeRows_single]
    exact Scalar.convert_foretold hcell kind

theorem shapeRows_width {columns : List String} (hwidth : columns.length ≠ 1) (kind : ScalarKind)
    (pushed : List (List Value)) :
    shapeRows (.scalar kind) (Rows.ofPushes columns pushed) = .error (.validation (.scalarWidth columns.length)) := by
  rw [Rows.ofPushes_eq]
  rcases columns with _ | ⟨_, _ | ⟨_, _⟩⟩
  · rfl
  · exact absurd rfl hwidth
  · rfl

/-! ## The same read twice -/

/-- a chain whose last verb reads a column as one value -/
def scalarRead (before : List Step) (column : String) (kind : ScalarKind) (after : List Step) : WorkUnit :=
  ofSteps (before ++ .getScalar column kind :: after)

/-- the same chain with a verb that reads the column as records -/
def recordRead (before : List Step) (column : String) (after : List Step) : WorkUnit :=
  ofSteps (before ++ .get [column] :: after)

/-- a chain with a verb in it, from the verb on -/
theorem ofSteps_verb (before : List Step) (verb : Step) (after : List Step) :
    ofSteps (before ++ verb :: after) = after.foldl apply ((ofSteps before).apply verb) := by
  rw [ofSteps, List.foldl_append, ← ofSteps, List.foldl_cons]

/-- both units hold the same read -/
theorem selectPart_scalarRead (before after : List Step) (column : String) (kind : ScalarKind) :
    (scalarRead before column kind after).selectPart = (recordRead before column after).selectPart := by
  rw [scalarRead, recordRead, ofSteps_verb, ofSteps_verb, foldl_project selectPart_apply,
    foldl_project selectPart_apply]
  rfl

/-- modifiers leave the kind and the mode of a read verb -/
theorem ofSteps_read (verb : Step) {mode : OutputMode} (hkind : verb.kind? = some .select)
    (hmode : verb.mode? = some mode) {after : List Step} (hmodifiers : ∀ step ∈ after, step.kind? = none)
    (before : List Step) :
    (ofSteps (before ++ verb :: after)).verb = some .select ∧ (ofSteps (before ++ verb :: after)).mode = mode := by
  have hkinds : after.filterMap Step.kind? = [] := List.filterMap_eq_nil_iff.2 hmodifiers
  have hmodes : after.filterMap Step.mode? = [] := by
    refine List.filterMap_eq_nil_iff.2 fun step hstep => ?_
    have hnone := hmodifiers step hstep
    cases step <;> first | rfl | cases hnone
  rw [ofSteps_verb, verb_foldl, mode_foldl, verb_apply, mode_apply, lastKind, hkinds, hmodes, hkind, hmode]
  exact ⟨rfl, rfl⟩

section

variable {W : Type} [Reporting W] {c : Channel W} {w w' : W} {rows : Rows}

/-- a read whose query is answered hands the rows back in its mode -/
theorem run_answered {u : WorkUnit} (hverb : u.verb = some .select) (htable : Text.blank u.selectPart.table = false)
    (hanswer : c.query u.selectPart.query w = (.ok rows, w')) : u.run c w = (shapeRows u.mode rows, w') := by
  have hread : u.selectPart.run c w = (.ok rows, w') := by
    rw [Select.run, Task.bind_eq, Task.ofExcept_eq, Select.validate, requireTable, htable]
    exact hanswer
  simp only [run, hverb, Task.bind_ofExcept_eq, hread]
  rfl

variable {before after : List Step} {asked : String}

theorem scalarRead_answered (kind : ScalarKind) (hmodifiers : ∀ step ∈ after, step.kind? = none)
    (htable : Text.blank (recordRead before asked after).selectPart.table = false)
    (hanswer : c.query (recordRead before asked after).selectPart.query w = (.ok rows, w')) :
    (scalarRead before asked kind after).run c w = (shapeRows (.scalar kind) rows, w') := by
  obtain ⟨hverb, hmode⟩ := ofSteps_read (.getScalar asked kind) rfl rfl hmodifiers before
  rw [← selectPart_scalarRead before after asked kind] at htable hanswer
  rw [← scalarRead] at hverb hmode
  rw [run_answered hverb htable hanswer, hmode]

theorem recordRead_answered (hmodifiers : ∀ step ∈ after, step.kind? = none)
    (htable : Text.blank (recordRead before asked after).selectPart.table = false)
    (hanswer : c.query (recordRead before asked after).selectPart.query w = (.ok rows, w')) :
    (recordRead before asked after).run c w = (.ok (.records rows.toRecords), w') := by
  obtain ⟨hverb, hmode⟩ := ofSteps_read (.get [asked]) rfl rfl hmodifiers before
  rw [← recordRead] at hverb hmode
  rw [run_answered hverb htable hanswer, hmode]
  rfl

/-- **A scalar read agrees with the same read of records.** The two units make the same calls. If the handle answers
rows with another number of columns than one, the scalar read is refused, whatever the rows are. If there is one column,
no row gives an absent scalar; else the first record tells the answer: absent for null, the value that the reading of
its kind gives, or a conversion error that names the column. Another handle that answers other rows behind the first one
makes no difference. -/
theorem scalar_reads_agree (kind : ScalarKind) {columns : List String} {pushed : List (List Value)}
    (hmodifiers : ∀ step ∈ after, step.kind? = none)
    (htable : Text.blank (recordRead before asked after).selectPart.table = false)
    (hanswer : c.query (recordRead before asked after).selectPart.query w = (.ok (Rows.ofPushes columns pushed), w')) :
    let records := (Rows.ofPushes columns pushed).toRecords
    let scalarRun := (scalarRead before asked kind after).run c w
    (recordRead before asked after).run c w = (.ok (.records records), w') ∧ scalarRun.2 = w' ∧
    (columns.length ≠ 1 → scalarRun.1 = .error (.validation (.scalarWidth columns.length))) ∧
    ∀ column, columns = [column] →
      (records = [] → scalarRun.1 = .ok (.scalar none)) ∧
      (∀ r rest, records = r :: rest → r.Foretells column kind scalarRun.1) ∧
      ∀ (d : Channel W) (v v' : W) (first : List Value) (rest others : List (List Value)), pushed = first :: rest →
        d.query (recordRead before asked after).selectPart.query v =
          (.ok (Rows.ofPushes columns (first :: others)), v') →
        ((scalarRead before asked kind after).run d v).1 = scalarRun.1 := by
  intro records scalarRun
  have hrun : scalarRun = (shapeRows (.scalar kind) (Rows.ofPushes columns pushed), w') :=
    scalarRead_answered kind hmodifiers htable hanswer
  refine ⟨recordRead_answered hmodifiers htable hanswer, congrArg Prod.snd hrun, fun hwidth => ?_, ?_⟩
  · rw [hrun]
    exact shapeRows_width hwidth kind pushed
  rintro column rfl
  rw [hrun]
  refine ⟨fun hnone => shapeRows_absent hnone kind, fun r rest hfirst => shapeRows_foretold hfirst kind, ?_⟩
  rintro d v v' first rest others rfl hother
  rw [scalarRead_answered kind hmodifiers htable hother, shapeRows_single, shapeRows_single]

end

/-- ages as a handle answers them: a text in the first row, and one that is no number in the second -/
def ages : Rows := Rows.ofPushes ["age"] [[.text "31"], [.text "Bo"]]

/-- a world whose first query answers the ages -/
def agesAnswered : Host := Host.rehearsing "app" { Rehearsal.Script.standard with queries := [.answer ages] }

theorem ages_first :
    let modifiers := [Step.fromTable "users", .orderBy "id"]
    let query := (recordRead [.distinct] "age" modifiers).selectPart.query
    let channel := Host.backend.channel (Host.first "app")
    (∀ step ∈ modifiers, step.kind? = none) ∧
    Text.blank (recordRead [.distinct] "age" modifiers).selectPart.table = false ∧
    channel.query query agesAnswered = (.ok ages, (channel.query query agesAnswered).2) ∧
    ((scalarRead [.distinct] "age" .int modifiers).run channel agesAnswered).1 = .ok (.scalar (some (.int 31))) := by
  intro modifiers query channel
  have hmodifiers : ∀ step ∈ modifiers, step.kind? = none := by decide
  have htable : Text.blank (recordRead [.distinct] "age" modifiers).selectPart.table = false := by decide
  have hanswer : channel.query query agesAnswered = (.ok ages, (channel.query query agesAnswered).2) := rfl
  obtain ⟨-, -, -, hsingle⟩ := scalar_reads_agree .int hmodifiers htable hanswer
  obtain ⟨-, hfirst, -⟩ := hsingle "age" rfl
  have hreading : (Value.text "31").asInt = some 31 := by decide
  refine ⟨hmodifiers, htable, hanswer, ((hfirst _ _ rfl).found (.int 31)).2 ?_⟩
  rw [Record.scalar?_eq]
  exact congrArg (Option.map Scalar.int) hreading

end WorkUnit

end FluentSql
