import FluentSql.Schema.Column
import Mathlib.Data.List.Induction
/-!
A column definition after any sequence of calls, read off the sequence alone.

Calls are edits and builds (`Step`). What edits leave is said part by part (`described`): of the types, of the defaults
and of the checks the last one, of each flag whether it was set, and of the references all, in order. `ofEdits_eq` says
that the edits make the column that they describe, and `render_eq` how its parts are laid out.

Main result: `builds_frozen`. All builds answer what the first one did, and that is the text of the edits before it.
Edits of different parts may change places among themselves without changing it.
-/

namespace FluentSql.Column

/-! ## Calls -/

/-- what a column is or is not -/
inductive Flag where
  | primaryKey
  | autoIncrement
  | unique
  | notNull
deriving DecidableEq

/-- a call that changes a column -/
inductive Edit where
  | type (t : ColumnType)
  | flag (f : Flag)
  | default (v : Value)
  | quotedDefault (s : String)
  | check (condition : String)
  | reference (table columns : String)

/-- a call on a column -/
inductive Step where
  | edit (e : Edit)
  | build

/-- what part of the text an edit is about -/
inductive Part where
  | type
  | flag (f : Flag)
  | default
  | check
  | reference
deriving DecidableEq

namespace Edit

def apply (c : Column) : Edit → Column
  | type t => c.ofType t
  | flag .primaryKey => c.asPrimaryKey
  | flag .autoIncrement => c.withAutoIncrement
  | flag .unique => c.asUnique
  | flag .notNull => c.asNotNull
  | default v => c.withDefault v
  | quotedDefault s => c.withQuotedDefault s
  | check condition => c.withCheck condition
  | reference table columns => c.withReference table columns

def part : Edit → Part
  | type _ => .type
  | flag f => .flag f
  | default _ => .default
  | quotedDefault _ => .default
  | check _ => .check
  | reference _ _ => .reference

def type? : Edit → Option ColumnType
  | type t => some t
  | _ => none

/-- the text behind DEFAULT, of a default of either kind -/
def default? : Edit → Option String
  | default v => some v.literal
  | quotedDefault s => some (quotedText s)
  | _ => none

def check? : Edit → Option String
  | check condition => some condition
  | _ => none

def reference? : Edit → Option String
  | reference table columns => some (table ++ "(" ++ columns ++ ")")
  | _ => none

end Edit

/-- the column that edits make -/
def ofEdits (name : String) (es : List Edit) : Column := es.foldl Edit.apply (named name)

/-- the texts that builds answer, in order, and the column in the end -/
def course : List Step → Column → List String × Column
  | [], c => ([], c)
  | .edit e :: rest, c => course rest (e.apply c)
  | .build :: rest, c => (c.build.text :: (course rest c.build).1, (course rest c.build).2)

/-- the edits in front of the first build -/
def editsBefore : List Step → List Edit
  | .edit e :: rest => e :: editsBefore rest
  | _ => []

/-- how often a column is built -/
def builds : List Step → Nat
  | [] => 0
  | .edit _ :: rest => builds rest
  | .build :: rest => builds rest + 1

/-- an edit changes neither the name nor a text that is frozen -/
theorem apply_frame (c : Column) (e : Edit) : (e.apply c).name = c.name ∧ (e.apply c).built? = c.built? := by
  cases e with
  | flag f => cases f <;> exact ⟨rfl, rfl⟩
  | _ => exact ⟨rfl, rfl⟩

/-! ## What edits describe -/

/-- the last of the values that edits give -/
def last {α : Type} (pick : Edit → Option α) (es : List Edit) : Option α := (es.filterMap pick).getLast?

def hasFlag (f : Flag) (es : List Edit) : Bool := es.any fun e => e.part = .flag f

/-- the last type, default and check, the flags that were set, and all references -/
def described (name : String) (es : List Edit) : Column where
  name := name
  type? := last Edit.type? es
  primaryKey := hasFlag .primaryKey es
  autoIncrement := hasFlag .autoIncrement es
  unique := hasFlag .unique es
  notNull := hasFlag .notNull es
  default? := last Edit.default? es
  check? := last Edit.check? es
  references := es.filterMap Edit.reference?
  built? := none

theorem last_concat {α : Type} (pick : Edit → Option α) (es : List Edit) (e : Edit) :
    last pick (es ++ [e]) = (pick e).or (last pick es) := by
  rw [last, last, List.filterMap_append]
  cases hpick : pick e with
  | none => simp [hpick]
  | some a => simp [hpick]

theorem hasFlag_concat (f : Flag) (es : List Edit) (e : Edit) :
    hasFlag f (es ++ [e]) = (hasFlag f es || decide (e.part = .flag f)) := by
  simp [hasFlag]

/-- one more edit of a described column -/
theorem apply_described (name : String) (es : List Edit) (e : Edit) :
    e.apply (described name es) = described name (es ++ [e]) := by
  simp only [described, last_concat, hasFlag_concat, List.filterMap_append]
  cases e with
  | flag f => cases f <;> simp [Edit.apply, asPrimaryKey, withAutoIncrement, asUnique, asNotNull, Edit.part, Edit.type?,
      Edit.default?, Edit.check?, Edit.reference?]
  | _ => simp [Edit.apply, ofType, withDefault, withQuotedDefault, withCheck, withReference, Edit.part, Edit.type?,
      Edit.default?, Edit.check?, Edit.reference?]

/-- **Edits make the column that they describe.** -/
theorem ofEdits_eq (name : String) (es : List Edit) : ofEdits name es = described name es := by
  induction es using List.reverseRecOn with
  | nil => rfl
  | append_singleton es e ih =>
    rw [ofEdits, List.foldl_append, List.foldl_cons, List.foldl_nil, ← ofEdits, ih, apply_described]

/-! ## The text of a column -/

/-- the parts of a column, each in its place -/
def layout (c : Column) : String :=
  c.name ++ " " ++ (c.type?.getD .integer).keyword
    ++ (if c.primaryKey then " PRIMARY KEY" else "")
    ++ (if c.autoIncrement then " AUTOINCREMENT" else "")
    ++ (if c.unique then " UNIQUE" else "")
    ++ c.default?.elim "" (" DEFAULT " ++ ·)
    ++ (if c.references = [] then "" else " REFERENCES " ++ ", ".intercalate c.references)
    ++ c.check?.elim "" (" CHECK (" ++ · ++ ")")
    ++ (if c.notNull then " NOT NULL" else "")

/-- texts with a blank in front of each -/
def spaced (ts : List String) : String := ts.foldr (fun t rest => " " ++ t ++ rest) ""

theorem spaced_cons (t : String) (ts : List String) : spaced (t :: ts) = " " ++ t ++ spaced ts := rfl

theorem spaced_append (ts us : List String) : spaced (ts ++ us) = spaced ts ++ spaced us := by
  induction ts with
  | nil => simp [spaced]
  | cons t ts ih => rw [List.cons_append, spaced_cons, spaced_cons, ih, ← String.append_assoc]

theorem intercalate_eq_spaced (t : String) (ts : List String) : " ".intercalate (t :: ts) = t ++ spaced ts := by
  induction ts generalizing t with
  | nil => simp [spaced]
  | cons u ts ih => rw [String.intercalate_cons_cons, ih, spaced_cons, String.append_assoc, String.append_assoc]

theorem spaced_flag (b : Bool) (t : String) : spaced (if b then [t] else []) = if b then " " ++ t else "" := by
  cases b <;> simp [spaced]

theorem spaced_references (rs : List String) :
    spaced (if rs.isEmpty then [] else ["REFERENCES " ++ ", ".intercalate rs]) =
      if rs = [] then "" else " REFERENCES " ++ ", ".intercalate rs := by
  cases rs with
  | nil => rfl
  | cons r rs => simp [spaced, ← String.append_assoc]

/-- **The text of a column.** -/
theorem render_eq (c : Column) : c.render = c.layout := by
  have hparts : c.parts = c.name :: ([(c.type?.getD .integer).keyword]
      ++ (if c.primaryKey then ["PRIMARY KEY"] else [])
      ++ (if c.autoIncrement then ["AUTOINCREMENT"] else [])
      ++ (if c.unique then ["UNIQUE"] else [])
      ++ (c.default?.toList.map fun d => "DEFAULT " ++ d)
      ++ (if c.references.isEmpty then [] else ["REFERENCES " ++ ", ".intercalate c.references])
      ++ (c.check?.toList.map fun e => "CHECK (" ++ e ++ ")")
      ++ (if c.notNull then ["NOT NULL"] else [])) := rfl
  have hdefault : spaced (c.default?.toList.map fun d => "DEFAULT " ++ d) = c.default?.elim "" (" DEFAULT " ++ ·) := by
    cases c.default? <;> simp [spaced, ← String.append_assoc]
  have hcheck : spaced (c.check?.toList.map fun e => "CHECK (" ++ e ++ ")") =
      c.check?.elim "" (" CHECK (" ++ · ++ ")") := by
    cases c.check? <;> simp [spaced, ← String.append_assoc]
  rw [render, hparts, intercalate_eq_spaced]
  simp only [spaced_append, spaced_flag, spaced_references, hdefault, hcheck, layout]
  simp [spaced, String.append_assoc]

/-! ## Builds -/

/-- the text of a column without a frozen one, if it has a name -/
theorem build_fresh {c : Column} (hfresh : c.built? = none) (hname : c.name ≠ "") :
    c.build.built? = some c.layout ∧ c.build.text = c.layout := by
  simp [build, text, hfresh, hname, render_eq]

theorem build_of_built {c : Column} {t : String} (hbuilt : c.built? = some t) : c.build = c ∧ c.text = t := by
  simp [build, text, hbuilt]

theorem build_unnamed {c : Column} (hfresh : c.built? = none) (hname : c.name = "") : c.build = c ∧ c.text = "" := by
  simp [build, text, hfresh, hname]

/-- once it is frozen, every build answers the same text -/
theorem course_of_built {c : Column} {t : String} (hbuilt : c.built? = some t) (steps : List Step) :
    (course steps c).1 = List.replicate (builds steps) t ∧ (course steps c).2.built? = some t := by
  induction steps generalizing c with
  | nil => exact ⟨rfl, hbuilt⟩
  | cons step steps ih =>
    cases step with
    | edit e => exact ih ((apply_frame c e).2.trans hbuilt)
    | build =>
      obtain ⟨hsame, htext⟩ := build_of_built hbuilt
      obtain ⟨hanswers, hend⟩ := ih hbuilt
      simp only [course, builds, hsame, htext, hanswers, List.replicate_succ, hend, and_self]

/-- without a name, no build answers anything or freezes -/
theorem course_unnamed {c : Column} (hfresh : c.built? = none) (hname : c.name = "") (steps : List Step) :
    (course steps c).1 = List.replicate (builds steps) "" ∧ (course steps c).2.built? = none := by
  induction steps generalizing c with
  | nil => exact ⟨rfl, hfresh⟩
  | cons step steps ih =>
    cases step with
    | edit e => exact ih ((apply_frame c e).2.trans hfresh) ((apply_frame c e).1.trans hname)
    | build =>
      obtain ⟨hsame, htext⟩ := build_unnamed hfresh hname
      obtain ⟨hanswers, hend⟩ := ih hfresh hname
      simp only [course, builds, hsame, htext, hanswers, List.replicate_succ, hend, and_self]

/-- with a name, the first build freezes the text of the edits in front of it -/
theorem course_named {c : Column} (hfresh : c.built? = none) (hname : c.name ≠ "") (steps : List Step) :
    let frozen := ((editsBefore steps).foldl Edit.apply c).layout
    (course steps c).1 = List.replicate (builds steps) frozen ∧
      (course steps c).2.built? = if builds steps = 0 then none else some frozen := by
  induction steps generalizing c with
  | nil => exact ⟨rfl, hfresh⟩
  | cons step steps ih =>
    cases step with
    | edit e =>
      obtain ⟨hframe, hbuilt⟩ := apply_frame c e
      exact ih (hbuilt.trans hfresh) (hframe.trans_ne hname)
    | build =>
      obtain ⟨hbuilt, htext⟩ := build_fresh hfresh hname
      obtain ⟨hanswers, hend⟩ := course_of_built hbuilt steps
      simp [course, builds, editsBefore, htext, hanswers, hend, List.replicate_succ]

/-- the answers of all builds, from the edits in front of the first one -/
theorem course_answers (name : String) (steps : List Step) :
    (course steps (named name)).1 =
      List.replicate (builds steps) (if name = "" then "" else (described name (editsBefore steps)).layout) := by
  by_cases hname : name = ""
  · rw [if_pos hname]
    exact (course_unnamed rfl hname steps).1
  · rw [if_neg hname, ← ofEdits_eq]
    exact (course_named rfl hname steps).1

/-- what one more build would answer -/
theorem course_snoc_build (steps : List Step) (c : Column) :
    (course (steps ++ [.build]) c).1 = (course steps c).1 ++ [(course steps c).2.build.text] := by
  induction steps generalizing c with
  | nil => rfl
  | cons step steps ih =>
    cases step with
    | edit e => exact ih _
    | build => simp only [List.cons_append, course, ih]

theorem editsBefore_snoc_build (steps : List Step) : editsBefore (steps ++ [.build]) = editsBefore steps := by
  induction steps with
  | nil => rfl
  | cons step steps ih =>
    cases step with
    | edit e => simp only [List.cons_append, editsBefore, ih]
    | build => rfl

/-- the text of a column at the end of its calls, built before or only now -/
theorem text_course (name : String) (steps : List Step) : (course steps (named name)).2.build.text =
    if name = "" then "" else (described name (editsBefore steps)).layout := by
  have hanswers := course_answers name (steps ++ [.build])
  rw [course_snoc_build, editsBefore_snoc_build] at hanswers
  refine List.eq_of_mem_replicate (n := builds (steps ++ [.build])) ?_
  rw [← hanswers]
  exact List.mem_append_right _ List.mem_cons_self

/-! ## The order of calls -/

/-- what an edit gives for one part, it gives only if it is about that part -/
theorem filterMap_of_part {α : Type} {pick : Edit → Option α} {p : Part} (hpick : ∀ e, e.part ≠ p → pick e = none)
    (es : List Edit) : es.filterMap pick = (es.filter (·.part = p)).filterMap pick := by
  induction es with
  | nil => rfl
  | cons e es ih =>
    by_cases hpart : e.part = p
    · simp [List.filterMap_cons, hpart, ih]
    · simp [hpart, hpick e hpart, ih]

theorem hasFlag_of_part (f : Flag) (es : List Edit) : hasFlag f es = !(es.filter (·.part = .flag f)).isEmpty := by
  induction es with
  | nil => rfl
  | cons e es ih =>
    by_cases hpart : e.part = .flag f
    · simp [hasFlag, hpart]
    · simpa [hasFlag, hpart] using ih

/-- edits that agree part by part describe the same column -/
theorem described_congr {es fs : List Edit} (hparts : ∀ p, es.filter (·.part = p) = fs.filter (·.part = p))
    (name : String) : described name es = described name fs := by
  have hpicked : ∀ {α : Type} (pick : Edit → Option α) (p : Part), (∀ e, e.part ≠ p → pick e = none) →
      es.filterMap pick = fs.filterMap pick := by
    intro α pick p hpick
    rw [filterMap_of_part hpick es, filterMap_of_part hpick fs, hparts p]
  have htype := hpicked Edit.type? .type fun e he => by cases e <;> first | rfl | exact absurd rfl he
  have hdefault := hpicked Edit.default? .default fun e he => by cases e <;> first | rfl | exact absurd rfl he
  have hcheck := hpicked Edit.check? .check fun e he => by cases e <;> first | rfl | exact absurd rfl he
  have hreference := hpicked Edit.reference? .reference fun e he => by cases e <;> first | rfl | exact absurd rfl he
  simp only [described, last, hasFlag_of_part, hparts, htype, hdefault, hcheck, hreference]

/-- **The text of a column is settled by its first build.** Without a name every build answers nothing and the column
stays open. With a name every build answers the same text, laid out from what the edits in front of the first build
describe: the last type, default and check, the flags, and the references in order. Other calls answer the same text
whenever their edits agree with these part by part, in whatever order the parts come. -/
theorem builds_frozen (name : String) (steps : List Step) :
    let frozen := (described name (editsBefore steps)).layout
    (course steps (named name)).1 = List.replicate (builds steps) (if name = "" then "" else frozen) ∧
    (course steps (named name)).2.built? = (if name = "" ∨ builds steps = 0 then none else some frozen) ∧
    ∀ others : List Step,
      (∀ p, (editsBefore others).filter (·.part = p) = (editsBefore steps).filter (·.part = p)) →
      ∀ shown ∈ (course others (named name)).1, shown = if name = "" then "" else frozen := by
  refine ⟨course_answers name steps, ?_, ?_⟩
  · by_cases hname : name = ""
    · rw [if_pos (.inl hname)]
      exact (course_unnamed rfl hname steps).2
    · have hend := (course_named (c := named name) rfl hname steps).2
      rw [← ofEdits, ofEdits_eq] at hend
      simpa [hname] using hend
  · intro others hparts shown hshown
    rw [course_answers, described_congr hparts] at hshown
    exact List.eq_of_mem_replicate hshown

/-- a type and a default twice, a build in the middle, and more edits behind it -/
def ownerSteps : List Step :=
  [.edit (.type .text), .edit (.default (.text "x")), .edit (.flag .notNull), .edit (.reference "users" "id"),
    .edit (.type .integer), .edit (.quotedDefault "it's"), .build, .edit (.flag .unique), .build]

/-- the same edits in another order of the parts -/
def ownerReordered : List Step :=
  [.edit (.flag .notNull), .edit (.reference "users" "id"), .edit (.default (.text "x")), .edit (.quotedDefault "it's"),
    .edit (.type .text), .edit (.type .integer), .build]

theorem ownerReordered_same :
    (∀ p, (editsBefore ownerReordered).filter (·.part = p) = (editsBefore ownerSteps).filter (·.part = p)) ∧
    (course ownerSteps (named "owner")).1 =
      ["owner INTEGER DEFAULT 'it''s' REFERENCES users(id) NOT NULL",
        "owner INTEGER DEFAULT 'it''s' REFERENCES users(id) NOT NULL"] ∧
    ∀ shown ∈ (course ownerReordered (named "owner")).1,
      shown = "owner INTEGER DEFAULT 'it''s' REFERENCES users(id) NOT NULL" := by
  have hfrozen : (described "owner" (editsBefore ownerSteps)).layout =
      "owner INTEGER DEFAULT 'it''s' REFERENCES users(id) NOT NULL" := by decide
  have hparts : ∀ p, (editsBefore ownerReordered).filter (·.part = p) =
      (editsBefore ownerSteps).filter (·.part = p) := by
    intro p
    rcases p with _ | f | _ | _ | _
    · rfl
    · cases f <;> rfl
    · rfl
    · rfl
    · rfl
  obtain ⟨hanswers, -, hothers⟩ := builds_frozen "owner" ownerSteps
  rw [hfrozen, if_neg (by decide)] at hanswers hothers
  exact ⟨hparts, hanswers, hothers ownerReordered hparts⟩

end FluentSql.Column
