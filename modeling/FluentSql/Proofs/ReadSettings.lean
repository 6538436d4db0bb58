import FluentSql.Proofs.Projection
/-!
A read under construction, read off its calls. Each part of a read has the last value that was given to it, and the
condition is what the calls on it make, whatever stands between them (`described`, `ofEdits_eq`). Calls that agree on
these send the same query (`described_congr`).

The text of a query is its opening and the clauses that have a body, each behind its keyword, in the order of the
keywords (`select_eq`).

Main result: `query_settled`.
-/

namespace FluentSql

/-! ## The clauses of a query -/

namespace Query

/-- the text of a query up to its tables -/
def opening (q : Query) : String :=
  "SELECT " ++ (if q.distinct then "DISTINCT " else "") ++ SqlText.columnText q.columns ++ " FROM " ++ q.table

/-- the bodies that a query may have, behind their keywords and in order -/
def bodies (q : Query) : List (String × Option String) :=
  [("WHERE", q.selection), ("GROUP BY", q.groupBy), ("HAVING", q.having), ("ORDER BY", q.orderBy), ("LIMIT", q.limit)]

/-- a body with something in it, behind its keyword -/
def written? : String × Option String → Option (String × String)
  | (keyword, some body) => if Text.blank body then none else some (keyword, body)
  | (_, none) => none

/-- the clauses that a query has -/
def clauses (q : Query) : List (String × String) := q.bodies.filterMap written?

theorem written?_eq_some_iff {b : String × Option String} {keyword body : String} :
    written? b = some (keyword, body) ↔ b = (keyword, some body) ∧ Text.blank body = false := by
  obtain ⟨key, _ | text⟩ := b
  · simp [written?]
  · constructor
    · intro h
      simp only [written?] at h
      split_ifs at h with hblank
      cases h
      exact ⟨rfl, Bool.eq_false_iff.2 hblank⟩
    · rintro ⟨heq, hblank⟩
      cases heq
      simp [written?, hblank]

theorem mem_clauses {q : Query} {keyword body : String} :
    (keyword, body) ∈ q.clauses ↔ (keyword, some body) ∈ q.bodies ∧ Text.blank body = false := by
  simp only [clauses, List.mem_filterMap, written?_eq_some_iff]
  constructor
  · rintro ⟨b, hb, rfl, hblank⟩
    exact ⟨hb, hblank⟩
  · rintro ⟨hb, hblank⟩
    exact ⟨_, hb, rfl, hblank⟩

theorem written_sublist (bs : List (String × Option String)) :
    ((bs.filterMap written?).map Prod.fst).Sublist (bs.map Prod.fst) := by
  induction bs with
  | nil => exact .slnil
  | cons b bs ih =>
    cases hwritten : written? b with
    | none =>
      rw [List.filterMap_cons_none hwritten]
      exact ih.cons _
    | some clause =>
      rw [List.filterMap_cons_some hwritten, (written?_eq_some_iff.1 hwritten).1]
      exact ih.cons_cons _

/-- the clauses stand in the order of the keywords, each at most once -/
theorem clauses_sublist (q : Query) :
    (q.clauses.map Prod.fst).Sublist ["WHERE", "GROUP BY", "HAVING", "ORDER BY", "LIMIT"] := written_sublist q.bodies

/-- a keyword with its body -/
def clauseWith (clause : String × String) : String := " " ++ clause.1 ++ " " ++ clause.2

theorem clauseText_of_unwritten {b : String × Option String} (h : written? b = none) :
    SqlText.clauseText b.1 b.2 = "" := by
  obtain ⟨keyword, _ | body⟩ := b
  · rfl
  · simp only [written?] at h
    split_ifs at h with hblank
    rw [SqlText.clauseText, if_pos hblank]

theorem join_written (bs : List (String × Option String)) :
    String.join ((bs.filterMap written?).map clauseWith) =
      String.join (bs.map fun b => SqlText.clauseText b.1 b.2) := by
  induction bs with
  | nil => rfl
  | cons b bs ih =>
    rw [List.map_cons, String.join_cons, ← ih]
    cases hwritten : written? b with
    | none => rw [List.filterMap_cons_none hwritten, clauseText_of_unwritten hwritten, String.empty_append]
    | some clause =>
      obtain ⟨rfl, hblank⟩ := written?_eq_some_iff.1 hwritten
      rw [List.filterMap_cons_some hwritten, List.map_cons, String.join_cons, SqlText.clauseText, hblank]
      rfl

/-- the text of a query, clause by clause -/
theorem select_eq (q : Query) : SqlText.select q = q.opening ++ String.join (q.clauses.map clauseWith) := by
  calc SqlText.select q
      = q.opening ++ SqlText.clauseText "WHERE" q.selection ++ SqlText.clauseText "GROUP BY" q.groupBy
          ++ SqlText.clauseText "HAVING" q.having ++ SqlText.clauseText "ORDER BY" q.orderBy
          ++ SqlText.clauseText "LIMIT" q.limit := rfl
    _ = q.opening ++ String.join (q.bodies.map fun b => SqlText.clauseText b.1 b.2) := by
        simp [bodies, String.append_assoc]
    _ = q.opening ++ String.join (q.clauses.map clauseWith) := by rw [clauses, join_written]

end Query

/-! ## Arguments and the condition -/

namespace Filter

variable (f : Filter) (args : List String)

theorem push_setArgs (fragment : String) : (f.setArgs args).push fragment = (f.push fragment).setArgs args := by
  cases hblank : Text.blank fragment <;> simp [push, setArgs, isEmpty, isPending, hblank]

theorem connect_setArgs (c : Connector) : (f.setArgs args).connect c = (f.connect c).setArgs args := by
  have hempty : (f.setArgs args).isEmpty = f.isEmpty := rfl
  have hpending : (f.setArgs args).isPending = f.isPending := rfl
  rw [connect, connect, hempty, hpending]
  split_ifs <;> rfl

end Filter

/-! ## What counts of the calls -/

namespace Select

namespace Edit

def table? : Edit → Option String
  | .fromTable table => some table
  | .fromTables tables => some (NameList.join tables)
  | _ => none

/-- an empty list stands for all columns -/
def columns? : Edit → Option (Option (List String))
  | .columns names => some (if names.isEmpty then none else some names)
  | .allColumns => some none
  | _ => none

def distinct? : Edit → Option Bool
  | .distinct on => some on
  | _ => none

def groupBy? : Edit → Option String
  | .groupBy body => some body
  | _ => none

def having? : Edit → Option String
  | .having body => some body
  | _ => none

def orderBy? : Edit → Option String
  | .orderBy body => some body
  | _ => none

def limit? : Edit → Option String
  | .limit count => some (toString count)
  | .limitOffset count offset => some (toString count ++ " OFFSET " ++ toString offset)
  | _ => none

/-- clearing the condition takes its arguments with it -/
def args? : Edit → Option (List String)
  | .filter (.setArgs args) => some args
  | .filter .clear => some []
  | _ => none

/-- the call on the fragments and connectors of the condition -/
def condition? : Edit → Option Filter.Edit
  | .filter (.setArgs _) => none
  | .filter e => some e
  | _ => none

end Edit

/-- the last of the values that calls give -/
def last {α : Type} (pick : Edit → Option α) (es : List Edit) : Option α := (es.filterMap pick).getLast?

/-- the fragments and connectors of the calls on the condition, with the last arguments -/
def condition (es : List Edit) : Filter :=
  (Filter.ofEdits (es.filterMap Edit.condition?)).setArgs ((last Edit.args? es).getD [])

/-- the last value of each part, or else what a new read has, and the condition -/
def described (es : List Edit) : Select where
  table := (last Edit.table? es).getD ""
  columns := (last Edit.columns? es).getD none
  filter := condition es
  distinct := (last Edit.distinct? es).getD false
  groupBy := last Edit.groupBy? es
  having := last Edit.having? es
  orderBy := last Edit.orderBy? es
  limit := last Edit.limit? es

theorem last_concat {α : Type} (pick : Edit → Option α) (es : List Edit) (e : Edit) :
    last pick (es ++ [e]) = (pick e).or (last pick es) := getLast?_filterMap_concat pick es e

/-- a call on the condition -/
theorem condition_concat_filter (es : List Edit) (e : Filter.Edit) :
    condition (es ++ [.filter e]) = e.apply (condition es) := by
  rw [condition, condition, last_concat, List.filterMap_append]
  cases e with
  | setArgs args =>
    have hnone : [Edit.filter (.setArgs args)].filterMap Edit.condition? = [] := rfl
    rw [hnone, List.append_nil]
    rfl
  | clear => simp [Edit.condition?, Edit.args?, Filter.ofEdits_snoc, Filter.Edit.apply, Filter.setArgs, Filter.empty]
  | push fragment =>
    simp [Edit.condition?, Edit.args?, Filter.ofEdits_snoc, Filter.Edit.apply, Filter.push_setArgs]
  | connect c => simp [Edit.condition?, Edit.args?, Filter.ofEdits_snoc, Filter.Edit.apply, Filter.connect_setArgs]
  | compare c field v =>
    simp [Edit.condition?, Edit.args?, Filter.ofEdits_snoc, Filter.Edit.apply, Filter.compare, Filter.push_setArgs]

/-- any other call leaves the condition alone -/
theorem condition_concat_other {e : Edit} (hcondition : e.condition? = none) (hargs : e.args? = none)
    (es : List Edit) : condition (es ++ [e]) = condition es := by
  rw [condition, condition, last_concat, List.filterMap_append, hargs]
  simp [hcondition]

/-- one more call on the read that calls describe -/
theorem apply_described (es : List Edit) (e : Edit) : e.apply (described es) = described (es ++ [e]) := by
  simp only [described, last_concat]
  cases e with
  | filter e => rw [condition_concat_filter]; rfl
  | _ => rw [condition_concat_other rfl rfl]; rfl

/-- **Calls make the read that they describe.** -/
theorem ofEdits_eq (es : List Edit) : ofEdits es = described es := by
  induction es using List.reverseRecOn with
  | nil => rfl
  | append_singleton es e ih =>
    rw [ofEdits, List.foldl_append, List.foldl_cons, List.foldl_nil, ← ofEdits, ih, apply_described]

/-! ## Calls that agree -/

/-- two sequences of calls give each part the same value in the end, and make the same calls on the condition -/
structure Agree (es fs : List Edit) : Prop where
  table : (last Edit.table? es).getD "" = (last Edit.table? fs).getD ""
  columns : (last Edit.columns? es).getD none = (last Edit.columns? fs).getD none
  distinct : (last Edit.distinct? es).getD false = (last Edit.distinct? fs).getD false
  groupBy : last Edit.groupBy? es = last Edit.groupBy? fs
  having : last Edit.having? es = last Edit.having? fs
  orderBy : last Edit.orderBy? es = last Edit.orderBy? fs
  limit : last Edit.limit? es = last Edit.limit? fs
  args : (last Edit.args? es).getD [] = (last Edit.args? fs).getD []
  condition : es.filterMap Edit.condition? = fs.filterMap Edit.condition?

theorem Agree.described_eq {es fs : List Edit} (h : Agree es fs) : described es = described fs := by
  simp only [described, Select.condition, h.table, h.columns, h.distinct, h.groupBy, h.having, h.orderBy, h.limit,
    h.args, h.condition]

/-! ## What is sent -/

/-- a query has the last value of each part, and the condition of the calls with the last arguments -/
structure Carries (es : List Edit) (q : Query) : Prop where
  table : q.table = (last Edit.table? es).getD ""
  columns : q.columns = (last Edit.columns? es).getD none
  selection : q.selection = (condition es).clause?
  args : q.args = (last Edit.args? es).getD []
  groupBy : q.groupBy = last Edit.groupBy? es
  having : q.having = last Edit.having? es
  orderBy : q.orderBy = last Edit.orderBy? es

theorem carries_query (es : List Edit) : Carries es (described es).query where
  table := rfl
  columns := rfl
  selection := rfl
  args := rfl
  groupBy := rfl
  having := rfl
  orderBy := rfl

/-- a limit is always sent -/
theorem query_limit (s : Select) : s.query.limit = s.limit := by
  rw [query, shape]
  cases s.limit with
  | none => rfl
  | some _ => cases s.distinct <;> rfl

/-- the distinct flag is sent with a limit only -/
theorem query_distinct (s : Select) : s.query.distinct = (s.distinct && s.limit.isSome) := by
  rw [query, shape]
  cases s.limit <;> cases s.distinct <;> rfl

/-- **The parts of a read are independent.** Calls that agree on the last value of each part and make the same calls
on the condition send the same query and show the same text. The query carries the last value of each part and the
condition; it is distinct exactly if the last call said so and there is a limit, and it has a limit exactly if one was
set. Its text is the opening and a clause for each body with something in it, in the order of the keywords. -/
theorem query_settled (es : List Edit) :
    let s := ofEdits es
    (∀ fs, Agree fs es → (ofEdits fs).query = s.query ∧ (ofEdits fs).sql = s.sql) ∧
    Carries es s.query ∧
    (s.query.distinct = true ↔ last Edit.distinct? es = some true ∧ (last Edit.limit? es).isSome = true) ∧
    s.query.limit = last Edit.limit? es ∧
    ∃ clauses : List (String × String),
      s.sql = s.query.opening ++ String.join (clauses.map fun clause => " " ++ clause.1 ++ " " ++ clause.2) ∧
      (clauses.map Prod.fst).Sublist ["WHERE", "GROUP BY", "HAVING", "ORDER BY", "LIMIT"] ∧
      ∀ keyword body, (keyword, body) ∈ clauses ↔
        (keyword, some body) ∈ s.query.bodies ∧ Text.blank body = false := by
  intro s
  have hs : s = described es := ofEdits_eq es
  refine ⟨fun fs hagree => ?_, ?_, ?_, ?_, s.query.clauses, ?_, ?_, ?_⟩
  · have hsame : ofEdits fs = s := by rw [ofEdits_eq, hagree.described_eq, hs]
    rw [hsame]
    exact ⟨rfl, rfl⟩
  · rw [hs]
    exact carries_query es
  · rw [query_distinct, Bool.and_eq_true, hs]
    cases hlast : last Edit.distinct? es <;> simp [described, hlast]
  · rw [query_limit, hs]
    rfl
  · exact Query.select_eq s.query
  · exact Query.clauses_sublist s.query
  · exact fun keyword body => Query.mem_clauses

/-- every part is set more than once, and the condition comes in pieces -/
def guestEdits : List Edit :=
  [.limit 5, .columns ["name"], .distinct false, .fromTable "users", .filter (.push "age > ?"),
    .filter (.setArgs ["17"]), .columns [], .filter (.connect .or), .distinct true,
    .filter (.compare .equals "city" .null), .filter (.setArgs ["18"]), .fromTable "guests", .limitOffset 2 4]

/-- the last values only, in another order -/
def guestReordered : List Edit :=
  [.filter (.setArgs ["18"]), .limitOffset 2 4, .filter (.push "age > ?"), .fromTables [" guests", ""],
    .filter (.connect .or), .filter (.compare .equals "city" .null), .distinct true]

theorem guestReordered_same :
    Agree guestReordered guestEdits ∧ (ofEdits guestReordered).query = (ofEdits guestEdits).query ∧
    (ofEdits guestReordered).sql = (ofEdits guestEdits).sql ∧
    (ofEdits guestEdits).query.distinct = true ∧ (ofEdits guestEdits).query.limit = some "2 OFFSET 4" := by
  have hagree : Agree guestReordered guestEdits := ⟨by decide, rfl, rfl, rfl, rfl, rfl, rfl, rfl, rfl⟩
  obtain ⟨hsame, -, hdistinct, hlimit, -⟩ := query_settled guestEdits
  obtain ⟨hquery, hsql⟩ := hsame guestReordered hagree
  exact ⟨hagree, hquery, hsql, hdistinct.2 ⟨rfl, rfl⟩, hlimit.trans (by decide)⟩

end Select

end FluentSql
