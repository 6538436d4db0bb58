import FluentSql.Host
import FluentSql.Proofs.EntityOperations
import FluentSql.Proofs.FilterHistory
import FluentSql.Proofs.Operations
/-!
The statements that an entity makes when it deletes. A delete compares cells, one for an id or a field and all of a
record (`Operation.compared?`); its condition is made of their equalities (`equalities`). The condition is put together
by a filter, whose end is never cut off because equalities end firmly; an empty condition, which would mean every row,
is not made, and a record without cells is refused before there is a unit.

Naming, opening and closing make no statements, and the unit makes one at most.

Main result: `deletes_only_matching`. Nothing is assumed about the calls.
-/

namespace FluentSql

variable {V W H P α : Type}

/-! ## Conditions of equalities -/

namespace Entity

/-- the equality of a field with a value -/
def equality (field : String) (v : Value) : String :=
  match v with
  | .null => field ++ " IS NULL"
  | v => field ++ " = " ++ v.literal

theorem fragment_equals (field : String) (v : Value) : Comparison.fragment .equals field v = equality field v := by
  cases v with
  | null => rfl
  | _ => simp [Comparison.fragment, equality, Comparison.sign, String.append_assoc]

/-- the equalities of all cells, each trimmed, joined by AND -/
def equalities (cells : List (String × Value)) : String :=
  " AND ".intercalate (cells.map fun cell => Text.trim (equality cell.1 cell.2))

/-- the filter that the steps for cells make -/
def matching (f : Filter) (cells : List (String × Value)) : Filter :=
  cells.foldl (fun f cell => (f.compare .equals cell.1 cell.2).connect .and) f

end Entity

namespace Filter

open Entity

/-- fragments behind the first, all connected by AND -/
theorem joinRest_of_ands {cs : List Connector} (hcs : ∀ c ∈ cs, c = .and) (fs : List String) :
    joinRest fs cs = fs.flatMap fun f => connectorText .and ++ Text.trimChars f.toList := by
  induction fs generalizing cs with
  | nil => rfl
  | cons f fs ih =>
    cases cs with
    | nil => rw [joinRest, ih (by simp), List.flatMap_cons]
    | cons c cs =>
      rw [joinRest, ih fun d hd => hcs d (List.mem_cons_of_mem c hd), hcs c List.mem_cons_self, List.flatMap_cons]

theorem join_of_ands {cs : List Connector} (hcs : ∀ c ∈ cs, c = .and) (fs : List String) :
    join fs cs = " AND ".toList.intercalate (fs.map fun f => Text.trimChars f.toList) := by
  cases fs with
  | nil => rfl
  | cons f fs =>
    rw [join, joinRest_of_ands hcs]
    induction fs generalizing f with
    | nil => simp
    | cons g fs ih =>
      rw [List.map_cons, List.map_cons, List.intercalate_cons_cons, List.flatMap_cons]
      have hrest := ih g
      rw [List.map_cons] at hrest
      rw [← hrest]
      simp [connectorText, Connector.keyword]

/-- **A condition of equalities is written down whole**, each trimmed, with AND between them -/
theorem clause?_of_equalities {f : Filter} {cells : List (String × Value)} (hne : cells ≠ [])
    (hfs : f.fragments = cells.map fun cell => equality cell.1 cell.2) (hcs : ∀ c ∈ f.connectors, c = .and) :
    f.clause? = some (equalities cells) := by
  obtain ⟨before, last, rfl⟩ : ∃ before last, cells = before ++ [last] :=
    ⟨cells.dropLast, cells.getLast hne, (List.dropLast_append_getLast hne).symm⟩
  have hfirm : EndsFirm (equality last.1 last.2).toList := by
    rw [← fragment_equals]
    exact Comparison.fragment_endsFirm .equals last.1 last.2
  rw [List.map_append, List.map_singleton] at hfs
  rw [clause?_of_endsFirm hfs hfirm, ← join_eq_pieces, join_of_ands hcs, hfs]
  congr 1
  apply String.toList_inj.1
  simp [equalities, String.toList_intercalate, Text.trim, Function.comp_def]

theorem equalities_ne_empty {cells : List (String × Value)} (hne : cells ≠ []) : equalities cells ≠ "" := by
  intro hempty
  have hclause :=
    clause?_of_equalities (f := ⟨cells.map fun cell => equality cell.1 cell.2, [], []⟩) hne rfl (by simp)
  rw [Filter.clause?, hempty] at hclause
  split at hclause
  · cases hclause
  · rename_i hfilled
    rw [Option.some.inj hclause] at hfilled
    exact hfilled rfl

/-- comparing a cell adds its equality, and connects with nothing but AND -/
theorem compare_equals (f : Filter) (field : String) (v : Value) :
    (f.compare .equals field v).fragments = f.fragments ++ [equality field v] ∧
    (f.compare .equals field v).args = f.args ∧
    ∀ c ∈ (f.compare .equals field v).connectors, c ∈ f.connectors ∨ c = .and := by
  have hblank : Text.blank (Comparison.fragment .equals field v) = false :=
    (Comparison.fragment_endsFirm .equals field v).not_blank
  rw [← fragment_equals, Filter.compare, Filter.push, hblank, if_neg Bool.false_ne_true]
  refine ⟨rfl, rfl, fun c hc => ?_⟩
  dsimp only at hc
  split at hc
  · exact .inl hc
  · rcases List.mem_append.1 hc with hc | hc
    · exact .inl hc
    · exact .inr (List.mem_singleton.1 hc)

theorem connect_and (f : Filter) :
    (f.connect .and).fragments = f.fragments ∧ (f.connect .and).args = f.args ∧
    ∀ c ∈ (f.connect .and).connectors, c ∈ f.connectors ∨ c = .and := by
  unfold Filter.connect
  split
  · exact ⟨rfl, rfl, fun c hc => .inl hc⟩
  · split
    · refine ⟨rfl, rfl, fun c hc => ?_⟩
      rcases List.mem_append.1 hc with hc | hc
      · exact .inl (List.dropLast_subset _ hc)
      · exact .inr (List.mem_singleton.1 hc)
    · refine ⟨rfl, rfl, fun c hc => ?_⟩
      rcases List.mem_append.1 hc with hc | hc
      · exact .inl hc
      · exact .inr (List.mem_singleton.1 hc)

/-- comparing all cells adds their equalities in order, and connects with nothing but AND -/
theorem matching_cells (f : Filter) (cells : List (String × Value)) :
    (matching f cells).fragments = f.fragments ++ cells.map (fun cell => equality cell.1 cell.2) ∧
    (matching f cells).args = f.args ∧
    ∀ c ∈ (matching f cells).connectors, c ∈ f.connectors ∨ c = .and := by
  induction cells generalizing f with
  | nil => exact ⟨(List.append_nil _).symm, rfl, fun c hc => .inl hc⟩
  | cons cell cells ih =>
    obtain ⟨hfs, hargs, hcs⟩ := compare_equals f cell.1 cell.2
    obtain ⟨hfs', hargs', hcs'⟩ := connect_and (f.compare .equals cell.1 cell.2)
    obtain ⟨hrest, hrestArgs, hrestCs⟩ := ih ((f.compare .equals cell.1 cell.2).connect .and)
    refine ⟨?_, hrestArgs.trans (hargs'.trans hargs), fun c hc => ?_⟩
    · rw [matching, List.foldl_cons]
      exact hrest.trans (by rw [hfs', hfs, List.map_cons, List.append_assoc, List.singleton_append])
    · rcases hrestCs c hc with hc | hc
      · rcases hcs' c hc with hc | hc
        · exact hcs c hc
        · exact .inr hc
      · exact .inr hc

/-- the condition for cells, and no arguments -/
theorem matching_clause {cells : List (String × Value)} (hne : cells ≠ []) :
    (matching .empty cells).clause? = some (equalities cells) ∧ (matching .empty cells).args = [] := by
  obtain ⟨hfs, hargs, hcs⟩ := matching_cells .empty cells
  refine ⟨clause?_of_equalities hne hfs fun c hc => ?_, hargs⟩
  rcases hcs c hc with hc | hc
  · cases hc
  · exact hc

/-- the condition for one cell, and no arguments -/
theorem compare_clause (field : String) (v : Value) :
    (Filter.empty.compare .equals field v).clause? = some (equalities [(field, v)]) ∧
      (Filter.empty.compare .equals field v).args = [] := by
  obtain ⟨hfs, hargs, hcs⟩ := compare_equals .empty field v
  refine ⟨clause?_of_equalities (List.cons_ne_nil _ _) hfs fun c hc => ?_, hargs⟩
  rcases hcs c hc with hc | hc
  · cases hc
  · exact hc

end Filter

/-! ## Statements among calls -/

/-- the statement of a call, with the handle that gets it -/
def Request.statement? : Request H P → Option (H × Statement)
  | statement h q => some (h, q)
  | _ => none

/-- the statements among calls, in order, each with the handle that gets it -/
def statementsOf (calls : List (Sighting H P)) : List (H × Statement) := calls.filterMap fun c => c.request.statement?

theorem statementsOf_concat (calls : List (Sighting H P)) (c : Sighting H P) :
    statementsOf (calls ++ [c]) = statementsOf calls ++ c.request.statement?.toList := by
  cases hc : c.request.statement? with
  | none => simp [statementsOf, hc]
  | some q => simp [statementsOf, hc]

/-- a call that is no statement -/
theorem statementsOf_silent {c : Sighting H P} (hc : c.request.statement? = none) (calls : List (Sighting H P)) :
    statementsOf (calls ++ [c]) = statementsOf calls := by
  rw [statementsOf_concat, hc]
  exact List.append_nil _

/-- a failure without a statement, or one statement and no other: what a task answered, and the calls before and
after -/
def Sent (q : Statement) (l : List (Sighting H P)) (x : Except DbError α) (l' : List (Sighting H P)) : Prop :=
  (statementsOf l' = statementsOf l ∧ ∃ e, x = .error e) ∨ ∃ h, statementsOf l' = statementsOf l ++ [(h, q)]

theorem sent_error {q : Statement} {l l' : List (Sighting H P)} (e : DbError) (h : statementsOf l' = statementsOf l) :
    Sent q l (.error e : Except DbError α) l' := .inl ⟨h, e, rfl⟩

/-- calls that are no statements may come before, and calls that are none may follow -/
theorem Sent.between {q : Statement} {l m m' l' : List (Sighting H P)} {x : Except DbError α} (hs : Sent q m x m')
    (hbefore : statementsOf m = statementsOf l) (hafter : statementsOf l' = statementsOf m') : Sent q l x l' := by
  rcases hs with ⟨hsame, herror⟩ | ⟨h, hone⟩
  · exact .inl ⟨hafter.trans (hsame.trans hbefore), herror⟩
  · exact .inr ⟨h, by rw [hafter, hone, hbefore]⟩

theorem Sent.map {β : Type} {q : Statement} {l l' : List (Sighting H P)} {x : Except DbError α} (hs : Sent q l x l')
    (f : α → β) : Sent q l (x.map f) l' := by
  rcases hs with ⟨hsame, e, rfl⟩ | hone
  · exact .inl ⟨hsame, e, rfl⟩
  · exact .inr hone

namespace Session

/-- no statement is made -/
def Quiet (p q : Watched W H P) : Prop := statementsOf q.2.1 = statementsOf p.2.1

theorem Quiet.stepwise : Stepwise (Quiet (W := W) (H := H) (P := P)) where
  refl _ := rfl
  trans first second := Eq.trans second first

theorem quiet_call (s : Session H P) (l : List (Sighting H P)) {c : Sighting H P} (hc : c.request.statement? = none)
    (w w' : W) : Quiet (s, l, w) (s, l ++ [c], w') := statementsOf_silent hc l

variable (b : Backend W H P)

theorem closing_silent (h : H) (p : List (Sighting H P) × W) :
    statementsOf (b.observed.closeHandle h p).1 = statementsOf p.1 :=
  statementsOf_silent (c := ⟨.closeHandle h, b.isOpen h p.2, true⟩) rfl p.1

theorem releasing_silent (h : H) (p : List (Sighting H P) × W) :
    statementsOf (b.observed.release h p).1 = statementsOf p.1 :=
  statementsOf_silent (c := ⟨.release h, b.isOpen h p.2, true⟩) rfl p.1

variable [Reporting W]

/-- naming and opening a database make no statement -/
theorem points_quiet : Points b.observed (Quiet (W := W)) where
  stepwise := Quiet.stepwise
  opening _ s p _ := quiet_call s p.1 rfl p.2 _
  report _ _ _ := rfl
  refused := by
    rintro provider name o s ⟨l, w⟩ e ⟨l', w'⟩ hopen
    rw [Backend.observed_openDatabase] at hopen
    obtain ⟨rfl, -⟩ := Task.of_observed hopen
    exact quiet_call s l rfl w w'
  rebinding := by
    rintro provider name o s ⟨l, w⟩ h ⟨l', w'⟩ hopen
    rw [Backend.observed_openDatabase] at hopen
    obtain ⟨rfl, -⟩ := Task.of_observed hopen
    have hopening := quiet_call s l (c := ⟨.openDatabase provider name o, false, true⟩) rfl w w'
    refine Quiet.stepwise.trans hopening ?_
    unfold rebind
    cases s.handle with
    | none => rfl
    | some old => exact (releasing_silent b old _).trans (closing_silent b old _)

/-- a unit that deletes checks the table and then makes its one statement -/
theorem delete_sent {u : WorkUnit} {table : String} {f : Filter} (hverb : u.verb = some .delete)
    (hpart : u.delete? = some ⟨table, f⟩) (h : H) (p : List (Sighting H P) × W) :
    Sent (.delete table f.clause? f.args) p.1 (u.run (b.observed.channel h) p).1
      (u.run (b.observed.channel h) p).2.1 := by
  have hdelete : u.deletePart = ⟨table, f⟩ := by rw [WorkUnit.deletePart, hpart, Option.getD_some]
  have hrun : u.run (b.observed.channel h) = (Delete.run (b.observed.channel h) ⟨table, f⟩ >>= fun count =>
      pure (Outcome.affected count)) := by
    rw [WorkUnit.run, hverb, ← hdelete]
  rw [hrun, Task.bind_pure_eq, Delete.run, Task.bind_eq, Task.ofExcept_eq]
  cases hvalid : Delete.validate ⟨table, f⟩ with
  | error e => exact sent_error e rfl
  | ok _ => exact .inr ⟨h, statementsOf_concat p.1 _⟩

omit [Reporting W] in
/-- opening and closing the handle around an action make no statement -/
theorem withHandle_sent {q : Statement} {action : H → Task (Watched W H P) α} {s : Session H P}
    (haction : ∀ h p, Sent q p.1 (action h (s, p)).1 (action h (s, p)).2.2.1) (p : List (Sighting H P) × W) :
    Sent q p.1 (withHandle b.observed action (s, p)).1 (withHandle b.observed action (s, p)).2.2.1 := by
  have hopening : ∀ h, statementsOf (b.observed.openHandle h p).2.1 = statementsOf p.1 := fun h =>
    statementsOf_silent rfl p.1
  rcases withHandle_cases b.observed action s p with ⟨-, hrun⟩ | ⟨h, -, hrun⟩
  · rw [hrun]
    exact sent_error _ rfl
  · rw [hrun]
    rcases whileOpen_cases b.observed h (action h) s p with
      ⟨-, hopen⟩ | ⟨-, e, p', hstart, hrefused⟩ | ⟨-, p', hstart, hstarted⟩
    · rw [hopen]
      exact haction h p
    · have hsilent := hopening h
      rw [hstart] at hsilent
      rw [hrefused]
      exact sent_error e hsilent
    · have hsilent := hopening h
      rw [hstart] at hsilent
      rw [hstarted]
      exact (haction h p').between hsilent (closing_silent b h _)

/-- the steps of one unit make its statement at most once -/
theorem runSteps_sent {steps : List Step} (hsteps : Entity.OneUnit steps) {q : Statement}
    (hunit : ∀ h p, Sent q p.1 ((WorkUnit.ofSteps steps).run (b.observed.channel h) p).1
      ((WorkUnit.ofSteps steps).run (b.observed.channel h) p).2.1)
    (s : Session H P) (p : List (Sighting H P) × W) :
    Sent q p.1 (runSteps b.observed steps (s, p)).1 (runSteps b.observed steps (s, p)).2.2.1 := by
  obtain ⟨e, hrun⟩ := Entity.runSteps_eq b.observed hsteps s p
  rw [hrun]
  refine withHandle_sent b (s := { s with stack := WorkUnit.ofSteps steps :: s.stack }) (fun h p => ?_)
    (Reporting.emit e p)
  obtain ⟨e, hpop⟩ := Entity.popAndRun_top b.observed h (WorkUnit.ofSteps steps) s p
  rw [hpop]
  exact hunit h (Reporting.emit e p)

end Session

/-! ## Deletes -/

namespace Entity

open Session

/-- the cells that a delete compares; other operations delete nothing -/
def Operation.compared? : Operation → Option (List (String × Value))
  | delete id => some [(idColumn, .integer id)]
  | deleteWhere field v => some [(field, v)]
  | deleteMatching r => some r.cells
  | _ => none

/-- the unit for all cells of a record deletes from the table under their condition -/
theorem ofSteps_matching (table : String) (cells : List (String × Value)) :
    (WorkUnit.ofSteps (.deleteFrom table :: matchSteps cells)).verb = some .delete ∧
    (WorkUnit.ofSteps (.deleteFrom table :: matchSteps cells)).delete? = some ⟨table, matching .empty cells⟩ := by
  have hcells : ∀ (cells : List (String × Value)) (f : Filter),
      (matchSteps cells).foldl WorkUnit.apply ⟨some .delete, .records, none, none, none, some ⟨table, f⟩⟩ =
        ⟨some .delete, .records, none, none, none, some ⟨table, matching f cells⟩⟩ := by
    intro cells
    induction cells with
    | nil => exact fun _ => rfl
    | cons cell cells ih => exact fun f => ih ((f.compare .equals cell.1 cell.2).connect .and)
  have hrun : WorkUnit.ofSteps (.deleteFrom table :: matchSteps cells) =
      ⟨some .delete, .records, none, none, none, some ⟨table, matching .empty cells⟩⟩ := hcells cells .empty
  rw [hrun]
  exact ⟨rfl, rfl⟩

variable [Reporting W] (b : Backend W H P)

theorem judgeUnit_eq (judge : Outcome → Bool) (steps : Entity → List Step) (p : Entity × Session H P × W) :
    judgeUnit b judge steps p =
      ((runSteps b (steps p.1) p.2).1.map judge, p.1, (runSteps b (steps p.1) p.2).2) := by
  have hread : judgeUnit b judge steps p = (inSession (runSteps b (steps p.1)) >>= fun o => pure (judge o)) p := rfl
  rw [hread, Task.bind_pure_eq]
  rfl

/-- what a task on an entity sent -/
abbrev SentFrom (q : Statement) (p : Entity × Watched W H P) (r : Except DbError α × Entity × Watched W H P) : Prop :=
  Sent q p.2.2.1 r.1 r.2.2.2.1

/-- one unit that deletes, under a condition without arguments -/
theorem judgeUnit_sent {judge : Outcome → Bool} {steps : Entity → List Step} {f : Filter} {clause : String}
    {p : Entity × Watched W H P} (hsteps : OneUnit (steps p.1))
    (hverb : (WorkUnit.ofSteps (steps p.1)).verb = some .delete)
    (hpart : (WorkUnit.ofSteps (steps p.1)).delete? = some ⟨p.1.table, f⟩)
    (hclause : f.clause? = some clause ∧ f.args = []) :
    SentFrom (.delete p.1.table (some clause) []) p (judgeUnit b.observed judge steps p) := by
  rw [judgeUnit_eq, ← hclause.1, ← hclause.2]
  exact (runSteps_sent b hsteps (delete_sent b hverb hpart) p.2.1 p.2.2).map judge

theorem Operation.work_sent {op : Operation} {cells : List (String × Value)} (hop : op.compared? = some cells)
    (hne : cells ≠ []) (p : Entity × Watched W H P) :
    SentFrom (.delete p.1.table (some (equalities cells)) []) p (op.work b.observed p) := by
  cases op with
  | delete id =>
    cases hop
    exact judgeUnit_sent b (oneUnit_delete _ (by simp [Step.isVerb])) rfl rfl (Filter.compare_clause _ _)
  | deleteWhere field v =>
    cases hop
    exact judgeUnit_sent b (oneUnit_delete _ (by simp [Step.isVerb])) rfl rfl (Filter.compare_clause _ _)
  | deleteMatching r =>
    cases hop
    obtain ⟨hverb, hpart⟩ := ofSteps_matching p.1.table r.cells
    have hcells : r.isEmpty = false := by simpa [Record.isEmpty] using hne
    rw [work, hcells, if_neg Bool.false_ne_true]
    exact judgeUnit_sent b (oneUnit_delete _ fun step => isVerb_of_mem_matchSteps) hverb hpart
      (Filter.matching_clause hne)
  | createSchema dropFirst => cases hop
  | create r => cases hop
  | update id r => cases hop
  | hasItems => cases hop

theorem enter_quiet (e : Entity) : (enter b.observed e).Respects Quiet :=
  (setDb_respects (points_quiet b) fun _ _ => rfl).bind Quiet.stepwise fun _ => openDb_respects (points_quiet b)

omit [Reporting W] in
theorem leave_quiet (before after : Entity × Watched W H P) :
    statementsOf (leave b.observed before after).2.2.1 = statementsOf after.2.2.1 := by
  unfold leave
  split
  · rfl
  · unfold closeOpen
    cases after.2.1.handle with
    | none => rfl
    | some h =>
      dsimp only
      split
      · exact closing_silent b h after.2.2
      · rfl

/-- before the database is left -/
theorem Operation.bare_sent {op : Operation} {cells : List (String × Value)} (hop : op.compared? = some cells)
    (hne : cells ≠ []) (p : Entity × Watched W H P) :
    SentFrom (.delete p.1.table (some (equalities cells)) []) p (op.bare b.observed p) := by
  have hquiet := enter_quiet b p.1 p.2
  rw [bare, afterEntering_eq]
  rcases henter : enter b.observed p.1 p.2 with ⟨e | _, q⟩
  · rw [henter] at hquiet
    exact sent_error e hquiet
  · rw [henter] at hquiet
    exact (op.work_sent b hop hne (p.1, q)).between hquiet rfl

/-- a record without cells is refused before there is a unit -/
theorem Operation.bare_of_no_cells {op : Operation} (hop : op.compared? = some []) (p : Entity × Watched W H P) :
    statementsOf (op.bare b.observed p).2.2.2.1 = statementsOf p.2.2.1 ∧ ∃ e, (op.bare b.observed p).1 = .error e := by
  have hquiet := enter_quiet b p.1 p.2
  have hwork : op.work b.observed = Task.fail (.validation .emptyMatch) := by
    cases op with
    | deleteMatching r =>
      have hcells : r.isEmpty = true := by
        rw [Record.isEmpty, Option.some.inj hop]
        rfl
      rw [work, hcells, if_pos rfl]
    | _ => cases hop
  rw [bare, afterEntering_eq, hwork]
  rcases henter : enter b.observed p.1 p.2 with ⟨e | _, q⟩
  · rw [henter] at hquiet
    exact ⟨hquiet, e, rfl⟩
  · rw [henter] at hquiet
    exact ⟨hquiet, _, rfl⟩

/-- the cover makes no statement, and answers false after a failure -/
theorem covered_quiet (label : String) (p : Entity × Watched W H P)
    (r : Except DbError Bool × Entity × Watched W H P) :
    ∃ answer, (covered b.observed label p r).1 = .ok answer ∧
      statementsOf (covered b.observed label p r).2.2.2.1 = statementsOf r.2.2.2.1 ∧
      ∀ e, r.1 = .error e → answer = false := by
  obtain ⟨x, after⟩ := r
  have hleft := leave_quiet b p after
  cases x with
  | error e => exact ⟨false, rfl, hleft, fun _ _ => rfl⟩
  | ok answer => exact ⟨answer, rfl, hleft, fun e herror => by cases herror⟩

/-- **A delete is never unfiltered.** Whatever the calls do, deleting by id, by a field or by a record makes at most one
statement, and that one deletes from the table of the entity under a condition, which is not empty, and without arguments.
The condition is made of the equalities of all cells, in order, each trimmed, with AND between them and nothing behind
the last. A record without cells makes no statement and is answered by false. -/
theorem deletes_only_matching {op : Operation} {cells : List (String × Value)} (hop : op.compared? = some cells)
    (p : Entity × Session H P × W) :
    ∃ answer, (op.perform b p).1 = .ok answer ∧
      (cells = [] → statementsOf (op.calls b p) = [] ∧ answer = false) ∧
      (cells ≠ [] → equalities cells ≠ "" ∧
        ((statementsOf (op.calls b p) = [] ∧ answer = false) ∨
          ∃ h, statementsOf (op.calls b p) = [(h, .delete p.1.table (some (equalities cells)) [])])) := by
  have hanswer : (op.perform b.observed (p.1, p.2.1, [], p.2.2)).1 = (op.perform b p).1 :=
    congrArg Prod.fst (op.perform_observed b p.1 p.2.1 p.2.2)
  have hcalls : op.calls b p = (op.perform b.observed (p.1, p.2.1, [], p.2.2)).2.2.2.1 := rfl
  rw [hcalls, ← hanswer, op.perform_eq]
  obtain ⟨answer, hok, hsame, hfalse⟩ :=
    covered_quiet b op.label (p.1, p.2.1, [], p.2.2) (op.bare b.observed (p.1, p.2.1, [], p.2.2))
  rw [hsame]
  refine ⟨answer, hok, fun hnil => ?_, fun hne => ⟨Filter.equalities_ne_empty hne, ?_⟩⟩
  · obtain ⟨hnone, e, herror⟩ := op.bare_of_no_cells b (hnil ▸ hop) (p.1, p.2.1, [], p.2.2)
    exact ⟨hnone, hfalse e herror⟩
  · rcases op.bare_sent b hop hne (p.1, p.2.1, [], p.2.2) with ⟨hnone, e, herror⟩ | hone
    · exact .inl ⟨hnone, hfalse e herror⟩
    · exact .inr hone

/-- a null and a text that ends with a keyword -/
def awkwardCells : List (String × Value) := [("a", .null), (" b", .text "x AND")]

/-- a delete by a record on a rehearsed database -/
theorem deleteMatching_keeps_the_end :
    (Operation.deleteMatching ⟨awkwardCells⟩).compared? = some awkwardCells ∧ awkwardCells ≠ [] ∧
    ∃ h, statementsOf ((Operation.deleteMatching ⟨awkwardCells⟩).calls Host.backend
        (ofTable "a.db" (.named "events"), ofProvider Source.script, .ofStage (.ofScript .standard []))) =
      [(h, .delete "events" (some "a IS NULL AND b = 'x AND'") [])] := by
  have hop : (Operation.deleteMatching ⟨awkwardCells⟩).compared? = some awkwardCells := rfl
  obtain ⟨answer, hanswer, -, hsent⟩ := deletes_only_matching Host.backend hop
    (ofTable "a.db" (.named "events"), ofProvider Source.script, .ofStage (.ofScript .standard []))
  have htrue : answer = true := by
    cases hanswer
    rfl
  have htext : equalities awkwardCells = "a IS NULL AND b = 'x AND'" := by decide
  have hne : awkwardCells ≠ [] := List.cons_ne_nil _ _
  refine ⟨hop, hne, ?_⟩
  rcases (hsent hne).2 with ⟨-, hfalse⟩ | hone
  · rw [htrue] at hfalse
    cases hfalse
  · rw [htext] at hone
    exact hone

end Entity

end FluentSql
