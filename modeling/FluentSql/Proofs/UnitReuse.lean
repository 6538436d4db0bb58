import FluentSql.Proofs.HostConduct
import FluentSql.Proofs.Projection
/-!
A unit of work that runs, gets more steps and runs again. A run empties the builder of the kind that ran and leaves the
other three as they are (`afterRun_empties`, `afterRun_keeps`), and what a chain that starts with a verb runs in the end
depends on a unit only through the builder of its last kind (`run_foldl_congr`).

Main result: `run_reused`. If the second chain ends with the kind that ran, the unit runs it as a new one would;
otherwise it runs as if it had not run before, with all that the first chain gave to the builder of that kind
(`update_finds_insert_values`).
-/

namespace FluentSql

namespace Step

/-! ## Verbs -/

variable {step : Step}

/-- a verb reaches the builders whatever the kind before it is -/
theorem toSelect_of_verb (h : step.kind?.isSome = true) (current : Option Verb) :
    step.toSelect current = step.toSelect none := by
  cases step <;> first | rfl | cases h

theorem toUpdate_of_verb (h : step.kind?.isSome = true) (current : Option Verb) :
    step.toUpdate current = step.toUpdate none := by
  cases step <;> first | rfl | cases h

theorem toDelete_of_verb (h : step.kind?.isSome = true) (current : Option Verb) :
    step.toDelete current = step.toDelete none := by
  cases step <;> first | rfl | cases h

/-- a read verb says how it wants its rows back -/
theorem isSome_mode?_of_select (h : step.kind? = some .select) : step.mode?.isSome = true := by
  cases step <;> first | rfl | cases h

end Step

namespace WorkUnit

variable {verb : Step} {rest : List Step}

theorem isSome_lastKind (h : verb.kind?.isSome = true) : (lastKind (verb :: rest)).isSome = true := by
  obtain ⟨kind, hkind⟩ := Option.isSome_iff_exists.1 h
  rw [lastKind, List.filterMap_cons_some hkind, List.getLast?_isSome]
  exact List.cons_ne_nil _ _

theorem isSome_lastMode {steps : List Step} (h : lastKind steps = some .select) :
    (steps.filterMap Step.mode?).getLast?.isSome = true := by
  obtain ⟨step, hmem, hkind⟩ := List.mem_filterMap.1 (List.mem_of_getLast? h)
  obtain ⟨mode, hmode⟩ := Option.isSome_iff_exists.1 (Step.isSome_mode?_of_select hkind)
  rw [List.getLast?_isSome]
  exact List.ne_nil_of_mem (List.mem_filterMap.2 ⟨step, hmem, hmode⟩)

/-- the projection of a chain that starts with a verb does not depend on the kind before it -/
theorem project_of_verb {E : Type} {part : Option Verb → Step → List E} (h : verb.kind?.isSome = true)
    (hpart : ∀ current, part current verb = part none verb) (current : Option Verb) :
    project part current (verb :: rest) = project part none (verb :: rest) := by
  obtain ⟨kind, hkind⟩ := Option.isSome_iff_exists.1 h
  rw [project, project, hpart current, hkind, Option.some_or, Option.some_or]

/-! ## The builder of a kind -/

/-- two units have the same builder of a kind -/
def SameBuilder (u v : WorkUnit) : Verb → Prop
  | .select => u.selectPart = v.selectPart
  | .insert => u.insertPart = v.insertPart
  | .update => u.updatePart = v.updatePart
  | .delete => u.deletePart = v.deletePart

/-- the builder of the kind that ran is empty -/
theorem afterRun_empties {u : WorkUnit} {kind : Verb} (hkind : u.verb = some kind) :
    SameBuilder u.afterRun .empty kind := by
  cases kind <;> simp only [afterRun, hkind] <;> rfl

/-- the builders of other kinds are left alone -/
theorem afterRun_keeps {u : WorkUnit} {kind : Verb} (hkind : u.verb ≠ some kind) : SameBuilder u.afterRun u kind := by
  obtain ⟨verb, _, _, _, _, _⟩ := u
  rcases verb with _ | verb
  · cases kind <;> rfl
  · cases verb <;> cases kind <;> first | rfl | exact absurd rfl hkind

variable {u v : WorkUnit} {kind : Verb}

/-- a chain that starts with a verb keeps the builders of a kind the same -/
theorem SameBuilder.foldl (h : SameBuilder u v kind) (hverb : verb.kind?.isSome = true) :
    SameBuilder ((verb :: rest).foldl apply u) ((verb :: rest).foldl apply v) kind := by
  cases kind with
  | select =>
    have hpart := Step.toSelect_of_verb hverb
    rw [SameBuilder, foldl_project selectPart_apply, foldl_project selectPart_apply, project_of_verb hverb hpart,
      project_of_verb hverb hpart v.verb, show u.selectPart = v.selectPart from h]
  | insert =>
    have hpart : ∀ current : Option Verb, (fun _ => Step.toInsert) current verb = verb.toInsert := fun _ => rfl
    have hproject : ∀ w : WorkUnit, ((verb :: rest).foldl apply w).insertPart =
        (project (fun _ => Step.toInsert) w.verb (verb :: rest)).foldl Insert.Edit.apply w.insertPart := fun w =>
      foldl_project insertPart_apply _ w
    rw [SameBuilder, hproject, hproject, project_of_verb hverb hpart, project_of_verb hverb hpart v.verb,
      show u.insertPart = v.insertPart from h]
  | update =>
    have hpart := Step.toUpdate_of_verb hverb
    rw [SameBuilder, foldl_project updatePart_apply, foldl_project updatePart_apply, project_of_verb hverb hpart,
      project_of_verb hverb hpart v.verb, show u.updatePart = v.updatePart from h]
  | delete =>
    have hpart := Step.toDelete_of_verb hverb
    rw [SameBuilder, foldl_project deletePart_apply, foldl_project deletePart_apply, project_of_verb hverb hpart,
      project_of_verb hverb hpart v.verb, show u.deletePart = v.deletePart from h]

section

variable {W : Type} [Reporting W] (c : Channel W)

/-- a unit runs the builder of its kind, and a read also looks at the mode -/
theorem SameBuilder.run (h : SameBuilder u v kind) (hu : u.verb = some kind) (hv : v.verb = some kind)
    (hmode : kind = .select → u.mode = v.mode) : u.run c = v.run c := by
  cases kind with
  | select =>
    simp only [WorkUnit.run, hu, hv, hmode rfl, show u.selectPart = v.selectPart from h]
  | insert => simp only [WorkUnit.run, hu, hv, show u.insertPart = v.insertPart from h]
  | update => simp only [WorkUnit.run, hu, hv, show u.updatePart = v.updatePart from h]
  | delete => simp only [WorkUnit.run, hu, hv, show u.deletePart = v.deletePart from h]

/-- **A chain that starts with a verb sees of a unit only the builder of its last kind.** -/
theorem run_foldl_congr (hverb : verb.kind?.isSome = true) (hlast : lastKind (verb :: rest) = some kind)
    (h : SameBuilder u v kind) :
    ((verb :: rest).foldl apply u).run c = ((verb :: rest).foldl apply v).run c := by
  refine (h.foldl hverb).run c ?_ ?_ fun hselect => ?_
  · rw [verb_foldl, hlast, Option.some_or]
  · rw [verb_foldl, hlast, Option.some_or]
  · obtain ⟨mode, hmode⟩ := Option.isSome_iff_exists.1 (isSome_lastMode (hselect ▸ hlast))
    rw [mode_foldl, mode_foldl, hmode, Option.getD_some, Option.getD_some]

/-! ## Running again -/

/-- the unit that a chain makes, that runs, and that gets a second chain -/
def reused (first second : List Step) : WorkUnit := second.foldl apply (ofSteps first).afterRun

/-- **A unit that runs again.** With a second chain that ends with the kind that ran, it makes the calls and has the
answer of a new unit. With any other kind it makes the calls and has the answer of a unit that got both chains and did
not run in between. -/
theorem run_reused (first rest : List Step) (hverb : verb.kind?.isSome = true) :
    (reused first (verb :: rest)).run c =
      if lastKind (verb :: rest) = lastKind first then (ofSteps (verb :: rest)).run c
      else (ofSteps (first ++ verb :: rest)).run c := by
  have hsome : (lastKind (verb :: rest)).isSome = true := isSome_lastKind hverb
  obtain ⟨kind, hlast⟩ := Option.isSome_iff_exists.1 hsome
  rw [hlast]
  split
  · rename_i hsame
    have hempty : SameBuilder (ofSteps first).afterRun .empty kind :=
      afterRun_empties ((verb_ofSteps first).trans hsame.symm)
    exact run_foldl_congr c hverb hlast hempty
  · rename_i hother
    have hkept : SameBuilder (ofSteps first).afterRun (ofSteps first) kind :=
      afterRun_keeps fun heq => hother (heq.symm.trans (verb_ofSteps first))
    have happend : ofSteps (first ++ verb :: rest) = (verb :: rest).foldl apply (ofSteps first) := by
      rw [ofSteps, List.foldl_append, ofSteps]
    rw [happend]
    exact run_foldl_congr c hverb hlast hkept

end

/-- a second insert on the unit of a first one, on a rehearsed handle -/
theorem insert_again_starts_anew :
    (Step.insertInto "u").kind?.isSome = true ∧
    (reused [.insertInto "t", .set "a" (.integer 1)] [.insertInto "u", .set "b" (.integer 2)]).run
        (Host.backend.channel (Host.first "app")) =
      (ofSteps [.insertInto "u", .set "b" (.integer 2)]).run (Host.backend.channel (Host.first "app")) := by
  have hverb : (Step.insertInto "u").kind?.isSome = true := rfl
  have hsame : lastKind [.insertInto "u", .set "b" (.integer 2)] =
    lastKind [.insertInto "t", .set "a" (.integer 1)] := rfl
  have hrun := run_reused (Host.backend.channel (Host.first "app")) [.insertInto "t", .set "a" (.integer 1)]
    [.set "b" (.integer 2)] hverb
  rw [if_pos hsame] at hrun
  exact ⟨hverb, hrun⟩

/-- the statements of a run on a rehearsed handle -/
def rehearsedStatements (u : WorkUnit) : List Statement :=
  (u.run ((Host.backend.channel (Host.first "app")).recorded id) ([], Host.rehearsing "app" .standard)).2.1

/-- an update on the unit of an insert also sets what was inserted -/
theorem update_finds_insert_values :
    rehearsedStatements (reused [.insertInto "t", .set "a" (.integer 1)] [.update "t", .set "b" (.integer 2)]) =
      [.update "t" ⟨[("a", .integer 1), ("b", .integer 2)]⟩ none []] ∧
    rehearsedStatements (ofSteps [.update "t", .set "b" (.integer 2)]) =
      [.update "t" ⟨[("b", .integer 2)]⟩ none []] ∧
    rehearsedStatements (reused [.insertInto "t", .set "a" (.integer 1)] [.update "t", .set "b" (.integer 2)]) ≠
      rehearsedStatements (ofSteps [.update "t", .set "b" (.integer 2)]) := by
  have hclause : Filter.empty.clause? = none := Filter.clause?_of_no_fragments rfl
  have hreused : rehearsedStatements
      (reused [.insertInto "t", .set "a" (.integer 1)] [.update "t", .set "b" (.integer 2)]) =
    [.update "t" ⟨[("a", .integer 1), ("b", .integer 2)]⟩ none []] := by
    rw [← hclause]
    rfl
  have hnew : rehearsedStatements (ofSteps [.update "t", .set "b" (.integer 2)]) =
    [.update "t" ⟨[("b", .integer 2)]⟩ none []] := by
    rw [← hclause]
    rfl
  refine ⟨hreused, hnew, fun heq => ?_⟩
  rw [hreused, hnew] at heq
  simp at heq

end WorkUnit

end FluentSql
