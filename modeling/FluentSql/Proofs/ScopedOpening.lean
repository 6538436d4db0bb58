import FluentSql.Proofs.Errands
import FluentSql.Proofs.HostConduct
import FluentSql.Proofs.Mirror
/-!
Opening and closing around an errand. An errand that finds the bound handle open makes statements on it and nothing
else; one that finds it closed makes blocks of calls, each an opening, statements and a closing, and at most a last
opening that is refused. Either way the handle is left as open as it was found.

Only the flag laws of the handle are assumed (`Backend.FlagLaws`): which calls touch the flag, and how. Every call may
fail.

Main result: `errand_scoped`.
-/

namespace FluentSql

variable {W H P α β : Type}

/-! ## Blocks of calls -/

namespace Sighting

/-- a statement on the handle, which is open -/
def IsStatement (h : H) (c : Sighting H P) : Prop := ∃ q, c.request = .statement h q ∧ c.wasOpen = true

/-- the closed handle is asked to open and does -/
def opening (h : H) : Sighting H P := ⟨.openHandle h, false, true⟩

/-- the closed handle is asked to open and does not -/
def refusal (h : H) : Sighting H P := ⟨.openHandle h, false, false⟩

/-- the open handle is closed -/
def closing (h : H) : Sighting H P := ⟨.closeHandle h, true, true⟩

/-- blocks of calls, each an opening, statements and a closing -/
inductive Blocks (h : H) : List (Sighting H P) → Prop where
  | none : Blocks h []
  | block {body rest : List (Sighting H P)} : (∀ c ∈ body, c.IsStatement h) → Blocks h rest →
      Blocks h (opening h :: body ++ closing h :: rest)

/-- blocks of calls, and perhaps a refusal that ends them -/
def Scoped (h : H) (calls : List (Sighting H P)) : Prop :=
  ∃ full : List (Sighting H P), Blocks h full ∧ (calls = full ∨ calls = full ++ [refusal h])

theorem Blocks.scoped {h : H} {calls : List (Sighting H P)} (hb : Blocks h calls) : Scoped h calls :=
  ⟨calls, hb, .inl rfl⟩

theorem Blocks.append {h : H} {l m : List (Sighting H P)} (hl : Blocks h l) (hm : Blocks h m) : Blocks h (l ++ m) := by
  induction hl with
  | none => exact hm
  | @block body rest hbody _ ih =>
    rw [List.append_assoc, List.cons_append (a := closing h)]
    exact .block hbody ih

theorem Blocks.append_scoped {h : H} {l m : List (Sighting H P)} (hl : Blocks h l) (hm : Scoped h m) :
    Scoped h (l ++ m) := by
  obtain ⟨full, hfull, hcalls | hcalls⟩ := hm
  · exact ⟨l ++ full, hl.append hfull, .inl (by rw [hcalls])⟩
  · exact ⟨l ++ full, hl.append hfull, .inr (by rw [hcalls, List.append_assoc])⟩

end Sighting

open Sighting

namespace Session

/-- the handle is left as open as it was; open it got statements only, and closed it got calls of a kind -/
structure Orderly (b : Backend W H P) (h : H) (kind : List (Sighting H P) → Prop)
    (v w : List (Sighting H P) × W) : Prop where
  flag : b.isOpen h w.2 = b.isOpen h v.2
  calls : ∃ new, w.1 = v.1 ++ new ∧ (b.isOpen h v.2 = true → ∀ c ∈ new, c.IsStatement h) ∧
    (b.isOpen h v.2 = false → kind new)

/-- from a session with the handle, in an orderly way to one with the same handle -/
def Leads (b : Backend W H P) (h : H) (kind : List (Sighting H P) → Prop) : Watched W H P → Watched W H P → Prop :=
  Holding h fun p q => Orderly b h kind p.2 q.2

/-- an action ends in an orderly way, and without a refusal if it answers -/
structure Guarded (b : Backend W H P) (h : H) (t : Task (Watched W H P) α) : Prop where
  ends : t.Respects (Leads b h (Scoped h))
  answers : ∀ {p a q}, t p = (.ok a, q) → Leads b h (Blocks h) p q

/-- an open handle stays open and gets statements only -/
def Inside (b : Backend W H P) (h : H) (p q : Watched W H P) : Prop :=
  b.isOpen h p.2.2 = true → b.isOpen h q.2.2 = true ∧ Adds (IsStatement h) p.2.1 q.2.1

section

variable {b : Backend W H P} {h : H}

theorem Orderly.scoped {v w : List (Sighting H P) × W} (ho : Orderly b h (Blocks h) v w) :
    Orderly b h (Scoped h) v w := by
  obtain ⟨new, hnew, hopen, hclosed⟩ := ho.calls
  exact ⟨ho.flag, new, hnew, hopen, fun hc => (hclosed hc).scoped⟩

theorem Orderly.trans {u v w : List (Sighting H P) × W} (first : Orderly b h (Blocks h) u v)
    (second : Orderly b h (Scoped h) v w) : Orderly b h (Scoped h) u w := by
  obtain ⟨l, hl, hlopen, hlclosed⟩ := first.calls
  obtain ⟨m, hm, hmopen, hmclosed⟩ := second.calls
  rw [first.flag] at hmopen hmclosed
  refine ⟨second.flag.trans first.flag, l ++ m, by rw [hm, hl, List.append_assoc], fun ho c hc => ?_, fun ho => ?_⟩
  · rcases List.mem_append.1 hc with hc | hc
    · exact hlopen ho c hc
    · exact hmopen ho c hc
  · exact (hlclosed ho).append_scoped (hmclosed ho)

theorem leads_refl (p : Watched W H P) : Leads b h (Blocks h) p p :=
  fun hp => ⟨hp, rfl, [], by simp, by simp, fun _ => .none⟩

theorem Leads.scoped {p q : Watched W H P} (hl : Leads b h (Blocks h) p q) : Leads b h (Scoped h) p q :=
  fun hp => ⟨(hl hp).1, (hl hp).2.scoped⟩

theorem Leads.trans {p q r : Watched W H P} (first : Leads b h (Blocks h) p q) (second : Leads b h (Scoped h) q r) :
    Leads b h (Scoped h) p r := by
  intro hp
  obtain ⟨hq, hpq⟩ := first hp
  obtain ⟨hr, hqr⟩ := second hq
  exact ⟨hr, hpq.trans hqr⟩

/-- a refusal is the end of a sequence; otherwise what follows ends it -/
theorem Guarded.bind {t : Task (Watched W H P) α} {next : α → Task (Watched W H P) β} (ht : Guarded b h t)
    (hnext : ∀ a, (next a).Respects (Leads b h (Scoped h))) : (t >>= next).Respects (Leads b h (Scoped h)) := by
  intro p
  have first := ht.ends p
  rw [Task.bind_eq]
  rcases hrun : t p with ⟨e | a, q⟩
  · rw [hrun] at first
    exact first
  · exact (ht.answers hrun).trans (hnext a q)

/-! ## The handle around an action -/

/-- closing an open handle of which the calls are watched -/
theorem observed_closing {v : List (Sighting H P) × W} (ho : b.isOpen h v.2 = true) :
    b.observed.closeHandle h v = (v.1 ++ [closing h], b.closeHandle h v.2) := by
  simp only [Backend.observed, ho, closing]

variable [Reporting W]

theorem works_inside (laws : b.FlagLaws h) : Works b.observed h (Inside b h) where
  stepwise := {
    refl := fun _ ho => ⟨ho, adds_refl _ _⟩
    trans := by
      intro p q r first second ho
      obtain ⟨hopen, hadds⟩ := first ho
      obtain ⟨hopen', hadds'⟩ := second hopen
      exact ⟨hopen', hadds.trans hadds'⟩ }
  statements _ _ := Channel.observed_respects laws.statements fun q _ l _ _ hflag ho =>
    ⟨hflag.trans ho, adds_one ⟨q, rfl, ho⟩ l⟩
  report e _ w ho := ⟨(laws.report e w.2).trans ho, adds_refl _ _⟩
  taking _ _ _ ho := ⟨ho, adds_refl _ _⟩

/-- an action with the handle open: orderly and not refused, or refused with an error -/
theorem whileOpen_orderly (laws : b.FlagLaws h) {action : Task (Watched W H P) α}
    (haction : action.Respects (Holding h (Inside b h))) (s : Session H P) (w : List (Sighting H P) × W) :
    Leads b h (Blocks h) (s, w) (whileOpen b.observed h action (s, w)).2 ∨
      (∃ e, (whileOpen b.observed h action (s, w)).1 = .error e) ∧
        Leads b h (Scoped h) (s, w) (whileOpen b.observed h action (s, w)).2 := by
  obtain ⟨l, w⟩ := w
  rcases whileOpen_cases b.observed h action s (l, w) with
    ⟨ho, hrun⟩ | ⟨hclosed, e, ⟨l', w'⟩, hopen, hrun⟩ | ⟨hclosed, ⟨l', w'⟩, hopen, hrun⟩
  · -- it was open
    left
    rw [hrun]
    intro hs
    obtain ⟨hheld, hinside⟩ := haction (s, l, w) hs
    obtain ⟨hopen, new, hnew, hstatements⟩ := hinside ho
    exact ⟨hheld, hopen.trans ho.symm, new, hnew, fun _ => hstatements, fun hc => absurd (ho.symm.trans hc) (by simp)⟩
  · -- it does not open
    right
    rw [hrun]
    rw [Backend.observed_openHandle] at hopen
    obtain ⟨rfl, hrefused⟩ := Task.of_observed hopen
    rw [show b.isOpen h w = false from hclosed]
    refine ⟨⟨e, rfl⟩, fun hs => ⟨hs, laws.refused hrefused, [refusal h], rfl, fun ho => ?_, fun _ => ?_⟩⟩
    · exact absurd (hclosed.symm.trans ho) (by simp)
    · exact ⟨[], .none, .inr rfl⟩
  · -- it is opened and closed again
    left
    rw [Backend.observed_openHandle] at hopen
    obtain ⟨rfl, hopened⟩ := Task.of_observed hopen
    have hopening : (⟨.openHandle h, b.isOpen h w, true⟩ : Sighting H P) = opening h := by
      rw [show b.isOpen h w = false from hclosed]
      rfl
    intro hs
    obtain ⟨hheld, hinside⟩ := haction (s, _, w') hs
    obtain ⟨hstill, body, hbody, hstatements⟩ := hinside (laws.opened hopened)
    rw [hrun]
    refine ⟨hheld, (laws.closed _).trans hclosed.symm, opening h :: body ++ [closing h], ?_, fun ho => ?_, fun _ => ?_⟩
    · rw [observed_closing hstill, hbody, ← hopening]
      simp only [List.append_assoc, List.cons_append, List.nil_append]
      rfl
    · exact absurd (hclosed.symm.trans ho) (by simp)
    · exact .block hstatements .none

theorem withHandle_guarded (laws : b.FlagLaws h) {action : H → Task (Watched W H P) α}
    (haction : (action h).Respects (Holding h (Inside b h))) : Guarded b h (withHandle b.observed action) := by
  have held : ∀ p : Watched W H P, p.1.handle = some h →
      withHandle b.observed action p = whileOpen b.observed h (action h) p := by
    intro p hp
    simp only [withHandle, hp]
  constructor
  · intro p hp
    rw [held p hp]
    rcases whileOpen_orderly laws haction p.1 p.2 with hl | ⟨-, hl⟩
    · exact hl.scoped hp
    · exact hl hp
  · intro p a q hrun hp
    rw [held p hp] at hrun
    rcases whileOpen_orderly laws haction p.1 p.2 with hl | ⟨⟨e, he⟩, -⟩
    · rw [hrun] at hl
      exact hl hp
    · rw [hrun] at he
      cases he

/-! ## Errands -/

theorem run_leads (laws : b.FlagLaws h) : (run b.observed).Respects (Leads b h (Scoped h)) := by
  intro p
  unfold run
  cases p.1.stack with
  | nil => exact (leads_refl p).scoped
  | cons u rest => exact (withHandle_guarded laws (popAndRun_respects (works_inside laws))).ends p

theorem exec_guarded (laws : b.FlagLaws h) (sql : String) : Guarded b h (exec b.observed sql) :=
  withHandle_guarded laws (execute_respects (works_inside laws) sql)

theorem tableExists_guarded (laws : b.FlagLaws h) (table : String) : Guarded b h (tableExists b.observed table) :=
  withHandle_guarded laws
    (counting_respects (works_inside laws) table (fun _ => ⟨true, rfl⟩) fun e => ⟨lookupFailed table e, rfl⟩)

theorem tableIsEmpty_leads (laws : b.FlagLaws h) (table : String) :
    (tableIsEmpty b.observed table).Respects (Leads b h (Scoped h)) := by
  refine (tableExists_guarded laws table).bind fun found => ?_
  cases found with
  | true =>
    exact (withHandle_guarded laws
      (counting_respects (works_inside laws) table (fun n => ⟨decide (n < 1), rfl⟩) fun e =>
        ⟨countFailed table e, rfl⟩)).ends
  | false => exact fun p => (leads_refl p).scoped

theorem leads_report (laws : b.FlagLaws h) : Reports (Continues (Leads b h (Scoped h) (P := P))) := by
  intro e q p hl hp
  obtain ⟨hq, ho⟩ := hl hp
  exact ⟨hq, (laws.report e q.2.2).trans ho.flag, ho.calls⟩

/-- a refused opening is answered like any other failure, but nothing is called after it -/
theorem createTableSql_leads (laws : b.FlagLaws h) (sql : String) :
    (createTableSql b.observed sql).Respects (Leads b h (Scoped h)) := by
  have hcont : Stepwise (Continues (Leads b h (Scoped h) (P := P))) := Continues.stepwise _
  refine (exec_guarded laws sql).ends.attempt.continued fun x => ?_
  split
  · exact Task.respects_pure hcont true
  · exact Task.respects_fail hcont _
  · exact (Task.respects_report (leads_report laws) _).bind hcont fun _ => Task.respects_pure hcont false

theorem Errand.perform_leads (laws : b.FlagLaws h) (e : Errand) :
    (e.perform b.observed).Respects (Leads b h (Scoped h)) := by
  cases e with
  | run => exact dropAnswer_respects (run_leads laws)
  | exec sql => exact (exec_guarded laws sql).ends
  | tableExists table => exact dropAnswer_respects (tableExists_guarded laws table).ends
  | tableIsEmpty table => exact dropAnswer_respects (tableIsEmpty_leads laws table)
  | createTable definition =>
    rw [perform, beside_createTable]
    exact dropAnswer_respects (createTableSql_leads laws _)
  | createTableSql sql => exact dropAnswer_respects (createTableSql_leads laws sql)
  | createNewTable definition =>
    rw [perform, beside_createNewTable]
    exact dropAnswer_respects ((exec_guarded laws _).bind fun _ => createTableSql_leads laws _)
  | dropTable table => exact (exec_guarded laws _).ends

/-- **An errand leaves the handle as open as it was.** If it was open, the errand makes statements and no other call;
if it was closed, it makes blocks of calls, and a refusal to open is the last of them. -/
theorem errand_scoped (laws : b.FlagLaws h) (e : Errand) {s : Session H P} (hs : s.handle = some h) (w : W) :
    b.isOpen h (e.perform b (s, w)).2.2 = b.isOpen h w ∧
      (b.isOpen h w = true → ∀ c ∈ (Operation.errand e).calls b (s, w), c.IsStatement h) ∧
      (b.isOpen h w = false → Scoped h ((Operation.errand e).calls b (s, w))) := by
  have hleads := e.perform_leads laws (s, [], w) hs
  have hwatched : e.perform b.observed (s, [], w) = _ := (Operation.errand e).perform_observed b s w
  rw [hwatched] at hleads
  obtain ⟨-, hflag, new, hnew, hopen, hclosed⟩ := hleads
  have hcalls : (Operation.errand e).calls b (s, w) = new := hnew
  rw [hcalls]
  exact ⟨hflag, hopen, hclosed⟩

/-- a closed handle that opens once and then no more -/
def opensOnce : Host :=
  Host.rehearsing "app" { Rehearsal.Script.standard with opens := [.standard, .fail .noDatabaseBound] }

/-- creating a table anew takes two blocks, of which the second is refused here; it is answered all the same -/
theorem createNewTable_scoped :
    Host.backend.FlagLaws (Host.first "app") ∧
    (ofHandle Host.backend (Host.first "app")).handle = some (Host.first "app") ∧
    Host.isOpen (Host.first "app") opensOnce = false ∧
    Scoped (Host.first "app") ((Operation.errand (.createNewTable (.named "t"))).calls Host.backend
      (ofHandle Host.backend (Host.first "app"), opensOnce)) ∧
    (Operation.errand (.createNewTable (.named "t"))).calls Host.backend
        (ofHandle Host.backend (Host.first "app"), opensOnce) =
      [opening (Host.first "app"), ⟨.statement (Host.first "app") (.execute "DROP TABLE IF EXISTS t"), true, true⟩,
        closing (Host.first "app"), refusal (Host.first "app")] := by
  have laws := Host.flagLaws (Host.first "app")
  have hclosed : Host.isOpen (Host.first "app") opensOnce = false := rfl
  obtain ⟨-, -, hscoped⟩ := errand_scoped laws (.createNewTable (.named "t"))
    (s := ofHandle Host.backend (Host.first "app")) rfl opensOnce
  exact ⟨laws, rfl, hclosed, hscoped hclosed, rfl⟩

end

end Session

end FluentSql
