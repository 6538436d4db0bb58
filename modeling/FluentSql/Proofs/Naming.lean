import FluentSql.Proofs.LettingGo
/-!
The name of a session and the handle it is bound to. Errands act on the bound handle; which database the session says it
works with is its name (`Named`). Operations that bind or let go of handles keep the two together, whatever fails, with
one exception: naming another database takes the name first, and if that database does not open, the old handle stays
bound under the new name (`Operation.strays`). The session is then astray until the handle is let go of or a database is
named and opens.

Main result: `named_unless_astray`. In the states that a run reaches, the bound handle is the named database exactly
unless the run is astray.
-/

namespace FluentSql.Session

open Sighting

variable {W H P : Type} {b : Backend W H P}

/-- a handle that is bound is the database that the session names -/
def Named (b : Backend W H P) (s : Session H P) : Prop := ∀ h, s.handle = some h → s.dbName = some (b.name h)

theorem named_of_unbound {s : Session H P} (hs : s.handle = none) : Named b s := by
  intro h hh
  rw [hs] at hh
  cases hh

/-- sessions as they begin: new, with a provider, or bound to a handle -/
inductive Fresh (b : Backend W H P) : Session H P → Prop where
  | empty : Fresh b empty
  | ofProvider (provider : P) : Fresh b (ofProvider provider)
  | ofHandle (h : H) : Fresh b (ofHandle b h)

theorem Fresh.named {s : Session H P} (hs : Fresh b s) : Named b s := by
  cases hs with
  | empty => exact named_of_unbound rfl
  | ofProvider provider => exact named_of_unbound rfl
  | ofHandle h =>
    intro g hg
    rw [← Option.some.inj hg]
    rfl

/-! ## Errands -/

/-- the handle and the name stay, and calls go to that handle -/
structure Serves (p q : Watched W H P) : Prop where
  handle : q.1.handle = p.1.handle
  dbName : q.1.dbName = p.1.dbName
  calls : Adds (fun c => ∃ h, p.1.handle = some h ∧ c.request.handle? = some h) p.2.1 q.2.1

theorem Serves.stepwise : Stepwise (Serves (W := W) (H := H) (P := P)) where
  refl p := ⟨rfl, rfl, adds_refl _ _⟩
  trans first second := by
    have hcalls := second.calls
    rw [first.handle] at hcalls
    exact ⟨second.handle.trans first.handle, second.dbName.trans first.dbName, first.calls.trans hcalls⟩

/-- a call to the bound handle -/
theorem serves_call {s : Session H P} {h : H} (hs : s.handle = some h) (l : List (Sighting H P)) {c : Sighting H P}
    (hc : c.request.handle? = some h) (w w' : W) : Serves (s, l, w) (s, l ++ [c], w') :=
  ⟨rfl, rfl, adds_one ⟨h, hs, hc⟩ l⟩

section

variable [Reporting W]

theorem admits_serves (b : Backend W H P) : Admits b.observed (Serves (W := W)) where
  stepwise := Serves.stepwise
  opening _ _ p hs := serves_call hs p.1 rfl p.2 _
  closing _ _ p hs := serves_call hs p.1 rfl p.2 _
  statements h _ hs := Channel.observed_respects (b.channel h).respects_any fun _ _ l _ _ _ => serves_call hs l rfl _ _
  report _ _ _ := ⟨rfl, rfl, adds_refl _ _⟩
  taking _ _ _ := ⟨rfl, rfl, adds_refl _ _⟩

/-- errands act on the bound handle -/
theorem Errand.calls_bound (b : Backend W H P) (e : Errand) (p : Session H P × W) {c : Sighting H P}
    (hc : c ∈ (Operation.errand e).calls b p) : ∃ h, p.1.handle = some h ∧ c.request.handle? = some h := by
  obtain ⟨-, -, new, hnew, hcalls⟩ := e.perform_respects (admits_serves b) (p.1, [], p.2)
  exact hcalls c (by rw [← List.nil_append new, ← hnew]; exact hc)

end

/-! ## Operations that bind and let go -/

/-- some call lets go of a handle -/
def letsGo (calls : List (Sighting H P)) : Bool := calls.any fun c => c.request.isRelease

/-- the handle and its name stay and nothing is let go of, or the session is well named and let go of the old handle -/
def Renames (b : Backend W H P) (p q : Watched W H P) : Prop :=
  ∃ new, q.2.1 = p.2.1 ++ new ∧
    ((q.1.handle = p.1.handle ∧ q.1.dbName = p.1.dbName ∧ letsGo new = false) ∨
      (Named b q.1 ∧ (p.1.handle.isSome = true → letsGo new = true)))

theorem letsGo_append (l m : List (Sighting H P)) : letsGo (l ++ m) = (letsGo l || letsGo m) := List.any_append

theorem Renames.stepwise (b : Backend W H P) : Stepwise (Renames b) where
  refl p := ⟨[], by simp, .inl ⟨rfl, rfl, rfl⟩⟩
  trans {p q r} first second := by
    obtain ⟨l, hl, first⟩ := first
    obtain ⟨m, hm, second⟩ := second
    refine ⟨l ++ m, by rw [hm, hl, List.append_assoc], ?_⟩
    rw [letsGo_append]
    rcases first with ⟨hhandle, hname, hstays⟩ | ⟨hnamed, hgoes⟩
    · rcases second with ⟨hhandle', hname', hstays'⟩ | ⟨hnamed', hgoes'⟩
      · exact .inl ⟨hhandle'.trans hhandle, hname'.trans hname, by rw [hstays, hstays', Bool.or_false]⟩
      · rw [hhandle] at hgoes'
        exact .inr ⟨hnamed', fun hp => by rw [hgoes' hp, Bool.or_true]⟩
    · have hgoes' : p.1.handle.isSome = true → (letsGo l || letsGo m) = true := fun hp => by rw [hgoes hp, Bool.true_or]
      rcases second with ⟨hhandle', hname', -⟩ | ⟨hnamed', -⟩
      · refine .inr ⟨fun h hr => ?_, hgoes'⟩
        rw [hname']
        exact hnamed h (hhandle'.symm.trans hr)
      · exact .inr ⟨hnamed', hgoes'⟩

/-- a change of other parts of the session, without a call -/
theorem renames_silent (b : Backend W H P) {s s' : Session H P} (hh : s'.handle = s.handle) (hn : s'.dbName = s.dbName)
    (l : List (Sighting H P)) (w w' : W) : Renames b (s, l, w) (s', l, w') :=
  ⟨[], by simp, .inl ⟨hh, hn, rfl⟩⟩

/-- a call that lets go of nothing -/
theorem renames_call (b : Backend W H P) (s : Session H P) (l : List (Sighting H P)) {c : Sighting H P}
    (hc : c.request.isRelease = false) (w w' : W) : Renames b (s, l, w) (s, l ++ [c], w') :=
  ⟨[c], rfl, .inl ⟨rfl, rfl, by simp [letsGo, hc]⟩⟩

/-- a farewell to the bound handle that leaves the session well named -/
theorem renames_farewell {s : Session H P} {h : H} {l : List (Sighting H P)} {w : W} {q : Watched W H P}
    (hnamed : Named b q.1) (hq : ∃ bye, Farewell h bye ∧ q.2.1 = l ++ bye) : Renames b (s, l, w) q := by
  obtain ⟨bye, hbye, hcalls⟩ := hq
  refine ⟨bye, hcalls, .inr ⟨hnamed, fun _ => ?_⟩⟩
  obtain ⟨c, hc, hrelease⟩ := hbye.release
  exact List.any_eq_true.2 ⟨c, hc, by rw [hrelease]; rfl⟩

/-- binding a handle under its name -/
theorem rebind_renames (b : Backend W H P) {name : String} {g : H} (hname : b.name g = name) (s : Session H P)
    (l : List (Sighting H P)) (w : W) : Renames b (s, l, w) (rebind b.observed name g (s, l, w)) := by
  have hnamed : Named b (rebind b.observed name g (s, l, w)).1 := by
    intro h hh
    rw [← Option.some.inj hh, hname]
    rfl
  cases hs : s.handle with
  | none => exact ⟨[], by simp [rebind, hs], .inr ⟨hnamed, fun hp => by simp [hs] at hp⟩⟩
  | some h => exact renames_farewell hnamed (rebind_farewell hs l w b name g)

theorem unbind_renames (b : Backend W H P) (s : Session H P) (l : List (Sighting H P)) (w : W) :
    Renames b (s, l, w) (unbind b.observed (s, l, w)) := by
  cases hs : s.handle with
  | none => exact ⟨[], by simp [unbind, hs], .inl ⟨hs.symm, rfl, rfl⟩⟩
  | some h => exact renames_farewell (named_of_unbound rfl) (unbind_farewell hs l w b)

theorem destroy_renames (b : Backend W H P) (s : Session H P) (l : List (Sighting H P)) (w : W) :
    Renames b (s, l, w) (destroy b.observed (s, l, w)).2 := by
  cases hs : s.handle with
  | none => exact ⟨[], by simp [destroy, closeOpen, Task.change, hs], .inl ⟨hs.symm, rfl, rfl⟩⟩
  | some h => exact renames_farewell (named_of_unbound rfl) (destroy_farewell hs l w b)

theorem follows_renames (hb : b.KeepsNames) : Follows b (Renames b) where
  stepwise := Renames.stepwise b
  silent hh hn := renames_silent b hh hn _ _ _
  call := renames_call b
  rebinding hopened s l := rebind_renames b (hb hopened) s l _
  unbinding := unbind_renames b
  destroying := destroy_renames b

theorem bind_renames (b : Backend W H P) (g : H) : (bind b.observed g).Respects (Renames b) := by
  rintro ⟨s, l, w⟩
  have hnamed : Named b (bind b.observed g (s, l, w)).2.1 := by
    intro h hh
    rw [← Option.some.inj hh]
    rfl
  cases hs : s.handle with
  | none => exact ⟨[], by simp [bind, Task.change, hs], .inr ⟨hnamed, fun hp => by simp [hs] at hp⟩⟩
  | some h =>
    refine ⟨[⟨.release h, b.isOpen h w, true⟩], ?_, .inr ⟨hnamed, fun _ => rfl⟩⟩
    simp only [bind, Task.change, hs, Option.elim, Backend.observed]

variable [Reporting W]

/-- every operation but naming keeps the handle and the name together -/
theorem Operation.perform_renames (hb : b.KeepsNames) {op : Operation H} (hname : ∀ name, op ≠ .setDb name) :
    (op.perform b.observed).Respects (Renames b) := by
  by_cases hbind : ∃ g, op = .bind g
  · obtain ⟨g, rfl⟩ := hbind
    exact bind_renames b g
  · exact perform_respects (follows_renames hb).manages (fun g heq => hbind ⟨g, heq⟩) hname

/-! ## Naming -/

/-- the two ways of naming a database: no handle of another one is bound, or one is and the named database is opened -/
theorem setDb_cases (b : Backend W H P) (name : String) (s : Session H P) (w : W) :
    ((∀ h, s.handle = some h → b.name h = name) ∧
      setDb b name (s, w) = (.ok (), { s with dbName := some name }, w)) ∨
    ∃ h, s.handle = some h ∧ b.name h ≠ name ∧
      setDb b name (s, w) =
        createOrOpen b name Hooks.none ({ s with dbName := some name }, Reporting.emit (repointed name) w) := by
  simp only [setDb, edit, Task.bind_eq, Task.change, Task.read]
  cases hs : s.handle with
  | none => exact .inl ⟨fun h hh => (by cases hh), rfl⟩
  | some h =>
    by_cases hname : b.name h = name
    · refine .inl ⟨fun g hg => by rw [← Option.some.inj hg, hname], ?_⟩
      have hmatch : (b.name h != name) = false := by rw [hname, bne_self_eq_false]
      simp only [Option.any, hmatch, Bool.false_eq_true, if_false]
      rfl
    · refine .inr ⟨h, rfl, hname, ?_⟩
      have hmismatch : (b.name h != name) = true := bne_iff_ne.2 hname
      simp only [Option.any, hmismatch, if_true]
      rfl

/-! ## Runs -/

/-- whether a session is astray after an operation: naming did not open, or it was astray and let go of nothing -/
def Operation.strays (b : Backend W H P) (op : Operation H) (p : Session H P × W) (before : Bool) : Bool :=
  match op with
  | setDb _ => !(op.perform b p).1.toBool
  | _ => before && !letsGo (op.calls b p)

/-- whether a session is astray after operations -/
def astray (b : Backend W H P) (ops : List (Operation H)) (start : Session H P × W) : Bool :=
  (ops.foldl (fun x op => (op.strays b x.2 x.1, (op.perform b x.2).2)) (false, start)).1

/-- how the handle and the name go together: as they should, or, astray, another database is bound than is named -/
def Tells (b : Backend W H P) (s : Session H P) : Bool → Prop
  | false => Named b s
  | true => ∃ h n, s.handle = some h ∧ s.dbName = some n ∧ b.name h ≠ n

theorem Operation.strays_of_ne (b : Backend W H P) {op : Operation H} (hname : ∀ name, op ≠ .setDb name)
    (p : Session H P × W) (before : Bool) : op.strays b p before = (before && !letsGo (op.calls b p)) := by
  cases op with
  | setDb name => exact absurd rfl (hname name)
  | _ => rfl

/-- naming a database: the name is taken in any case -/
theorem setDb_tells (hb : b.KeepsNames) (name : String) (p : Session H P × W) :
    Tells b (setDb b name p).2.1 (!(setDb b name p).1.toBool) := by
  obtain ⟨s, w⟩ := p
  rcases setDb_cases b name s w with ⟨hname, hrun⟩ | ⟨h, hs, hne, hrun⟩
  · rw [hrun]
    intro h hh
    rw [hname h hh]
  · rw [hrun]
    have hstray : Tells b { s with dbName := some name } true := ⟨h, name, hs, rfl, hne⟩
    rcases createOrOpen_cases b name Hooks.none { s with dbName := some name } (Reporting.emit (repointed name) w) with
      ⟨-, hopen⟩ | ⟨provider, -, ⟨e, w', -, hopen⟩ | ⟨g, w', hopened, hopen⟩⟩
    · rw [hopen]
      exact hstray
    · rw [hopen]
      exact hstray
    · rw [hopen]
      intro g' hg
      rw [← Option.some.inj hg, hb hopened]
      rfl

/-- one operation, from a session of which it is known whether it is astray -/
theorem Operation.perform_tells (hb : b.KeepsNames) (op : Operation H) {p : Session H P × W} {before : Bool}
    (hp : Tells b p.1 before) : Tells b (op.perform b p).2.1 (op.strays b p before) := by
  by_cases hop : ∃ name, op = .setDb name
  · obtain ⟨name, rfl⟩ := hop
    exact setDb_tells hb name p
  · have hname : ∀ name, op ≠ .setDb name := fun name heq => hop ⟨name, heq⟩
    obtain ⟨new, hnew, hcases⟩ := perform_renames hb hname (p.1, [], p.2)
    rw [perform_observed] at hnew hcases
    rw [strays_of_ne b hname, show op.calls b p = new from hnew]
    rcases hcases with ⟨hhandle, hdbName, hstays⟩ | ⟨hnamed, hgoes⟩
    · -- nothing changes
      rw [hstays]
      cases before with
      | false => exact fun h hh => hdbName.trans (hp h (hhandle.symm.trans hh))
      | true =>
        obtain ⟨h, n, hh, hn, hne⟩ := hp
        exact ⟨h, n, hhandle.trans hh, hdbName.trans hn, hne⟩
    · -- the old handle is gone
      cases before with
      | false => exact hnamed
      | true =>
        obtain ⟨h, n, hh, -, -⟩ := hp
        rw [hgoes (by rw [hh]; rfl)]
        exact hnamed

theorem after_tells (hb : b.KeepsNames) (ops : List (Operation H)) {start : Session H P × W} (hs : Named b start.1) :
    Tells b (after b ops start).1 (astray b ops start) := by
  have hrun : ∀ (ops : List (Operation H)) (before : Bool) (p : Session H P × W), Tells b p.1 before →
      Tells b (after b ops p).1
        (ops.foldl (fun x op => (op.strays b x.2 x.1, (op.perform b x.2).2)) (before, p)).1 := by
    intro ops
    induction ops with
    | nil => exact fun _ _ hp => hp
    | cons op ops ih => exact fun before p hp => ih _ _ (op.perform_tells hb hp)
  exact hrun ops false start hs

/-- **The bound handle is the named database, unless the session is astray.** Whatever fails on the way, in each state
that a run reaches the handle carries the name of the session exactly if the last naming that did not open was made good
since, by naming again or by letting go of the handle; and errands act on the named database exactly then. -/
theorem named_unless_astray (hb : b.KeepsNames) {s : Session H P} (hs : Fresh b s) (w : W) (ops : List (Operation H)) :
    (Named b (after b ops (s, w)).1 ↔ astray b ops (s, w) = false) ∧
    ∀ e, ∀ c ∈ (Operation.errand e).calls b (after b ops (s, w)),
      ∃ h, c.request.handle? = some h ∧
        ((after b ops (s, w)).1.dbName = some (b.name h) ↔ astray b ops (s, w) = false) := by
  have htells : Tells b (after b ops (s, w)).1 (astray b ops (s, w)) := after_tells hb ops hs.named
  cases hstray : astray b ops (s, w) with
  | false =>
    rw [hstray] at htells
    refine ⟨iff_of_true htells rfl, fun e c hc => ?_⟩
    obtain ⟨h, hh, hcall⟩ := e.calls_bound b _ hc
    exact ⟨h, hcall, iff_of_true (htells h hh) rfl⟩
  | true =>
    rw [hstray] at htells
    obtain ⟨g, n, hg, hn, hne⟩ := htells
    have hwrong : (after b ops (s, w)).1.dbName ≠ some (b.name g) := by
      rw [hn]
      exact fun heq => hne (Option.some.inj heq).symm
    refine ⟨iff_of_false (fun hnamed => hwrong (hnamed g hg)) (by decide), fun e c hc => ?_⟩
    obtain ⟨h, hh, hcall⟩ := e.calls_bound b _ hc
    rw [Option.some.inj (hh.symm.trans hg)] at hcall
    exact ⟨g, hcall, iff_of_false hwrong (by decide)⟩

/-- a provider that opens once and then no more -/
def opensOneDatabase : Host :=
  .ofStage (.ofScript { Rehearsal.Script.standard with
    openings := [.standard, .fail (.execution (.stated "out of space"))] } [])

/-- the old database is bound under the new name, and statements go to the old one -/
theorem setDb_strays :
    Host.backend.KeepsNames ∧ Fresh Host.backend (ofProvider Source.script) ∧
    (after Host.backend [.createDb "a.db", .setDb "b.db"] (ofProvider .script, opensOneDatabase)).1.handle
      = some (Host.first "a.db") ∧
    (after Host.backend [.createDb "a.db", .setDb "b.db"] (ofProvider .script, opensOneDatabase)).1.dbName = some "b.db" ∧
    ¬ Named Host.backend (after Host.backend [.createDb "a.db", .setDb "b.db"] (ofProvider .script, opensOneDatabase)).1 ∧
    (Operation.errand (.exec "DELETE FROM t")).calls Host.backend
        (after Host.backend [.createDb "a.db", .setDb "b.db"] (ofProvider .script, opensOneDatabase)) =
      [⟨.statement (Host.first "a.db") (.execute "DELETE FROM t"), true, true⟩] := by
  refine ⟨Host.keepsNames, .ofProvider Source.script, rfl, rfl, fun hnamed => ?_, rfl⟩
  have hname : some "b.db" = some "a.db" := hnamed (Host.first "a.db") rfl
  exact absurd hname (by decide)

/-- naming the old database again makes it good -/
theorem setDb_returns :
    Host.backend.KeepsNames ∧ Fresh Host.backend (ofProvider Source.script) ∧
    astray Host.backend [.createDb "a.db", .setDb "b.db", .setDb "a.db"] (ofProvider .script, opensOneDatabase) = false ∧
    Named Host.backend
      (after Host.backend [.createDb "a.db", .setDb "b.db", .setDb "a.db"] (ofProvider .script, opensOneDatabase)).1 := by
  have hfound : astray Host.backend [.createDb "a.db", .setDb "b.db", .setDb "a.db"]
      (ofProvider .script, opensOneDatabase) = false := rfl
  have hfresh : Fresh Host.backend (ofProvider Source.script) := .ofProvider Source.script
  obtain ⟨hnamed, -⟩ := named_unless_astray Host.keepsNames hfresh opensOneDatabase
    [.createDb "a.db", .setDb "b.db", .setDb "a.db"]
  exact ⟨Host.keepsNames, hfresh, hfound, hnamed.2 hfound⟩

end FluentSql.Session
