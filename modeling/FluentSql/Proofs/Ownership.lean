import FluentSql.Proofs.Observation
import FluentSql.Proofs.Operations
/-!
Handles that belong to one session. A world that maintains its handles (`Backend.Maintains`) stays sound whatever is
called, goes on knowing the handles that it gave out, and gives out handles that are apart from all of these. So a
session, whatever is asked of it, has the handle that it had before or a new one (`Operation.perform_heir`), unless a
handle is bound that comes from outside.
-/

namespace FluentSql

variable {W H P α : Type}

/-- a sound world stays sound, and goes on knowing the handles that it knows -/
def Lasts (sound : W → Prop) (known : H → W → Prop) (v w : W) : Prop := sound v → sound w ∧ ∀ h, known h v → known h w

section

variable {sound : W → Prop} {known : H → W → Prop}

theorem Lasts.stepwise : Stepwise (Lasts sound known) where
  refl _ hv := ⟨hv, fun _ hk => hk⟩
  trans first second hu :=
    ⟨(second (first hu).1).1, fun h hk => (second (first hu).1).2 h ((first hu).2 h hk)⟩

end

/-- whatever is called, a sound world lasts; what is given out is known then, and apart from all that was known before -/
structure Backend.Maintains [Reporting W] (b : Backend W H P) (sound : W → Prop) (known : H → W → Prop)
    (apart : H → H → Prop) : Prop where
  report : Reports (Lasts sound known)
  openHandle : ∀ h, (b.openHandle h).Respects (Lasts sound known)
  closeHandle : ∀ h w, Lasts sound known w (b.closeHandle h w)
  release : ∀ h w, Lasts sound known w (b.release h w)
  channel : ∀ h, (b.channel h).Respects (Lasts sound known)
  siblings : ∀ h, (b.siblings h).Respects (Lasts sound known)
  openDatabase : ∀ p name o, (b.openDatabase p name o).Respects (Lasts sound known)
  listNames : ∀ p, (b.listNames p).Respects (Lasts sound known)
  dropDatabase : ∀ p name, (b.dropDatabase p name).Respects (Lasts sound known)
  fresh : ∀ {p name o w k w'}, b.openDatabase p name o w = (.ok k, w') → known k w' ∧ ∀ g, known g w → apart g k

variable [Reporting W] {b : Backend W H P} {sound : W → Prop} {known : H → W → Prop} {apart : H → H → Prop}

/-- a watched world lasts as the plain one does -/
theorem Backend.Maintains.observed (hb : b.Maintains sound known apart) :
    b.observed.Maintains (fun p => sound p.2) (fun h p => known h p.2) apart where
  report e p := hb.report e p.2
  openHandle h p := hb.openHandle h p.2
  closeHandle h p := hb.closeHandle h p.2
  release h p := hb.release h p.2
  channel h := Channel.observed_respects (hb.channel h) fun _ _ _ _ _ hlasts => hlasts
  siblings h p := hb.siblings h p.2
  openDatabase p name o q := hb.openDatabase p name o q.2
  listNames p q := hb.listNames p q.2
  dropDatabase p name q := hb.dropDatabase p name q.2
  fresh {p name o w k w'} hopen := by
    obtain ⟨l, w⟩ := w
    obtain ⟨l', w'⟩ := w'
    rw [Backend.observed_openDatabase] at hopen
    exact hb.fresh (Task.of_observed hopen).2

namespace Session

/-- what becomes of a session: its handle is the one that it had or a new one, and the world has lasted -/
structure Heir (sound : W → Prop) (known : H → W → Prop) (apart : H → H → Prop) (p q : Session H P × W) : Prop where
  lasts : Lasts sound known p.2 q.2
  handle : sound p.2 → ∀ k, q.1.handle = some k →
    p.1.handle = some k ∨ known k q.2 ∧ ∀ g, known g p.2 → apart g k

omit [Reporting W] in
theorem Heir.stepwise : Stepwise (Heir (P := P) sound known apart) where
  refl p := ⟨Lasts.stepwise.refl p.2, fun _ _ hk => .inl hk⟩
  trans first second := by
    refine ⟨Lasts.stepwise.trans first.lasts second.lasts, fun hsound k hk => ?_⟩
    obtain ⟨hsound', hknown⟩ := first.lasts hsound
    rcases second.handle hsound' k hk with hsame | ⟨hnew, hapart⟩
    · rcases first.handle hsound k hsame with hold | ⟨hnew, hapart⟩
      · exact .inl hold
      · exact .inr ⟨(second.lasts hsound').2 k hnew, hapart⟩
    · exact .inr ⟨hnew, fun g hg => hapart g (hknown g hg)⟩

omit [Reporting W] in
/-- the same handle, or none -/
theorem Heir.of_handle {p q : Session H P × W} (h : q.1.handle = p.1.handle ∨ q.1.handle = none)
    (hlasts : Lasts sound known p.2 q.2) : Heir sound known apart p q := by
  refine ⟨hlasts, fun _ k hk => .inl ?_⟩
  rcases h with hsame | hnone
  · exact hsame ▸ hk
  · rw [hnone] at hk
    cases hk

variable (hb : b.Maintains sound known apart)

include hb

/-- closing a handle and letting go of it -/
theorem closed_lasts (h : H) (w : W) : Lasts sound known w (b.release h (b.closeHandle h w)) :=
  Lasts.stepwise.trans (hb.closeHandle h w) (hb.release h _)

theorem heir_manages : Manages b (Heir sound known apart) where
  stepwise := Heir.stepwise
  opening h s w _ := .of_handle (.inl rfl) (hb.openHandle h w)
  closing h s w _ := .of_handle (.inl rfl) (hb.closeHandle h w)
  statements h s _ :=
    { execute := fun sql w => .of_handle (.inl rfl) ((hb.channel h).execute sql w)
      query := fun q w => .of_handle (.inl rfl) ((hb.channel h).query q w)
      insert := fun table values w => .of_handle (.inl rfl) ((hb.channel h).insert table values w)
      update := fun table values condition args w =>
        .of_handle (.inl rfl) ((hb.channel h).update table values condition args w)
      delete := fun table condition args w => .of_handle (.inl rfl) ((hb.channel h).delete table condition args w) }
  report e s w := .of_handle (.inl rfl) (hb.report e w)
  taking s w stack := .of_handle (.inl rfl) (Lasts.stepwise.refl w)
  version s w version := .of_handle (.inl rfl) (Lasts.stepwise.refl w)
  siblings h s w _ := .of_handle (.inl rfl) (hb.siblings h w)
  listNames provider s w := .of_handle (.inl rfl) (hb.listNames provider w)
  dropDatabase provider name s w := .of_handle (.inl rfl) (hb.dropDatabase provider name w)
  refused provider name o s w e w' hopen := by
    have hlasts := hb.openDatabase provider name o w
    rw [hopen] at hlasts
    exact .of_handle (.inl rfl) hlasts
  rebinding provider name o s w h w' hopen := by
    have hlasts := hb.openDatabase provider name o w
    rw [hopen] at hlasts
    have hleft : Lasts sound known w' (rebind b name h (s, w')).2 := by
      unfold rebind
      cases s.handle with
      | none => exact Lasts.stepwise.refl w'
      | some old => exact closed_lasts hb old w'
    refine ⟨Lasts.stepwise.trans hlasts hleft, fun hsound k hk => ?_⟩
    cases hk
    obtain ⟨hknown, hapart⟩ := hb.fresh hopen
    exact .inr ⟨(hleft (hlasts hsound).1).2 h hknown, hapart⟩
  unbinding p := by
    refine .of_handle (.inr rfl) ?_
    unfold unbind
    cases p.1.handle with
    | none => exact Lasts.stepwise.refl p.2
    | some h => exact closed_lasts hb h p.2
  destroying p := by
    refine .of_handle (.inr rfl) ?_
    simp only [destroy, Task.change, closeOpen]
    cases p.1.handle with
    | none => exact Lasts.stepwise.refl p.2
    | some h =>
      dsimp only [Option.elim]
      split
      · exact closed_lasts hb h p.2
      · exact hb.release h p.2

/-- **A session has the handle that it had, or a new one**, unless one is bound that comes from outside. -/
theorem Operation.perform_heir {op : Operation H} (hop : ∀ h, op ≠ .bind h) :
    (op.perform b).Respects (Heir sound known apart) := by
  by_cases hname : ∃ name, op = .setDb name
  · obtain ⟨name, rfl⟩ := hname
    exact setDb_respects (heir_manages hb).points fun s w => .of_handle (.inl rfl) (Lasts.stepwise.refl w)
  · exact perform_respects (heir_manages hb) hop fun name heq => hname ⟨name, heq⟩

/-- binding a handle from outside -/
theorem bind_lasts (h : H) (p : Session H P × W) :
    Lasts sound known p.2 (bind b h p).2.2 ∧ (bind b h p).2.1.handle = some h := by
  refine ⟨?_, rfl⟩
  simp only [bind, Task.change]
  cases p.1.handle with
  | none => exact Lasts.stepwise.refl p.2
  | some old => exact hb.release old p.2

end Session

end FluentSql
