import FluentSql.Proofs.Agreement
import FluentSql.Proofs.Mirror
/-!
Worlds that no call tells apart. A backend is blind to a relation between worlds if every call and every report gives
the same answer in related worlds and leaves related worlds (`Backend.Blind`). Then no operation of a session tells them
apart (`Operation.perform_blind`): both runs are the halves of one run on a pair of related worlds, which mirrors each.

The case of interest is the order in which calls were written down. Two lists of sightings are jumbled if every handle,
and the providers, got the same calls in the same order (`Jumbled`); a watched backend is blind to that
(`Backend.Blind.observed`).
-/

namespace FluentSql

variable {W S H P α β : Type}

/-- the same first part, beside related second parts -/
def Beside (R : W → W → Prop) (p q : S × W) : Prop := p.1 = q.1 ∧ R p.2 q.2

/-- no call and no report tells related worlds apart -/
structure Backend.Blind [Reporting W] (b : Backend W H P) (R : W → W → Prop) : Prop where
  report : ∀ e v w, R v w → R (Reporting.emit e v) (Reporting.emit e w)
  note : ∀ n v w, R v w → R (Reporting.note n v) (Reporting.note n w)
  isOpen : ∀ h v w, R v w → b.isOpen h v = b.isOpen h w
  openHandle : ∀ h, (b.openHandle h).Agrees R (b.openHandle h)
  closeHandle : ∀ h v w, R v w → R (b.closeHandle h v) (b.closeHandle h w)
  release : ∀ h v w, R v w → R (b.release h v) (b.release h w)
  channel : ∀ h, (b.channel h).Agrees R (b.channel h)
  siblings : ∀ h, (b.siblings h).Agrees R (b.siblings h)
  openDatabase : ∀ p name o, (b.openDatabase p name o).Agrees R (b.openDatabase p name o)
  listNames : ∀ p, (b.listNames p).Agrees R (b.listNames p)
  dropDatabase : ∀ p name, (b.dropDatabase p name).Agrees R (b.dropDatabase p name)

/-! ## Two worlds side by side -/

/-- two related worlds -/
structure Twain (R : W → W → Prop) where
  left : W
  right : W
  related : R left right

namespace Twain

variable {R : W → W → Prop}

/-- an action in both worlds -/
def both (t : Task W α) (ht : t.Agrees R t) : Task (Twain R) α := fun d =>
  ((t d.left).1, ⟨(t d.left).2, (t d.right).2, (ht _ _ d.related).2⟩)

/-- a change of both worlds -/
def alter (f : W → W) (hf : ∀ v w, R v w → R (f v) (f w)) (d : Twain R) : Twain R :=
  ⟨f d.left, f d.right, hf _ _ d.related⟩

/-- one of the two worlds -/
def half : Bool → Twain R → W
  | false => left
  | true => right

theorem half_alter (side : Bool) (f : W → W) (hf : ∀ v w, R v w → R (f v) (f w)) (d : Twain R) :
    f (half side d) = half side (alter f hf d) := by
  cases side with
  | false => rfl
  | true => rfl

theorem both_half (side : Bool) (t : Task W α) (ht : t.Agrees R t) : (both t ht).Mirrors (half side) t := by
  cases side with
  | false => exact fun _ => rfl
  | true => exact fun d => Prod.ext (ht _ _ d.related).1.symm rfl

variable [Reporting W] {b : Backend W H P}

/-- reports go to both worlds -/
@[reducible]
def reporting (hb : b.Blind R) : Reporting (Twain R) where
  emit e := alter (Reporting.emit e) (hb.report e)
  note n := alter (Reporting.note n) (hb.note n)

/-- every call in both worlds -/
def backend (hb : b.Blind R) : Backend (Twain R) H P where
  name := b.name
  isOpen h d := b.isOpen h d.left
  openHandle h := both (b.openHandle h) (hb.openHandle h)
  closeHandle h := alter (b.closeHandle h) (hb.closeHandle h)
  release h := alter (b.release h) (hb.release h)
  channel h :=
    { execute := fun sql => both _ ((hb.channel h).execute sql)
      query := fun q => both _ ((hb.channel h).query q)
      insert := fun table values => both _ ((hb.channel h).insert table values)
      update := fun table values condition args => both _ ((hb.channel h).update table values condition args)
      delete := fun table condition args => both _ ((hb.channel h).delete table condition args) }
  siblings h := both (b.siblings h) (hb.siblings h)
  openDatabase p name o := both _ (hb.openDatabase p name o)
  listNames p := both _ (hb.listNames p)
  dropDatabase p name := both _ (hb.dropDatabase p name)

theorem mirrors_half (hb : b.Blind R) (side : Bool) :
    letI := reporting hb
    (backend hb).Mirrors (half side) b :=
  letI := reporting hb
  { report := fun e d => half_alter side _ (hb.report e) d
    name := fun _ => rfl
    isOpen := fun h d => by
      cases side with
      | false => rfl
      | true => exact hb.isOpen h _ _ d.related
    openHandle := fun h => both_half side _ (hb.openHandle h)
    closeHandle := fun h d => half_alter side _ (hb.closeHandle h) d
    release := fun h d => half_alter side _ (hb.release h) d
    channel := fun h =>
      { execute := fun sql => both_half side _ ((hb.channel h).execute sql)
        query := fun q => both_half side _ ((hb.channel h).query q)
        insert := fun table values => both_half side _ ((hb.channel h).insert table values)
        update := fun table values condition args =>
          both_half side _ ((hb.channel h).update table values condition args)
        delete := fun table condition args => both_half side _ ((hb.channel h).delete table condition args) }
    siblings := fun h => both_half side _ (hb.siblings h)
    openDatabase := fun p name o => both_half side _ (hb.openDatabase p name o)
    listNames := fun p => both_half side _ (hb.listNames p)
    dropDatabase := fun p name => both_half side _ (hb.dropDatabase p name) }

end Twain

namespace Session

variable {R : W → W → Prop}

/-- what mirrors itself in both halves of a pair of worlds cannot tell them apart -/
theorem agrees_of_halves {t : Task (Session H P × Twain R) α} {u : Task (Session H P × W) α}
    (hhalf : ∀ side, t.Mirrors (through (Twain.half side)) u) : u.Agrees (Beside R) u := by
  rintro ⟨s, v⟩ ⟨s', w⟩ ⟨heq, hR⟩
  cases heq
  have hv : u (s, v) = _ := hhalf false (s, ⟨v, w, hR⟩)
  have hw : u (s, w) = _ := hhalf true (s, ⟨v, w, hR⟩)
  rw [hv, hw]
  exact ⟨rfl, rfl, Twain.related _⟩

variable [Reporting W] {b : Backend W H P}

/-- **What no call tells apart, no operation of a session does.** -/
theorem Operation.perform_blind (hb : b.Blind R) (op : Operation H) :
    (op.perform b).Agrees (Beside R) (op.perform b) :=
  letI := Twain.reporting hb
  agrees_of_halves fun side => op.perform_mirrors (Twain.mirrors_half hb side)

end Session

/-! ## The order in which calls were written down -/

section

variable [DecidableEq H]

/-- the calls that a handle got, or the providers -/
def callsTo (x : Option H) (l : List (Sighting H P)) : List (Sighting H P) :=
  l.filter fun c => c.request.handle? = x

theorem callsTo_append (x : Option H) (l m : List (Sighting H P)) : callsTo x (l ++ m) = callsTo x l ++ callsTo x m :=
  List.filter_append ..

/-- every handle got the same calls in the same order, and so did the providers -/
def Jumbled (l m : List (Sighting H P)) : Prop := ∀ x, callsTo x l = callsTo x m

theorem jumbled_equivalence : Equivalence (Jumbled (H := H) (P := P)) where
  refl _ _ := rfl
  symm h x := (h x).symm
  trans first second x := (first x).trans (second x)

theorem Jumbled.append {l m l' m' : List (Sighting H P)} (h : Jumbled l m) (h' : Jumbled l' m') :
    Jumbled (l ++ l') (m ++ m') := fun x => by rw [callsTo_append, callsTo_append, h x, h' x]

/-- related worlds, and jumbled sightings -/
def Seen (R : W → W → Prop) (p q : List (Sighting H P) × W) : Prop := Jumbled p.1 q.1 ∧ R p.2 q.2

theorem seen_equivalence {R : W → W → Prop} (hR : Equivalence R) : Equivalence (Seen (H := H) (P := P) R) where
  refl _ := ⟨jumbled_equivalence.refl _, hR.refl _⟩
  symm h := ⟨jumbled_equivalence.symm h.1, hR.symm h.2⟩
  trans first second := ⟨jumbled_equivalence.trans first.1 second.1, hR.trans first.2 second.2⟩

variable {R : W → W → Prop}

/-- a call is seen in the same way in related worlds -/
theorem Task.Agrees.observed {t : Task W α} (ht : t.Agrees R t) (r : Request H P) {isOpen : W → Bool}
    (hopen : ∀ v w, R v w → isOpen v = isOpen w) : (t.observed r isOpen).Agrees (Seen R) (t.observed r isOpen) := by
  intro p q h
  obtain ⟨hanswer, hafter⟩ := ht p.2 q.2 h.2
  refine ⟨hanswer, ?_, hafter⟩
  simp only [Task.observed, hanswer, hopen _ _ h.2]
  exact h.1.append (jumbled_equivalence.refl _)

/-- a watched backend is blind to what the plain one is blind to, and to the order of calls to different handles -/
theorem Backend.Blind.observed [Reporting W] {b : Backend W H P} (hb : b.Blind R) : b.observed.Blind (Seen R) where
  report e p q h := ⟨h.1, hb.report e _ _ h.2⟩
  note n p q h := ⟨h.1, hb.note n _ _ h.2⟩
  isOpen h p q hR := hb.isOpen h _ _ hR.2
  openHandle h := (hb.openHandle h).observed _ (hb.isOpen h)
  closeHandle h p q hR := by
    refine ⟨?_, hb.closeHandle h _ _ hR.2⟩
    simp only [Backend.observed, hb.isOpen h _ _ hR.2]
    exact hR.1.append (jumbled_equivalence.refl _)
  release h p q hR := by
    refine ⟨?_, hb.release h _ _ hR.2⟩
    simp only [Backend.observed, hb.isOpen h _ _ hR.2]
    exact hR.1.append (jumbled_equivalence.refl _)
  channel h :=
    { execute := fun sql => ((hb.channel h).execute sql).observed _ (hb.isOpen h)
      query := fun q => ((hb.channel h).query q).observed _ (hb.isOpen h)
      insert := fun table values => ((hb.channel h).insert table values).observed _ (hb.isOpen h)
      update := fun table values condition args =>
        ((hb.channel h).update table values condition args).observed _ (hb.isOpen h)
      delete := fun table condition args => ((hb.channel h).delete table condition args).observed _ (hb.isOpen h) }
  siblings h := (hb.siblings h).observed _ (hb.isOpen h)
  openDatabase p name o := (hb.openDatabase p name o).observed _ fun _ _ _ => rfl
  listNames p := (hb.listNames p).observed _ fun _ _ _ => rfl
  dropDatabase p name := (hb.dropDatabase p name).observed _ fun _ _ _ => rfl

end

end FluentSql
