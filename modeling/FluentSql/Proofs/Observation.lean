import FluentSql.Proofs.Recording
import FluentSql.Proofs.Respect
/-!
Backends that are watched. Beside each call it is written down whether the handle was open when it was asked and
whether it answered (`Sighting`, `Backend.observed`); the call itself is carried out as before.

What happens on a watched backend only adds to the sightings (`Adds`).
-/

namespace FluentSql

variable {W H P α : Type}

/-! ## Sightings -/

/-- the handle that a call goes to; calls to a provider go to none -/
def Request.handle? : Request H P → Option H
  | openHandle h => some h
  | closeHandle h => some h
  | release h => some h
  | statement h _ => some h
  | siblings h => some h
  | openDatabase _ _ _ => none
  | listNames _ => none
  | dropDatabase _ _ => none

/-- the call lets go of a handle -/
def Request.isRelease : Request H P → Bool
  | release _ => true
  | _ => false

/-- a call as a watcher sees it -/
structure Sighting (H P : Type) where
  request : Request H P
  /-- whether the handle was open when it was asked; a provider never is -/
  wasOpen : Bool
  /-- closing and letting go always do -/
  answered : Bool

/-- carries a call out and writes down what was seen of it -/
def Task.observed (r : Request H P) (isOpen : W → Bool) (t : Task W α) : Task (List (Sighting H P) × W) α := fun p =>
  ((t p.2).1, p.1 ++ [⟨r, isOpen p.2, (t p.2).1.toBool⟩], (t p.2).2)

/-- what a watched call answered, what was seen of it, and what it left -/
theorem Task.of_observed {r : Request H P} {isOpen : W → Bool} {t : Task W α} {l l' : List (Sighting H P)} {w w' : W}
    {x : Except DbError α} (h : t.observed r isOpen (l, w) = (x, l', w')) :
    l' = l ++ [⟨r, isOpen w, x.toBool⟩] ∧ t w = (x, w') := by
  cases ht : t w
  simp only [observed, ht, Prod.mk.injEq] at h
  obtain ⟨rfl, rfl, rfl⟩ := h
  exact ⟨rfl, rfl⟩

/-- the statements of a handle, watched -/
def Channel.observed (h : H) (isOpen : W → Bool) (c : Channel W) : Channel (List (Sighting H P) × W) where
  execute sql := (c.execute sql).observed (.statement h (.execute sql)) isOpen
  query q := (c.query q).observed (.statement h (.query q)) isOpen
  insert table values := (c.insert table values).observed (.statement h (.insert table values)) isOpen
  update table values condition args :=
    (c.update table values condition args).observed (.statement h (.update table values condition args)) isOpen
  delete table condition args :=
    (c.delete table condition args).observed (.statement h (.delete table condition args)) isOpen

/-- every call, watched -/
def Backend.observed (b : Backend W H P) : Backend (List (Sighting H P) × W) H P where
  name := b.name
  isOpen h p := b.isOpen h p.2
  openHandle h := (b.openHandle h).observed (.openHandle h) (b.isOpen h)
  closeHandle h p := (p.1 ++ [⟨.closeHandle h, b.isOpen h p.2, true⟩], b.closeHandle h p.2)
  release h p := (p.1 ++ [⟨.release h, b.isOpen h p.2, true⟩], b.release h p.2)
  channel h := (b.channel h).observed h (b.isOpen h)
  siblings h := (b.siblings h).observed (.siblings h) (b.isOpen h)
  openDatabase p name o := (b.openDatabase p name o).observed (.openDatabase p name o) fun _ => false
  listNames p := (b.listNames p).observed (.listNames p) fun _ => false
  dropDatabase p name := (b.dropDatabase p name).observed (.dropDatabase p name) fun _ => false

theorem Backend.observed_openHandle (b : Backend W H P) (h : H) :
    b.observed.openHandle h = (b.openHandle h).observed (.openHandle h) (b.isOpen h) := rfl

theorem Backend.observed_openDatabase (b : Backend W H P) (p : P) (name : String) (o : OpenOptions) :
    b.observed.openDatabase p name o = (b.openDatabase p name o).observed (.openDatabase p name o) fun _ => false := rfl

/-! ## Adding to the sightings -/

/-- the later list is the earlier one and then sightings of a kind -/
def Adds (Q : Sighting H P → Prop) (l l' : List (Sighting H P)) : Prop := ∃ new, l' = l ++ new ∧ ∀ c ∈ new, Q c

theorem adds_refl (Q : Sighting H P → Prop) (l : List (Sighting H P)) : Adds Q l l := ⟨[], by simp, by simp⟩

theorem Adds.trans {Q : Sighting H P → Prop} {l m n : List (Sighting H P)} (hl : Adds Q l m) (hm : Adds Q m n) :
    Adds Q l n := by
  obtain ⟨first, rfl, hfirst⟩ := hl
  obtain ⟨second, rfl, hsecond⟩ := hm
  refine ⟨first ++ second, List.append_assoc .., fun c hc => ?_⟩
  rcases List.mem_append.1 hc with hc | hc
  · exact hfirst c hc
  · exact hsecond c hc

theorem adds_one {Q : Sighting H P → Prop} {c : Sighting H P} (hc : Q c) (l : List (Sighting H P)) :
    Adds Q l (l ++ [c]) := ⟨[c], rfl, by simpa using hc⟩

/-- every channel respects the relation that holds of everything -/
theorem Channel.respects_any (c : Channel W) : c.Respects fun _ _ => True :=
  ⟨fun _ _ => trivial, fun _ _ => trivial, fun _ _ _ => trivial, fun _ _ _ _ _ => trivial, fun _ _ _ _ => trivial⟩

/-- what a channel respects on a watched handle, from what it respects by itself and from what is written down -/
theorem Channel.observed_respects {S : W → W → Prop} {R : List (Sighting H P) × W → List (Sighting H P) × W → Prop}
    {h : H} {isOpen : W → Bool} {c : Channel W} (hc : c.Respects S)
    (hcall : ∀ q answered l w w', S w w' → R (l, w) (l ++ [⟨.statement h q, isOpen w, answered⟩], w')) :
    (c.observed h isOpen).Respects R where
  execute sql p := hcall _ _ _ _ _ (hc.execute sql p.2)
  query q p := hcall _ _ _ _ _ (hc.query q p.2)
  insert table values p := hcall _ _ _ _ _ (hc.insert table values p.2)
  update table values condition args p := hcall _ _ _ _ _ (hc.update table values condition args p.2)
  delete table condition args p := hcall _ _ _ _ _ (hc.delete table condition args p.2)

end FluentSql
