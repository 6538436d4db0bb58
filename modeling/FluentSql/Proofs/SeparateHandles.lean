import FluentSql.Proofs.Blindness
import FluentSql.Proofs.Ownership
import FluentSql.Registry
import Mathlib.Data.List.Basic
/-!
Handles that have nothing to do with each other. Letting go of a handle closes it first if it is open
(`Backend.letGo`), which is what destroying a session does to its handle (`Registry.destroyed_eq`). A world separates its
handles as far as a relation between worlds can tell (`Backend.Separates`) if letting go of one leaves the flags of those
that are apart from it, and if it does not matter which of the two comes first.

Then it does not matter in which order many handles are let go of (`Separates.letGoAll_perm`). This carries over to
watched backends (`Separates.observed`), where it says that each handle gets the same calls in every order: it is
closed if it was open, and then let go of (`Separates.letGoAll_calls`).
-/

namespace FluentSql

variable {W H P : Type}

/-- lets go of a handle, an open one only after closing it -/
def Backend.letGo (b : Backend W H P) (h : H) (w : W) : W :=
  b.release h (if b.isOpen h w then b.closeHandle h w else w)

/-- lets go of handles one after the other -/
def Backend.letGoAll (b : Backend W H P) (hs : List H) (w : W) : W := hs.foldl (fun w h => b.letGo h w) w

/-- in a sound world, handles that are apart have nothing to do with each other, as far as a relation can tell -/
structure Backend.Separates [Reporting W] (b : Backend W H P) (R : W → W → Prop) (sound : W → Prop)
    (apart : H → H → Prop) : Prop where
  equivalence : Equivalence R
  blind : b.Blind R
  ne : ∀ {g h}, apart g h → g ≠ h
  symm : ∀ {g h}, apart g h → apart h g
  kept : ∀ h w, sound w → sound (b.letGo h w)
  closed : ∀ h w, b.isOpen h (b.closeHandle h w) = false
  unnoticed : ∀ {g h} w, apart g h → b.isOpen h (b.letGo g w) = b.isOpen h w
  commute : ∀ {g h w}, sound w → apart g h → R (b.letGo h (b.letGo g w)) (b.letGo g (b.letGo h w))

/-! ## Destroying sessions -/

theorem Registry.destroyed_eq [Reporting W] (b : Backend W H P) (s : Session H P) (w : W) :
    destroyed b s w = s.handle.elim w fun h => b.letGo h w := by
  simp only [destroyed, Session.destroy, Session.closeOpen, Task.change]
  cases s.handle with
  | none => rfl
  | some h => rfl

/-! ## Many handles -/

section

variable [Reporting W] {b : Backend W H P} {R : W → W → Prop} {sound : W → Prop} {apart : H → H → Prop}

theorem Backend.Blind.letGo (hb : b.Blind R) (h : H) {v w : W} (hR : R v w) : R (b.letGo h v) (b.letGo h w) := by
  unfold Backend.letGo
  rw [hb.isOpen h v w hR]
  split
  · exact hb.release h _ _ (hb.closeHandle h _ _ hR)
  · exact hb.release h _ _ hR

theorem Backend.Blind.letGoAll (hb : b.Blind R) (hs : List H) {v w : W} (hR : R v w) :
    R (b.letGoAll hs v) (b.letGoAll hs w) := by
  induction hs generalizing v w with
  | nil => exact hR
  | cons h hs ih => exact ih (hb.letGo h hR)

/-- **The order does not matter.** Handles that are apart are let go of in any order, as far as the relation can
tell. -/
theorem Backend.Separates.letGoAll_perm (hsep : b.Separates R sound apart) {hs hs' : List H} (hperm : hs.Perm hs')
    {w : W} (hw : sound w) (h : hs.Pairwise apart) : R (b.letGoAll hs w) (b.letGoAll hs' w) := by
  induction hperm generalizing w with
  | nil => exact hsep.equivalence.refl w
  | cons k _ ih => exact ih (hsep.kept k w hw) (List.pairwise_cons.1 h).2
  | swap g k hs =>
    have hkg : apart k g := (List.pairwise_cons.1 h).1 g List.mem_cons_self
    exact hsep.blind.letGoAll hs (hsep.commute hw hkg)
  | trans first _ ih ih' =>
    exact hsep.equivalence.trans (ih hw h) (ih' hw ((first.pairwise_iff fun hgh => hsep.symm hgh).1 h))

end

/-! ## What a watcher sees -/

/-- the last calls that a handle gets: it is closed if it is open, and let go of -/
def lastCalls (h : H) (isOpen : Bool) : List (Sighting H P) :=
  (if isOpen then [⟨.closeHandle h, true, true⟩] else []) ++ [⟨.release h, false, true⟩]

theorem callsTo_lastCalls [DecidableEq H] (x : Option H) (h : H) (isOpen : Bool) :
    callsTo x (lastCalls h isOpen : List (Sighting H P)) = if some h = x then lastCalls h isOpen else [] := by
  cases isOpen with
  | false => by_cases hx : some h = x <;> simp [callsTo, lastCalls, Request.handle?, hx]
  | true => by_cases hx : some h = x <;> simp [callsTo, lastCalls, Request.handle?, hx]

/-- last calls of different handles may change places -/
theorem jumbled_lastCalls [DecidableEq H] {g h : H} (hne : g ≠ h) (o o' : Bool) :
    Jumbled (lastCalls g o ++ lastCalls h o' : List (Sighting H P)) (lastCalls h o' ++ lastCalls g o) := by
  intro x
  simp only [callsTo_append, callsTo_lastCalls]
  by_cases hg : some g = x
  · have hh : some h ≠ x := fun heq => hne (Option.some.inj (hg.trans heq.symm))
    simp [hh]
  · simp [hg]

section

theorem Backend.observed_letGo {b : Backend W H P} (hclosed : ∀ h w, b.isOpen h (b.closeHandle h w) = false) (h : H)
    (p : List (Sighting H P) × W) : b.observed.letGo h p = (p.1 ++ lastCalls h (b.isOpen h p.2), b.letGo h p.2) := by
  obtain ⟨l, w⟩ := p
  cases ho : b.isOpen h w with
  | false => simp [Backend.letGo, Backend.observed, lastCalls, ho]
  | true => simp [Backend.letGo, Backend.observed, lastCalls, ho, hclosed]

variable [Reporting W] {b : Backend W H P} {R : W → W → Prop} {sound : W → Prop} {apart : H → H → Prop}
  (hsep : b.Separates R sound apart)

include hsep

/-- **What is apart stays apart under a watcher's eyes**, who does not mind the order of calls to different handles. -/
theorem Backend.Separates.observed [DecidableEq H] : b.observed.Separates (Seen R) (fun p => sound p.2) apart where
  equivalence := seen_equivalence hsep.equivalence
  blind := hsep.blind.observed
  ne := hsep.ne
  symm := hsep.symm
  kept h p hp := by
    rw [Backend.observed_letGo hsep.closed]
    exact hsep.kept h p.2 hp
  closed h p := hsep.closed h p.2
  unnoticed {g h} p hgh := by
    rw [Backend.observed_letGo hsep.closed]
    exact hsep.unnoticed p.2 hgh
  commute {g h p} hp hgh := by
    simp only [Backend.observed_letGo hsep.closed, hsep.unnoticed p.2 hgh, hsep.unnoticed p.2 (hsep.symm hgh)]
    refine ⟨?_, hsep.commute hp hgh⟩
    simp only [List.append_assoc]
    exact (jumbled_equivalence.refl p.1).append (jumbled_lastCalls (hsep.ne hgh) _ _)

/-- each handle gets its last calls, by the flag that it had in the beginning -/
theorem Backend.Separates.letGoAll_calls {hs : List H} (h : hs.Pairwise apart) (p : List (Sighting H P) × W) :
    (b.observed.letGoAll hs p).1 = p.1 ++ hs.flatMap fun h => lastCalls h (b.isOpen h p.2) := by
  induction hs generalizing p with
  | nil => simp [Backend.letGoAll]
  | cons k hs ih =>
    obtain ⟨hk, hrest⟩ := List.pairwise_cons.1 h
    have hflags : hs.flatMap (fun g => lastCalls g (b.isOpen g (b.letGo k p.2))) =
        hs.flatMap fun g => (lastCalls g (b.isOpen g p.2) : List (Sighting H P)) :=
      List.flatMap_congr fun g hg => by rw [hsep.unnoticed p.2 (hk g hg)]
    have hstep := Backend.observed_letGo hsep.closed k p
    show (b.observed.letGoAll hs (b.observed.letGo k p)).1 = _
    rw [hstep, ih hrest, hflags, List.flatMap_cons, List.append_assoc]

end

end FluentSql
