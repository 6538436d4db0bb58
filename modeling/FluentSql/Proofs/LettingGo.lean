import FluentSql.Proofs.HostConduct
import FluentSql.Proofs.Mirror
import FluentSql.Proofs.Operations
/-!
Letting go of handles. Each operation that replaces the bound handle or leaves the session without one lets go of it,
and closes it right before if it is open (`Parted`). The exception is binding a handle from outside, which lets go of the
bound one as it is: an open handle is then abandoned (`bind_abandons`).

Main results: `run_parted_iff` says of every run that binding over an open handle is the only way to abandon one, and
`history_parted` says it of the calls of a whole run in a row.
-/

namespace FluentSql

variable {W H P α : Type}

/-! ## Lists of calls -/

namespace Sighting

/-- an open handle is let go of only right after it was closed -/
def Parted (calls : List (Sighting H P)) : Prop :=
  ∀ before c after h, calls = before ++ c :: after → c.request = .release h → c.wasOpen = true →
    ∃ earlier d, before = earlier ++ [d] ∧ d.request = .closeHandle h

theorem Parted.append {l m : List (Sighting H P)} (hl : Parted l) (hm : Parted m) : Parted (l ++ m) := by
  intro before c after h heq hc ho
  rcases List.append_eq_append_iff.1 heq with ⟨mid, rfl, hmid⟩ | ⟨mid, hmid, hafter⟩
  · -- the call is in the second list
    obtain ⟨earlier, d, rfl, hd⟩ := hm mid c after h hmid hc ho
    exact ⟨l ++ earlier, d, (List.append_assoc ..).symm, hd⟩
  · cases mid with
    | nil =>
      obtain ⟨earlier, d, he, -⟩ := hm [] c after h (by simpa using hafter.symm) hc ho
      simp at he
    | cons x rest =>
      -- the call is in the first list
      rw [List.cons_append] at hafter
      cases hafter
      exact hl before c rest h hmid hc ho

theorem parted_of_no_release {calls : List (Sighting H P)} (hcalls : ∀ c ∈ calls, c.request.isRelease = false) :
    Parted calls := by
  rintro before c after h rfl hc
  have hfalse := hcalls c (by simp)
  rw [hc] at hfalse
  cases hfalse

/-- the calls that let go of a handle properly: it is not open, or it is closed right before -/
inductive Farewell (h : H) : List (Sighting H P) → Prop where
  | closed (answered : Bool) : Farewell h [⟨.release h, false, answered⟩]
  | closing (o o' a a' : Bool) : Farewell h [⟨.closeHandle h, o, a⟩, ⟨.release h, o', a'⟩]

theorem Farewell.release {h : H} {calls : List (Sighting H P)} (hf : Farewell h calls) :
    ∃ c ∈ calls, c.request = .release h := by
  cases hf with
  | closed answered => exact ⟨_, List.mem_singleton.2 rfl, rfl⟩
  | closing o o' a a' => exact ⟨_, List.mem_cons_of_mem _ (List.mem_singleton.2 rfl), rfl⟩

theorem Farewell.parted {h : H} {calls : List (Sighting H P)} (hf : Farewell h calls) : Parted calls := by
  intro before c after h' heq hc ho
  cases hf with
  | closed answered =>
    cases before with
    | nil =>
      cases heq
      cases ho
    | cons _ rest => simp at heq
  | closing o o' a a' =>
    rcases before with _ | ⟨x, _ | ⟨y, rest⟩⟩
    · cases heq
      cases hc
    · cases heq
      cases hc
      exact ⟨[], _, rfl, rfl⟩
    · simp at heq

end Sighting

open Sighting

namespace Session

/-! ## Letting go of the bound handle -/

section

variable {s : Session H P} {h : H} (hs : s.handle = some h) (l : List (Sighting H P)) (w : W)

include hs

theorem rebind_farewell (b : Backend W H P) (name : String) (g : H) :
    ∃ bye, Farewell h bye ∧ (rebind b.observed name g (s, l, w)).2.1 = l ++ bye := by
  refine ⟨_, .closing (b.isOpen h w) (b.isOpen h (b.closeHandle h w)) true true, ?_⟩
  simp only [rebind, hs, Backend.observed, Option.elim, List.append_assoc]
  rfl

theorem unbind_farewell (b : Backend W H P) :
    ∃ bye, Farewell h bye ∧ (unbind b.observed (s, l, w)).2.1 = l ++ bye := by
  refine ⟨_, .closing (b.isOpen h w) (b.isOpen h (b.closeHandle h w)) true true, ?_⟩
  simp only [unbind, hs, Backend.observed, Option.elim, List.append_assoc]
  rfl

theorem destroy_farewell (b : Backend W H P) :
    ∃ bye, Farewell h bye ∧ (destroy b.observed (s, l, w)).2.2.1 = l ++ bye := by
  cases ho : b.isOpen h w with
  | true =>
    refine ⟨_, .closing true (b.isOpen h (b.closeHandle h w)) true true, ?_⟩
    simp only [destroy, closeOpen, Task.change, hs, Backend.observed, Option.elim, ho, if_true, List.append_assoc]
    rfl
  | false =>
    refine ⟨_, .closed true, ?_⟩
    simp only [destroy, closeOpen, Task.change, hs, Backend.observed, Option.elim, ho, Bool.false_eq_true, if_false]

end

/-! ## What operations do -/

/-- what watched operations do goes along a relation: changes that keep the handle and the name, calls that let go of
nothing, and the ways of letting go of the bound handle -/
structure Follows (b : Backend W H P) (R : Watched W H P → Watched W H P → Prop) : Prop where
  stepwise : Stepwise R
  silent : ∀ {s s' : Session H P} {l w w'}, s'.handle = s.handle → s'.dbName = s.dbName → R (s, l, w) (s', l, w')
  call : ∀ s l {c : Sighting H P}, c.request.isRelease = false → ∀ w w', R (s, l, w) (s, l ++ [c], w')
  rebinding : ∀ {provider name o v g w}, b.openDatabase provider name o v = (.ok g, w) →
    ∀ s l, R (s, l, w) (rebind b.observed name g (s, l, w))
  unbinding : ∀ s l w, R (s, l, w) (unbind b.observed (s, l, w))
  destroying : ∀ s l w, R (s, l, w) (destroy b.observed (s, l, w)).2

/-- the calls in between let go of open handles only right after closing them, and they let go of the bound handle if
it is bound no more -/
def Parting (p q : Watched W H P) : Prop :=
  ∃ new, q.2.1 = p.2.1 ++ new ∧ Parted new ∧
    ∀ h, p.1.handle = some h → q.1.handle ≠ some h → ∃ c ∈ new, c.request = .release h

theorem Parting.stepwise : Stepwise (Parting (W := W) (H := H) (P := P)) where
  refl p := ⟨[], by simp, parted_of_no_release (by simp), fun h hp hq => absurd hp hq⟩
  trans {p q r} first second := by
    obtain ⟨l, hl, hlparted, hlgone⟩ := first
    obtain ⟨m, hm, hmparted, hmgone⟩ := second
    refine ⟨l ++ m, by rw [hm, hl, List.append_assoc], hlparted.append hmparted, fun h hp hr => ?_⟩
    by_cases hq : q.1.handle = some h
    · obtain ⟨c, hc, hrelease⟩ := hmgone h hq hr
      exact ⟨c, List.mem_append_right l hc, hrelease⟩
    · obtain ⟨c, hc, hrelease⟩ := hlgone h hp hq
      exact ⟨c, List.mem_append_left m hc, hrelease⟩

/-- a change that keeps the handle and makes no call -/
theorem parting_silent {s s' : Session H P} (hh : s'.handle = s.handle) (l : List (Sighting H P)) (w w' : W) :
    Parting (s, l, w) (s', l, w') :=
  ⟨[], by simp, parted_of_no_release (by simp), fun h hp hq => absurd (hh.trans hp) hq⟩

/-- a call that lets go of nothing -/
theorem parting_call (s : Session H P) (l : List (Sighting H P)) {c : Sighting H P}
    (hc : c.request.isRelease = false) (w w' : W) : Parting (s, l, w) (s, l ++ [c], w') :=
  ⟨[c], rfl, parted_of_no_release (by simpa using hc), fun _ hp hq => absurd hp hq⟩

/-- a proper farewell to the bound handle -/
theorem parting_farewell {s : Session H P} {h : H} (hs : s.handle = some h) {l : List (Sighting H P)} {w : W}
    {q : Watched W H P} (hq : ∃ bye, Farewell h bye ∧ q.2.1 = l ++ bye) : Parting (s, l, w) q := by
  obtain ⟨bye, hbye, hcalls⟩ := hq
  refine ⟨bye, hcalls, hbye.parted, fun h' hp _ => ?_⟩
  rw [← Option.some.inj (hs.symm.trans hp)]
  exact hbye.release

/-- a change that makes no call when no handle is bound -/
theorem parting_unbound {s : Session H P} (hs : s.handle = none) {l : List (Sighting H P)} {w : W} {q : Watched W H P}
    (hq : q.2.1 = l) : Parting (s, l, w) q :=
  ⟨[], by simp [hq], parted_of_no_release (by simp), fun h hp => by simp [hs] at hp⟩

theorem rebind_parting (b : Backend W H P) (name : String) (g : H) (s : Session H P) (l : List (Sighting H P)) (w : W) :
    Parting (s, l, w) (rebind b.observed name g (s, l, w)) := by
  cases hs : s.handle with
  | none => exact parting_unbound hs (by simp only [rebind, hs, Option.elim])
  | some h => exact parting_farewell hs (rebind_farewell hs l w b name g)

theorem unbind_parting (b : Backend W H P) (s : Session H P) (l : List (Sighting H P)) (w : W) :
    Parting (s, l, w) (unbind b.observed (s, l, w)) := by
  cases hs : s.handle with
  | none => exact parting_unbound hs (by simp only [unbind, hs, Option.elim])
  | some h => exact parting_farewell hs (unbind_farewell hs l w b)

theorem destroy_parting (b : Backend W H P) (s : Session H P) (l : List (Sighting H P)) (w : W) :
    Parting (s, l, w) (destroy b.observed (s, l, w)).2 := by
  cases hs : s.handle with
  | none => exact parting_unbound hs (by simp only [destroy, closeOpen, Task.change, hs, Option.elim])
  | some h => exact parting_farewell hs (destroy_farewell hs l w b)

/-- binding from outside when no open handle is bound -/
theorem bind_parting (b : Backend W H P) (g : H) (s : Session H P) (l : List (Sighting H P)) {w : W}
    (hclosed : isOpen b (s, w) = false) : Parting (s, l, w) (bind b.observed g (s, l, w)).2 := by
  cases hs : s.handle with
  | none => exact parting_unbound hs (by simp only [bind, Task.change, hs, Option.elim])
  | some h =>
    have hflag : b.isOpen h w = false := by simpa [isOpen, hs] using hclosed
    refine parting_farewell hs ⟨_, .closed true, ?_⟩
    simp only [bind, Task.change, hs, Option.elim, Backend.observed, hflag]

theorem follows_parting (b : Backend W H P) : Follows b (Parting (W := W)) where
  stepwise := Parting.stepwise
  silent hh _ := parting_silent hh _ _ _
  call := parting_call
  rebinding _ s l := rebind_parting b _ _ s l _
  unbinding := unbind_parting b
  destroying := destroy_parting b

variable [Reporting W]

theorem Follows.manages {R : Watched W H P → Watched W H P → Prop} (hF : Follows b R) : Manages b.observed R where
  stepwise := hF.stepwise
  opening _ s p _ := hF.call s p.1 rfl p.2 _
  closing _ s p _ := hF.call s p.1 rfl p.2 _
  statements h s _ := Channel.observed_respects (b.channel h).respects_any fun _ _ l _ _ _ => hF.call s l rfl _ _
  report _ _ _ := hF.silent rfl rfl
  taking _ _ _ := hF.silent rfl rfl
  version _ _ _ := hF.silent rfl rfl
  siblings _ s p _ := hF.call s p.1 rfl p.2 _
  listNames _ s p := hF.call s p.1 rfl p.2 _
  dropDatabase _ _ s p := hF.call s p.1 rfl p.2 _
  refused := by
    rintro provider name o s ⟨l, w⟩ e ⟨l', w'⟩ hopen
    rw [Backend.observed_openDatabase] at hopen
    obtain ⟨rfl, -⟩ := Task.of_observed hopen
    exact hF.call s l rfl w w'
  rebinding := by
    rintro provider name o s ⟨l, w⟩ h ⟨l', w'⟩ hopen
    rw [Backend.observed_openDatabase] at hopen
    obtain ⟨rfl, hopened⟩ := Task.of_observed hopen
    exact hF.stepwise.trans (hF.call s l rfl w w') (hF.rebinding hopened s _)
  unbinding p := hF.unbinding p.1 p.2.1 p.2.2
  destroying p := hF.destroying p.1 p.2.1 p.2.2

/-- every operation but binding from outside closes before it lets go -/
theorem Operation.perform_parting (b : Backend W H P) {op : Operation H} (hbind : ∀ h, op ≠ .bind h) :
    (op.perform b.observed).Respects (Parting (W := W)) := by
  by_cases hname : ∃ name, op = .setDb name
  · obtain ⟨name, rfl⟩ := hname
    exact setDb_respects (follows_parting b).manages.points fun s p => parting_silent rfl p.1 p.2 p.2
  · exact perform_respects (follows_parting b).manages hbind fun name heq => hname ⟨name, heq⟩

/-! ## One operation -/

/-- binding from outside lets go of the bound handle and does nothing else -/
theorem bind_calls (b : Backend W H P) (g : H) (p : Session H P × W) :
    (Operation.bind g).calls b p = p.1.handle.elim [] fun old => [⟨.release old, b.isOpen old p.2, true⟩] := by
  simp only [Operation.calls, Operation.perform, bind, Task.change, Backend.observed]
  cases p.1.handle with
  | none => rfl
  | some old => rfl

theorem Operation.calls_parting (b : Backend W H P) {op : Operation H} (hbind : ∀ h, op ≠ .bind h)
    (p : Session H P × W) :
    Parted (op.calls b p) ∧
      ∀ h, p.1.handle = some h → (op.perform b p).2.1.handle ≠ some h → ∃ c ∈ op.calls b p, c.request = .release h := by
  obtain ⟨new, hnew, hparted, hgone⟩ := perform_parting b hbind (p.1, [], p.2)
  rw [perform_observed] at hnew hgone
  rw [show op.calls b p = new from hnew]
  exact ⟨hparted, hgone⟩

/-- an operation abandons an open handle only by binding another one from outside over it -/
theorem Operation.parted_iff (b : Backend W H P) (op : Operation H) (p : Session H P × W) :
    Parted (op.calls b p) ↔ ∀ g, op = .bind g → isOpen b p = false := by
  by_cases hbind : ∃ g, op = .bind g
  · obtain ⟨g, rfl⟩ := hbind
    rw [bind_calls, isOpen]
    cases p.1.handle with
    | none => exact ⟨fun _ _ _ => rfl, fun _ => parted_of_no_release (by simp)⟩
    | some old =>
      simp only [Option.elim, Option.any]
      constructor
      · intro hparted _ _
        cases ho : b.isOpen old p.2 with
        | false => rfl
        | true =>
          rw [ho] at hparted
          obtain ⟨earlier, d, hd, -⟩ := hparted [] _ [] old rfl rfl rfl
          simp at hd
      · intro hclosed
        rw [hclosed g rfl]
        exact (Farewell.closed true).parted
  · have hbind' : ∀ g, op ≠ .bind g := fun g heq => hbind ⟨g, heq⟩
    exact ⟨fun _ g heq => absurd heq (hbind' g), fun _ => (calls_parting b hbind' p).1⟩

/-- a handle that is bound no more was let go of -/
theorem Operation.released (b : Backend W H P) (op : Operation H) {p : Session H P × W} {h : H}
    (hp : p.1.handle = some h) (hgone : (op.perform b p).2.1.handle ≠ some h) :
    ∃ c ∈ op.calls b p, c.request = .release h := by
  by_cases hbind : ∃ g, op = .bind g
  · obtain ⟨g, rfl⟩ := hbind
    rw [bind_calls, hp]
    exact ⟨_, List.mem_singleton.2 rfl, rfl⟩
  · exact (calls_parting b (fun g heq => hbind ⟨g, heq⟩) p).2 h hp hgone

/-! ## Runs -/

/-- **Open handles are abandoned by binding over them, and in no other way.** In every run, a handle that is bound no
more was let go of, and all open handles were closed right before, exactly if no handle is bound from outside while an
open one is bound. -/
theorem run_parted_iff (b : Backend W H P) (ops : List (Operation H)) (start : Session H P × W) :
    (∀ pre op rest h, ops = pre ++ op :: rest → (after b pre start).1.handle = some h →
      (after b (pre ++ [op]) start).1.handle ≠ some h →
        ∃ c ∈ op.calls b (after b pre start), c.request = .release h) ∧
    ((∀ pre op rest, ops = pre ++ op :: rest → Parted (op.calls b (after b pre start))) ↔
      ∀ pre g rest, ops = pre ++ .bind g :: rest → isOpen b (after b pre start) = false) := by
  refine ⟨fun pre op rest h _ hp hgone => ?_, fun hparted pre g rest hops => ?_, fun hclosed pre op rest hops => ?_⟩
  · rw [after_concat] at hgone
    exact op.released b hp hgone
  · exact ((Operation.bind g).parted_iff b _).1 (hparted pre _ rest hops) g rfl
  · refine (op.parted_iff b _).2 fun g heq => hclosed pre g rest ?_
    rw [hops, heq]

/-- the calls of a run in a row -/
def history (b : Backend W H P) (ops : List (Operation H)) (start : Session H P × W) : List (Sighting H P) :=
  (after b.observed ops (start.1, [], start.2)).2.1

/-- a run in which no handle is bound over an open one, from any calls that came before -/
theorem after_parting (b : Backend W H P) (ops : List (Operation H)) (p : Watched W H P)
    (hbind : ∀ pre g rest, ops = pre ++ .bind g :: rest → isOpen b (after b pre (through Prod.snd p)) = false) :
    Parting p (after b.observed ops p) := by
  induction ops generalizing p with
  | nil => exact Parting.stepwise.refl p
  | cons op ops ih =>
    have hstep : Parting p (op.perform b.observed p).2 := by
      by_cases hop : ∃ g, op = .bind g
      · obtain ⟨g, rfl⟩ := hop
        exact bind_parting b g p.1 p.2.1 (hbind [] g ops rfl)
      · exact Operation.perform_parting b (fun g heq => hop ⟨g, heq⟩) p
    refine Parting.stepwise.trans hstep (ih _ fun pre g rest hops => ?_)
    have hshow : (op.perform b (through Prod.snd p)).2 = through Prod.snd (op.perform b.observed p).2 := by
      rw [op.perform_mirrors b.observed_mirrors p]
    rw [← hshow]
    exact hbind (op :: pre) g rest (by rw [hops]; rfl)

/-- **The calls of a whole run** let go of open handles only right after closing them, if no handle is bound from
outside while an open one is bound. -/
theorem history_parted (b : Backend W H P) (ops : List (Operation H)) (start : Session H P × W)
    (hbind : ∀ pre g rest, ops = pre ++ .bind g :: rest → isOpen b (after b pre start) = false) :
    Parted (history b ops start) := by
  obtain ⟨new, hnew, hparted, -⟩ := after_parting b ops (start.1, [], start.2) hbind
  rw [history, hnew]
  exact hparted

/-- a database that was opened by name is let go of open, and nothing ever closes it, when a handle from outside takes
its place -/
theorem bind_abandons :
    history Host.backend [.createDb "a.db", .bind (Host.first "b.db")]
        (ofProvider .script, Host.rehearsing "b.db" .standard) =
      [⟨.openDatabase .script "a.db" .standard, false, true⟩, ⟨.release ⟨1, "a.db"⟩, true, true⟩] ∧
    ¬ Parted (history Host.backend [.createDb "a.db", .bind (Host.first "b.db")]
        (ofProvider .script, Host.rehearsing "b.db" .standard)) := by
  refine ⟨rfl, fun hparted => ?_⟩
  obtain ⟨earlier, d, hd, hclose⟩ := hparted [⟨.openDatabase .script "a.db" .standard, false, true⟩] _ [] ⟨1, "a.db"⟩
    rfl rfl rfl
  cases earlier with
  | nil =>
    cases hd
    cases hclose
  | cons _ rest => simp at hd

end Session

end FluentSql
