import FluentSql.Proofs.HostSeparation
import FluentSql.Proofs.RegistryOwnership
/-!
Histories of a registry of sessions, in which every map is emptied in an order of its own. Two runs of one history in
different orders go side by side (`Operation.perform_related`, `after_related`): wherever one of them empties a map, the
handles in it are apart, and so they are let go of in either order. What a watcher sees of it is said for each handle
(`Operation.perform_calls`), and `runs_in_any_order` puts everything together.
-/

namespace FluentSql.Registry

variable {V W H P : Type}

/-! ## Two runs side by side -/

section

variable [Reporting V] {b : Backend V H P} {R : V → V → Prop} {sound : V → Prop} {known : H → V → Prop}
  {apart : H → H → Prop}

omit [Reporting V] in
theorem agrees_dropAnswer {α : Type} {t : Task (Registry H P × V) α} (ht : t.Agrees (Beside R) t) :
    t.dropAnswer.Agrees (Beside R) t.dropAnswer := ht.bind fun _ => Task.agrees_pure ()

theorem ensure_agrees (hb : b.Blind R) (id : Nat) {make : Task V (Session H P)} (hmake : make.Agrees R make) :
    (ensure id make).Agrees (Beside R) (ensure id make) := by
  rintro ⟨r, v⟩ ⟨_, w⟩ ⟨rfl, hR⟩
  cases h : r.get? id with
  | some s =>
    rw [ensure_of_some h, ensure_of_some h]
    exact ⟨rfl, rfl, hR⟩
  | none =>
    rw [ensure_of_none h, ensure_of_none h]
    rcases hw : make (Reporting.emit (created id) w) with ⟨x, w'⟩
    obtain ⟨v', hv, hafter⟩ := hmake.follow (hb.report (created id) v w hR) hw
    rw [hv]
    cases x with
    | error e => exact ⟨rfl, rfl, hafter⟩
    | ok s => exact ⟨rfl, rfl, hafter⟩

omit [Reporting V] in
theorem onSession_agrees {α : Type} (id : Nat) {action : Task (Session H P × V) α}
    (haction : action.Agrees (Beside R) action) : (onSession id action).Agrees (Beside R) (onSession id action) := by
  rintro ⟨r, v⟩ ⟨_, w⟩ ⟨rfl, hR⟩
  simp only [onSession]
  cases r.get? id with
  | none => exact ⟨rfl, rfl, hR⟩
  | some s =>
    have hsame : Beside R (s, v) (s, w) := ⟨rfl, hR⟩
    obtain ⟨hanswer, hsession, hafter⟩ := haction _ _ hsame
    exact ⟨congrArg (Except.map some) hanswer, congrArg (r.set id) hsession, hafter⟩

theorem teardown_agrees (hb : b.Blind R) (id : Nat) : (teardown b id).Agrees (Beside R) (teardown b id) := by
  rintro ⟨r, v⟩ ⟨_, w⟩ ⟨rfl, hR⟩
  simp only [teardown]
  cases r.get? id with
  | none => exact ⟨rfl, rfl, hR⟩
  | some s =>
    refine ⟨rfl, rfl, ?_⟩
    simp only [destroyed_eq]
    cases s.handle with
    | none => exact hR
    | some h => exact hb.letGo h hR

/-- **One operation, in two orders**, from the same sessions in related worlds. -/
theorem Operation.perform_related (hsep : b.Separates R sound apart) (d d' : Drain H P) {op : Operation V H P}
    (hmake : ∀ make ∈ op.make?, make.Agrees R make) {p q : Registry H P × V} (howned : Owned sound known apart p)
    (h : Beside R p q) : Beside R (op.perform b d p).2 (op.perform b d' q).2 := by
  have hb := hsep.blind
  cases op with
  | getOrCreate id make => exact (agrees_dropAnswer (ensure_agrees hb id (hmake make rfl)) p q h).2
  | sessionFor id dbName make =>
    refine (agrees_dropAnswer ((ensure_agrees hb id (hmake make rfl)).bind fun made => ?_) p q h).2
    exact (onSession_agrees id ((Session.Operation.setDb dbName).perform_blind hb)).bind fun _ => Task.agrees_pure made
  | get id => exact h
  | within id op => exact (agrees_dropAnswer (onSession_agrees id (op.perform_blind hb)) p q h).2
  | insert id s =>
    obtain ⟨r, v⟩ := p
    obtain ⟨_, w⟩ := q
    obtain ⟨rfl, hR⟩ := h
    exact ⟨rfl, hR⟩
  | remove id =>
    obtain ⟨r, v⟩ := p
    obtain ⟨_, w⟩ := q
    obtain ⟨rfl, hR⟩ := h
    exact ⟨rfl, hR⟩
  | teardown id => exact (agrees_dropAnswer (teardown_agrees hb id) p q h).2
  | clear =>
    obtain ⟨r, v⟩ := p
    obtain ⟨_, w⟩ := q
    obtain ⟨rfl, hR⟩ := h
    have hperm := (handles_perm d r).trans (handles_perm d' r).symm
    have horder := hsep.letGoAll_perm hperm howned.sound (((handles_perm d r).pairwise_iff hsep.symm).2 howned.pairwise)
    simp only [perform, clearIn_eq]
    exact ⟨rfl, hsep.equivalence.trans horder (hb.letGoAll _ hR)⟩

/-- **Whole runs, in any orders**, end with the same sessions in related worlds. -/
theorem after_related (hb : b.Maintains sound known apart) (hsep : b.Separates R sound apart) {drains : Nat → Drain H P}
    (drains' : Nat → Drain H P) {ops : List (Operation V H P)} (hmakes : ∀ op ∈ ops, ∀ make ∈ op.make?, make.Agrees R make)
    {p q : Registry H P × V} (hfair : FairRun sound known apart b drains ops p) (howned : Owned sound known apart p)
    (h : Beside R p q) : Beside R (after b drains ops p) (after b drains' ops q) := by
  induction ops generalizing drains drains' p q with
  | nil => exact h
  | cons op ops ih =>
    have hstep := op.perform_related hsep (drains 0) (drains' 0) (hmakes op List.mem_cons_self) howned h
    have hnext := op.perform_owned hb hsep.symm (drains 0) howned hfair.1
    exact ih _ (fun o ho => hmakes o (List.mem_cons_of_mem _ ho)) hfair.2 hnext hstep

end

/-! ## Watched runs -/

section

variable [Reporting W] [DecidableEq H] {b : Backend W H P} {R : W → W → Prop} {sound : W → Prop} {known : H → W → Prop}
  {apart : H → H → Prop}

omit [Reporting W] in
/-- of the last calls of many handles, those to one of them -/
theorem callsTo_flatMap (hs : List H) (hnodup : hs.Nodup) (f : H → Bool) (x : Option H) :
    callsTo x (hs.flatMap fun h => (lastCalls h (f h) : List (Sighting H P))) =
      x.elim [] fun h => if h ∈ hs then lastCalls h (f h) else [] := by
  induction hs with
  | nil => cases x <;> rfl
  | cons k hs ih =>
    obtain ⟨hk, hrest⟩ := List.nodup_cons.1 hnodup
    rw [List.flatMap_cons, callsTo_append, callsTo_lastCalls, ih hrest]
    cases x with
    | none => simp
    | some h =>
      by_cases heq : k = h
      · subst heq
        simp [hk]
      · simp [heq, Ne.symm heq]

/-- a handle that is taken down gets its last calls, and no other one gets any -/
theorem Operation.perform_calls (hsep : b.Separates R sound apart) (d : Drain H P)
    {op : Operation (List (Sighting H P) × W) H P} (hop : op = .clear ∨ ∃ id, op = .teardown id)
    {p : Registry H P × List (Sighting H P) × W} (howned : (op.takenDown p.1).Pairwise apart) (x : Option H) :
    callsTo x (op.perform b.observed d p).2.2.1 = callsTo x p.2.1 ++
      x.elim [] fun h => if h ∈ op.takenDown p.1 then lastCalls h (b.isOpen h p.2.2) else [] := by
  obtain ⟨hs, hperm, hworld⟩ := op.perform_world b.observed d hop p
  have hapart : hs.Pairwise apart := (hperm.pairwise_iff hsep.symm).2 howned
  have hnodup : hs.Nodup := hapart.imp hsep.ne
  rw [hworld, hsep.letGoAll_calls hapart, callsTo_append, callsTo_flatMap hs hnodup]
  simp only [hperm.mem_iff]

omit [Reporting W] [DecidableEq H] in
theorem Owned.takenDown {p : Registry H P × W} (h : Owned sound known apart p) (op : Operation V H P) :
    (op.takenDown p.1).Pairwise apart := by
  cases op with
  | clear => exact h.pairwise
  | teardown id =>
    simp only [Operation.takenDown]
    cases p.1.handle? id with
    | none => exact .nil
    | some g => exact List.pairwise_singleton _ g
  | _ => exact .nil

/-- **Sessions come and go by themselves, and the order in which they go does not matter.** In every fair history of a
registry, emptied in any orders, over a world that maintains its handles and separates them: a make function is run
exactly if its context has no session; an operation on one context leaves the sessions of all others; a session that is
taken down is gone, and its handle is closed exactly if it was open and then let go of, while no other handle gets a call;
and in any other orders the sessions are the same in the end, and every handle got the same calls in the same order. -/
theorem runs_in_any_order (hb : b.Maintains sound known apart) (hsep : b.Separates R sound apart)
    {ops : List (Operation (List (Sighting H P) × W) H P)}
    (hmakes : ∀ op ∈ ops, ∀ make ∈ op.make?, make.Agrees (Seen R) make) {drains : Nat → Drain H P} {w : W} (hw : sound w)
    (hfair : FairRun (fun p => sound p.2) (fun h p => known h p.2) apart b.observed drains ops (empty, [], w)) :
    (∀ pre op rest, ops = pre ++ op :: rest → ∀ p, p = after b.observed drains pre (empty, [], w) → ∀ d,
      (∀ id make, op.context? = some id → op.make? = some make →
        (∀ s, p.1.get? id = some s → op.perform b.observed d p = op.onceMade.perform b.observed d p) ∧
        (p.1.get? id = none →
          op.perform b.observed d p = op.onwards b.observed d id p.1 (make (Reporting.emit (created id) p.2)))) ∧
      (∀ id, op.context? = some id → ∀ j, j ≠ id → (op.perform b.observed d p).2.1.get? j = p.1.get? j) ∧
      (∀ id, op = .clear ∨ op = .teardown id → (op.perform b.observed d p).2.1.get? id = none) ∧
      ((op = .clear ∨ ∃ id, op = .teardown id) → ∀ x, callsTo x (op.perform b.observed d p).2.2.1 =
        callsTo x p.2.1 ++ x.elim [] fun h => if h ∈ op.takenDown p.1 then lastCalls h (b.isOpen h p.2.2) else [])) ∧
    ∀ drains', (after b.observed drains' ops (empty, [], w)).1 = (after b.observed drains ops (empty, [], w)).1 ∧
      ∀ x, callsTo x (after b.observed drains' ops (empty, [], w)).2.1 =
        callsTo x (after b.observed drains ops (empty, [], w)).2.1 := by
  have hempty : Owned (fun p => sound p.2) (fun h p => known h p.2) apart
      ((empty : Registry H P), ([] : List (Sighting H P)), w) := owned_empty hw
  refine ⟨fun pre op rest hops p hp d => ?_, fun drains' => ?_⟩
  · subst hops
    have howned := hp ▸ hfair.after_owned hb.observed hsep.symm hempty
    refine ⟨fun id make hid hmake => ?_, fun id hid j hj => ?_, fun id hop => ?_, fun hop x => ?_⟩
    · exact ⟨fun s h => op.perform_found b.observed d hid hmake h, op.perform_made b.observed d hid hmake⟩
    · exact (op.perform_local id _ d hid p).elsewhere hj
    · exact op.perform_gone _ d hop howned.keyed
    · exact op.perform_calls hsep d hop (howned.takenDown op) x
  · have hsame : Beside (Seen R) (empty, [], w) ((empty : Registry H P), [], w) :=
      ⟨rfl, hsep.observed.equivalence.refl _⟩
    obtain ⟨hsessions, hcalls, -⟩ := after_related hb.observed hsep.observed drains' hmakes hfair hempty hsame
    exact ⟨hsessions.symm, fun x => (hcalls x).symm⟩

end

/-- makes a session that keeps its databases in memory -/
def makeNotes : Task (List (Sighting HandleRef Source) × Host) (Session HandleRef Source) :=
  pure (Session.ofProvider (.embedded (.inMemory 0)))

/-- three sessions of the same database, of which the second one closes it again -/
def openNotes : List (Operation (List (Sighting HandleRef Source) × Host) HandleRef Source) :=
  [.sessionFor 1 "notes.db" makeNotes, .sessionFor 2 "notes.db" makeNotes, .sessionFor 3 "notes.db" makeNotes,
    .within 1 .openDb, .within 2 .openDb, .within 3 .openDb, .within 2 .closeDb]

/-- the world with nothing in it -/
def notesHost : Host := Host.ofStage (.ofScript .standard [])

/-- the last session first -/
def Drain.backwards : Drain H P := ⟨List.reverse, fun l => l.reverse_perm⟩

/-- the sessions of the notes before they are taken down; not to be evaluated but by the kernel -/
@[irreducible]
def notesOpened : Registry HandleRef Source × List (Sighting HandleRef Source) × Host :=
  after Host.backend.observed (fun _ => .inOrder) openNotes (empty, [], notesHost)

/-- all are taken down, in any order: two are closed, and the one in between was closed before -/
theorem notes_in_any_order :
    (∀ x, callsTo x (after Host.backend.observed (fun _ => .backwards) (openNotes ++ [.clear]) (empty, [], notesHost)).2.1 =
      callsTo x (after Host.backend.observed (fun _ => .inOrder) (openNotes ++ [.clear]) (empty, [], notesHost)).2.1) ∧
    ∀ d, (clearIn d Host.backend.observed notesOpened).2.1.get? 2 = none ∧
      ∀ ref ∈ [(⟨0, "notes.db"⟩, true), (⟨1, "notes.db"⟩, false), (⟨2, "notes.db"⟩, true)],
        callsTo (some ref.1) (clearIn d Host.backend.observed notesOpened).2.2.1 =
          callsTo (some ref.1) notesOpened.2.1 ++ lastCalls ref.1 ref.2 := by
  have honly : ∀ op ∈ openNotes ++ [.clear], ∀ make, op.make? = some make → make = makeNotes := by
    simp [openNotes, Operation.make?, eq_comm]
  have hselfmade : ∀ op ∈ openNotes ++ [.clear],
      op.Selfmade (fun p => Host.Sound p.2) (fun h p => Host.known h p.2) fun g h => g.id ≠ h.id := by
    intro op hop
    refine ⟨fun make hmake => ?_, fun id k heq => ?_, fun id s heq => ?_⟩
    · rw [honly op hop make hmake]
      refine ⟨Task.respects_pure Lasts.stepwise _, fun v s v' k hrun hk => ?_⟩
      cases hrun
      cases hk
    · subst heq
      simp [openNotes] at hop
    · subst heq
      simp [openNotes] at hop
  have hmakes : ∀ op ∈ openNotes ++ [.clear], ∀ make ∈ op.make?, make.Agrees (Seen Host.Alike) make := by
    intro op hop make hmake
    rw [honly op hop make hmake]
    exact Task.agrees_pure _
  have hsound : notesHost.Sound := Host.ofStage_sound _
  have howned : Owned (fun p => Host.Sound p.2) (fun h p => Host.known h p.2) (fun g h => g.id ≠ h.id)
      ((empty : Registry HandleRef Source), ([] : List (Sighting HandleRef Source)), notesHost) := owned_empty hsound
  have hfair := howned.fairRun Host.maintains.observed Ne.symm (fun _ => .inOrder) hselfmade
  have hruns := runs_in_any_order Host.maintains Host.separates hmakes hsound hfair
  have hopened : notesOpened = after Host.backend.observed (fun _ => .inOrder) openNotes (empty, [], notesHost) := by
    unfold notesOpened
    rfl
  refine ⟨fun x => (hruns.2 fun _ => .backwards).2 x, fun d => ?_⟩
  obtain ⟨-, -, hgone, hcalls⟩ := hruns.1 openNotes .clear [] rfl notesOpened hopened d
  refine ⟨hgone 2 (.inl rfl), fun ref href => ?_⟩
  have hflags : ∀ ref ∈ [(⟨0, "notes.db"⟩, true), (⟨1, "notes.db"⟩, false), (⟨2, "notes.db"⟩, true)],
      ref.1 ∈ notesOpened.1.handles ∧ Host.isOpen ref.1 notesOpened.2.2 = ref.2 := by decide +kernel
  obtain ⟨htaken, hflag⟩ := hflags ref href
  have hlast := hcalls (.inl rfl) (some ref.1)
  rw [← hflag]
  exact hlast.trans (congrArg (callsTo (some ref.1) notesOpened.2.1 ++ ·) (if_pos htaken))

end FluentSql.Registry
