import FluentSql.Proofs.SchemaVersion
/-!
Migrations that fail. The hook of a migration works inside the transaction that was begun for it, as long as it asks
for nothing that controls transactions and the engine has not given that one up (`Confined`): what is committed stays
as it is (`KeepsStored`). If the hook or the writing of the version fails then, rolling back leads to the database as
it was, out of any transaction, and the handle is closed with its hooks in place, so that the next opening can try
again (`failed_migration`).
-/

namespace FluentSql.Embedded.Handle

variable {C S W T α : Type} {L : Library C S} {a : Account C S T} {location : Location} {name : String} {hooks : Hooks}
  {k version : Int} {p q r b m u : Handle C × S × W} {e : DbError}

/-- a statement that does not control transactions, asked for in one -/
def Confined (a : Account C S T) (s : Statement) (p : Handle C × S × W) : Prop :=
  ¬ a.controls s.text ∧ (workOf a p).isSome = true

/-- the hook of a migration asks for statements inside the transaction that was begun for it, and for none that control
transactions; one that goes on where the engine has given up the transaction works on what is committed -/
def MigratesInside [Reporting W] (L : Library C S) (a : Account C S T) (hooks : Hooks) (k version : Int)
    (b : Handle C × S × W) : Prop :=
  ∀ hook, migrationHook hooks k version = some hook → ∀ w,
    hook.Issues (channel L) b.1.name (fun q : Handle C × S × W => q.1.isOpen) (Confined a) (b.1, b.2.1, w)

/-! ## Statements in a transaction -/

/-- a handle works on a database of which this is committed -/
def KeepsStored (a : Account C S T) (c : Content T) (p : Handle C × S × W) : Prop := Working a p ∧ storedOf a p = c

section

variable (ha : a.Followed L location)

include ha

/-- inside a transaction a request for a statement leaves alone what is committed -/
theorem request_keepsStored (request : Request α) {sql : String} (htext : request.text? = some sql)
    (hcontrols : ¬ a.controls sql) (hwork : (workOf a p).isSome = true) {c : Content T} (h : KeepsStored a c p) :
    KeepsStored a c (Handle.request L request p).2 := by
  obtain ⟨d, hd, hlive, x, c', s', hperform, heq, hafter⟩ := h.1.request ha request
  rw [workOf_of_some hd] at hwork
  have hinside := ha.inside request hlive htext hcontrols hwork
  rw [hperform] at hinside
  rw [heq]
  refine ⟨hafter, ?_⟩
  rw [← h.2, storedOf_of_some hd]
  exact hinside.1

variable [Reporting W]

theorem after_keepsStored {s : Statement} (hs : Confined a s p) {c : Content T} (h : KeepsStored a c p) :
    KeepsStored a c ((channel L).after s p) := by
  rcases after_cases L s p with hsame | ⟨β, r, w, htext, hafter⟩
  · rw [hsame]
    exact h
  · rw [hafter]
    exact request_keepsStored ha r htext hs.1 (p := (p.1, p.2.1, w)) hs.2 ⟨h.1.beside w, h.2⟩

/-- **A hook that controls no transactions migrates inside**, unless the engine gives up the transaction by itself and the
hook goes on. -/
theorem migratesInside_of_steadfast (hsteady : a.Steadfast L) (hasks : hooks.Ask fun s => ¬ a.controls s.text)
    (hb : Working a b) (hwork : (workOf a b).isSome = true) : MigratesInside L a hooks k version b := by
  intro hook hhook w
  refine (migrationHook_asks hasks hhook).issues (I := fun p => Working a p ∧ (workOf a p).isSome = true)
    (fun s p hs hp => ⟨hs, hp.2⟩) (fun s p hs hp => ?_) (fun n p hp => ⟨hp.1.beside _, hp.2⟩) _ _ ⟨hb.beside w, hwork⟩
  rcases after_cases L s p with hsame | ⟨β, r, w', htext, hafter⟩
  · rw [hsame]
    exact hp
  · obtain ⟨c, hc, hlive, x, c', s', hperform, heq, hworking⟩ := (hp.1.beside w').request ha r
    have hinside : (a.work c p.2.1).isSome = true := by
      rw [← workOf_of_some (p := p) hc]
      exact hp.2
    have hstill := hsteady r hlive htext hs hinside
    rw [hperform] at hstill
    rw [hafter, heq]
    exact ⟨hworking, hstill⟩

/-- **A migration that fails inside its transaction leaves alone what is committed.** -/
theorem migrate_keepsStored (hinside : MigratesInside L a hooks k version b)
    (hm : migrate L name hooks k version b = (.error e, m)) {c : Content T} (h : KeepsStored a c b) :
    KeepsStored a c m := by
  have hran : ∀ {hook w y} {n : Handle C × S × W}, migrationHook hooks k version = some hook →
      runHook L hook (b.1, b.2.1, w) = (y, n) →
      KeepsStored a c n := by
    intro hook w y n hhook hh
    have hkept : KeepsStored a c (runHook L hook (b.1, b.2.1, w)).2 :=
      Hook.run_keeps (I := KeepsStored a c) (fun s q hs hq => after_keepsStored ha hs hq)
        (fun n q hq => ⟨hq.1.beside _, hq.2⟩) b.1.name _ (hinside hook hhook w) ⟨h.1.beside w, h.2⟩
    rw [hh] at hkept
    exact hkept
  rcases migrate_cases hm with ⟨hook, w, _, hhook, hh, -⟩ | ⟨n, hwrite, hn⟩
  · exact hran hhook hh
  · have hbefore : KeepsStored a c n := by
      rcases hn with rfl | ⟨hook, w, hhook, hh⟩
      · exact h
      · exact hran hhook hh
    obtain ⟨hafter, hwork, hnone⟩ := hbefore.1.writeVersion ha hwrite
    refine ⟨hafter, Eq.trans ?_ hbefore.2⟩
    cases hw : workOf a n with
    | some w => exact (hwork w hw).1
    | none => exact (hnone hw).2.2 e rfl

/-- **A failed migration leaves no trace.** A handle at a location of any kind has been used in any way and is closed;
it is opened with a version that is newer than the one of its database, and a transaction has begun. If the hook of
the migration fails, after any statements in that transaction, or the writing of the version does, then that is the
answer; the handle is closed and the same as before, with its hooks; the database is what it was, and the connection
is out of the transaction; and the hook after opening has not run. A later opening that gets as far comes to the same
version and runs the same hook again, unless the engine refuses to begin a transaction. -/
theorem failed_migration (name : String) (log : StatementLog) {s : S} (hready : a.ready s) (w : W) (uses : List Use)
    (o : OpenOptions) :
    let p := withOpenOptions o (afterUses L uses (fresh name location log s w))
    ∀ k r b m e, p.1.isOpen = false → Reaches L p k r → 1 ≤ o.version → k < o.version →
      execute L "BEGIN" (bare r) = (.ok (), b) → MigratesInside L a o.hooks k o.version b →
      migrate L p.1.name o.hooks k o.version b = (.error e, m) →
      (openUp L p).1 = .error e ∧ (openUp L p).2.1.isOpen = false ∧
        (openUp L p).2.1 = { p.1 with connection := (openUp L p).2.1.connection } ∧
        storedOf a (openUp L p).2 = storedOf a p ∧ workOf a (openUp L p).2 = none ∧
        hooksRun L p = migrationNotes p.1.name o.hooks k o.version ∧
        ∀ k' r', Reaches L (openUp L p).2 k' r' → k' = k ∧ workOf a r' = none ∧
          ((∃ e b', execute L "BEGIN" (bare r') = (.error e, b')) ∨
            migrationNotes p.1.name o.hooks k o.version <+: hooksRun L (openUp L p).2) := by
  intro p k r b m e hclosed hreach hone hup hb hinside hm
  have hstands : Stands a location p := (afterUses_stands ha uses (p := fresh name location log s w)
    ⟨rfl, hready⟩).withOpenOptions o
  have hcoupled : Coupled p := (afterUses_coupled uses (fresh_coupled name location log s w)).withOpenOptions o
  obtain ⟨hr, -, hstored, hwork, hk⟩ := hstands.reach ha hreach
  obtain ⟨hbegun, hsame, hnew, -⟩ := hr.bare.begin ha hb
  have hnone : workOf a p = none := hwork.symm.trans (hnew rfl).1
  obtain ⟨hfailed, hkept⟩ := migrate_keepsStored ha hinside hm ⟨hbegun, hsame.trans hstored⟩
  -- the way back
  have hmigrates := ((openUp_opens hclosed).1.of_reached hreach hone).2.2 hup
  obtain ⟨u, hu, hopen, hrun⟩ := (hmigrates.of_begun (u := m) hb).2.1 e hm
  obtain ⟨hafter, hundone, hout⟩ := unmigrated_stored ha hfailed hm hb hu
  have hlocation : u.1.location = location :=
    (migrateOrUndo_manned hreach.manned.bare hu).location.trans hstands.location
  have hgiven : Stands a location (given p.1.hooks u) := ⟨hlocation, hafter.standing⟩
  obtain ⟨hend, hsettled, -, hidle⟩ := close_settles ha hstands hcoupled hclosed hgiven (hundone.trans hkept)
  have hanswer : openUp L p = (.error e, close L (given p.1.hooks u)) := hopen
  have hleft : (openUp L p).2 = close L (given p.1.hooks u) := by rw [hanswer]
  have hshut : (openUp L p).2.1.isOpen = false := by
    rw [hanswer]
    exact close_closes _
  have hhandle : (openUp L p).2.1 = { p.1 with connection := (openUp L p).2.1.connection } := by
    have hsame := (openUp_kept (L := L) (overlooks_nothing (W := W)) p).handle
    rw [hshut, ← hclosed] at hsame
    exact hsame
  rw [← hleft] at hend hsettled hidle
  have hidle' : workOf a (openUp L p).2 = none := hidle hout
  refine ⟨by rw [hanswer], hshut, hhandle, hsettled, hidle', hrun, fun k' r' hreach' => ?_⟩
  obtain ⟨-, -, -, hwork', hk'⟩ := hend.reach ha hreach'
  have hagain : k' = k := by
    rw [hk', hk]
    unfold seenOf
    rw [hidle', hnone, hsettled]
  refine ⟨hagain, hwork'.trans hidle', ?_⟩
  subst hagain
  have hname : (openUp L p).2.1.name = p.1.name := by rw [hhandle]
  have hhooks : (openUp L p).2.1.hooks = o.hooks := by
    rw [hhandle]
    rfl
  have hversion : (openUp L p).2.1.version = o.version := by
    rw [hhandle]
    rfl
  have hmigrates' := ((openUp_opens hshut).1.of_reached hreach' (by rw [hversion]; exact hone)).2.2
    (by rw [hversion]; exact hup)
  rcases hb' : execute L "BEGIN" (bare r') with ⟨why | _, b'⟩
  · exact .inl ⟨why, b', rfl⟩
  · have hnotes := (hmigrates'.of_begun (m := b') (u := b') hb').1
    rw [hname, hhooks, hversion] at hnotes
    exact .inr hnotes

end

open Engine Storage

/-- hooks of which the upgrade executes a text and then fails -/
def hastyUpgrade (sql : String) : Hooks where
  onCreate := none
  onUpgrade := some fun _ _ => .execute sql fun _ => .fail (.notOpen "elsewhere")
  onOpen := none

theorem hastyUpgrade_asks {Q : Statement → Prop} {sql : String} (h : Q (.execute sql)) : (hastyUpgrade sql).Ask Q where
  onCreate _ hhook := by cases hhook
  onUpgrade _ _ _ hhook := by
    cases hhook
    exact ⟨h, fun _ => trivial⟩
  onOpen _ hhook := by cases hhook

/-- an upgrade that throws the notes away and then fails -/
def hastyHooks : Hooks := hastyUpgrade "DELETE FROM notes"

/-- an answer is the error that `name` is not open -/
def isNotOpen (database : String) : Except DbError Unit → Bool
  | .error (.notOpen other) => other == database
  | _ => false

theorem eq_of_isNotOpen {x : Except DbError Unit} (h : isNotOpen name x = true) : x = .error (.notOpen name) := by
  unfold isNotOpen at h
  split at h
  · rw [eq_of_beq h]
  · cases h

/-- a note is taken and the handle is closed -/
def noteTaken : List Use :=
  [.opened ⟨1, { notesHooks with onOpen := none }⟩, .asked (.execute "INSERT INTO notes VALUES ('milk')"), .closed]

/-- the handle of the note, which is to be upgraded in haste; not to be evaluated but by the kernel -/
@[irreducible]
def hastyNotes : Handle Connection × Storage × Notebook :=
  withOpenOptions ⟨2, hastyHooks⟩ (afterUses library noteTaken ownNotes)

@[irreducible]
def hastyReached : Handle Connection × Storage × Notebook :=
  (storedVersion library (raised (connected library hastyNotes).2)).2

@[irreducible]
def hastyBegun : Handle Connection × Storage × Notebook := (execute library "BEGIN" (bare hastyReached)).2

@[irreducible]
def hastyFailed : Handle Connection × Storage × Notebook :=
  (migrate library hastyNotes.1.name hastyHooks 1 2 hastyBegun).2

theorem hasty_reached : Reaches library hastyNotes 1 hastyReached := by
  unfold hastyReached
  exact reaches_of_answers (by decide +kernel) (by decide +kernel)

theorem hasty_begun : execute library "BEGIN" (bare hastyReached) = (.ok (), hastyBegun) := by
  refine Prod.ext (eq_ok_of_toOption (by decide +kernel)) ?_
  unfold hastyBegun
  rfl

/-- the statement of the upgrade is asked for inside the transaction -/
theorem hasty_inside : MigratesInside library privateMemory hastyHooks 1 2 hastyBegun := by
  have hstands : Stands privateMemory .own hastyNotes := by
    unfold hastyNotes
    exact (afterUses_stands privateMemory_followed noteTaken (p := ownNotes) ⟨rfl, empty_counted⟩).withOpenOptions _
  obtain ⟨hreached, -⟩ := hstands.reach privateMemory_followed hasty_reached
  obtain ⟨hbegun, -⟩ := hreached.bare.begin privateMemory_followed hasty_begun
  exact migratesInside_of_steadfast privateMemory_followed privateMemory_steadfast
    (hastyUpgrade_asks (privateMemory_calm (by decide +kernel)).1) hbegun (by decide +kernel)

theorem hasty_failed :
    migrate library hastyNotes.1.name hastyHooks 1 2 hastyBegun = (.error (.notOpen "elsewhere"), hastyFailed) := by
  refine Prod.ext (eq_of_isNotOpen (by decide +kernel)) ?_
  unfold hastyFailed
  rfl

/-- the note is there after the upgrade has failed, and is upgraded again later -/
theorem hastyNotes_kept :
    (openUp library hastyNotes).1 = .error (.notOpen "elsewhere") ∧
      storedOf privateMemory (openUp library hastyNotes).2 = storedOf privateMemory hastyNotes ∧
      ((storedOf privateMemory hastyNotes).tables.map fun t => t.rows.length) = [1] ∧
      hooksRun library hastyNotes = [.upgraded "notes.db" 1 2] ∧
      hooksRun library (openUp library hastyNotes).2 = [.upgraded "notes.db" 1 2] := by
  have h := failed_migration privateMemory_followed "notes.db" .standard (s := Storage.empty) empty_counted
    (⟨[]⟩ : Notebook) noteTaken ⟨2, hastyHooks⟩
  have hnotes : hastyNotes = withOpenOptions ⟨2, hastyHooks⟩ (afterUses library noteTaken ownNotes) := by
    unfold hastyNotes
    rfl
  unfold ownNotes at hnotes
  rw [← hnotes] at h
  obtain ⟨hanswer, -, -, hkept, -⟩ := h 1 hastyReached hastyBegun hastyFailed (.notOpen "elsewhere") (by decide +kernel)
    hasty_reached (by decide) (by decide) hasty_begun hasty_inside hasty_failed
  exact ⟨hanswer, hkept, by decide +kernel, by decide +kernel, by decide +kernel⟩

end FluentSql.Embedded.Handle
