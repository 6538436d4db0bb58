import FluentSql.Proofs.HandleConduct
import FluentSql.Proofs.HookCalls
/-!
The course of an opening. A closed handle that is opened connects, reads the version, perhaps migrates and runs the
hook after opening, the hooks being out of the handle meanwhile; `Handle.Opens` has a case for each way this can end,
with the answer, the state that is left, and the notes of the hooks that ran. Every opening of a closed handle ends in
one of these ways (`Handle.openUp_opens`), so what is to be shown of openings is shown case by case.
-/

namespace FluentSql.Embedded.Handle

variable {C S W : Type} {L : Library C S}

/-- opening gets so far that the version of the database is known -/
def Reaches (L : Library C S) (p : Handle C × S × W) (version : Int) (r : Handle C × S × W) : Prop :=
  ∃ q, connected L p = (.ok (), q) ∧ storedVersion L (raised q) = (.ok version, r)

theorem eq_ok_of_toOption {α : Type} {x : Except DbError α} {b : α} (h : x.toOption = some b) : x = .ok b := by
  cases x with
  | error e => cases h
  | ok c => rw [Option.some.inj h]

/-- connecting and reading the version both succeed -/
theorem reaches_of_answers {p : Handle C × S × W} {k : Int} (hconnected : (connected L p).1.toOption = some ())
    (hread : (storedVersion L (raised (connected L p).2)).1.toOption = some k) :
    Reaches L p k (storedVersion L (raised (connected L p).2)).2 :=
  ⟨(connected L p).2, Prod.ext (eq_ok_of_toOption hconnected) rfl, Prod.ext (eq_ok_of_toOption hread) rfl⟩

/-- the same handle, opened, with a connection of its own -/
def Manned (p r : Handle C × S × W) : Prop := r.1 = { p.1 with connection := r.1.connection, isOpen := true }

section

variable {p q r : Handle C × S × W}

theorem Manned.name (h : Manned p r) : r.1.name = p.1.name := by rw [h]

theorem Manned.isOpen (h : Manned p r) : r.1.isOpen = true := by rw [h]

theorem Manned.location (h : Manned p r) : r.1.location = p.1.location := by rw [h]

theorem Manned.hooks (h : Manned p r) : r.1.hooks = p.1.hooks := by rw [h]

theorem Manned.steady {A : Type} {view : W → A} (h : Manned p q) (hs : Steady view q r) : Manned p r := by
  unfold Manned
  rw [hs.handle, h]

theorem Manned.bare (h : Manned p r) : Manned (bare p) (bare r) := by
  unfold Manned Handle.bare
  dsimp only
  rw [h]

theorem connected_manned (h : connected L p = (.ok (), q)) : Manned p (raised q) := by
  have hs : Steady (fun _ : W => ()) p (connected L p).2 := connected_steady p
  rw [h] at hs
  unfold Manned raised
  dsimp only
  rw [hs.handle]

theorem request_manned {α : Type} {r : Request α} {x : Except DbError α} {u : Handle C × S × W} (h : Manned p q)
    (hrun : request L r q = (x, u)) : Manned p u := by
  have hs : Steady (fun _ : W => ()) q (request L r q).2 := request_steady r q
  rw [hrun] at hs
  exact h.steady hs

theorem storedVersion_manned {x : Except DbError Int} (hc : connected L p = (.ok (), q))
    (hread : storedVersion L (raised q) = (x, r)) : Manned p r :=
  request_manned (connected_manned hc) hread

theorem Reaches.manned {k : Int} (h : Reaches L p k r) : Manned p r := by
  obtain ⟨q, hc, hread⟩ := h
  exact storedVersion_manned hc hread

end

variable [Reporting W]

theorem execute_manned {sql : String} {p q r : Handle C × S × W} {x : Except DbError Unit} (h : Manned p q)
    (hrun : execute L sql q = (x, r)) : Manned p r := by
  have hs : Steady (fun _ : W => ()) q (execute L sql q).2 := (channel_steady overlooks_nothing).execute sql q
  rw [hrun] at hs
  exact h.steady hs

theorem migrate_manned {name : String} {hooks : Hooks} {current version : Int} {p q r : Handle C × S × W}
    {x : Except DbError Unit} (h : Manned p q) (hrun : migrate L name hooks current version q = (x, r)) :
    Manned p r := by
  have hs := (steady_allows (L := L) overlooks_nothing).migrate hooks.ask_any name current version q
  rw [hrun] at hs
  exact h.steady hs

theorem migrateOrUndo_manned {name : String} {hooks : Hooks} {current version : Int} {p q r : Handle C × S × W}
    {x : Except DbError Unit} (h : Manned p q) (hrun : migrateOrUndo L name hooks current version q = (x, r)) :
    Manned p r := by
  have hs := (steady_allows (L := L) overlooks_nothing).migrateOrUndo hooks.ask_any name current version q
  rw [hrun] at hs
  exact h.steady hs

/-- how the work of the hooks ends: they are put back, and a failure closes the handle -/
def ended (L : Library C S) (p : Handle C × S × W) (x : Except DbError Unit × Handle C × S × W) :
    Except DbError Unit × Handle C × S × W := orClosed L (x.1, given p.1.hooks x.2)

/-- how an opening can go on from a version `k` that is too old, and what the hooks note -/
inductive Migrates (L : Library C S) (p : Handle C × S × W) (k : Int) (r : Handle C × S × W) :
    Except DbError Unit × Handle C × S × W → List Note → Prop
  | unbegun {e b} : execute L "BEGIN" (bare r) = (.error e, b) → Migrates L p k r (ended L p (.error e, b)) []
  | unmigrated {b e m u} : execute L "BEGIN" (bare r) = (.ok (), b) →
      migrate L p.1.name p.1.hooks k p.1.version b = (.error e, m) →
      migrateOrUndo L p.1.name p.1.hooks k p.1.version (bare r) = (.error e, u) →
      Migrates L p k r (ended L p (.error e, u)) (migrationNotes p.1.name p.1.hooks k p.1.version)
  | uncommitted {b m e u} : execute L "BEGIN" (bare r) = (.ok (), b) →
      migrate L p.1.name p.1.hooks k p.1.version b = (.ok (), m) → execute L "COMMIT" m = (.error e, u) →
      Migrates L p k r (ended L p (.error e, u)) (migrationNotes p.1.name p.1.hooks k p.1.version)
  | migrated {b m u} : execute L "BEGIN" (bare r) = (.ok (), b) →
      migrate L p.1.name p.1.hooks k p.1.version b = (.ok (), m) → execute L "COMMIT" m = (.ok (), u) →
      Migrates L p k r (ended L p (afterOpening L p.1.hooks u))
        (migrationNotes p.1.name p.1.hooks k p.1.version ++ openingNotes p.1.name p.1.hooks)

/-- how an opening of a closed handle can end, and what the hooks note -/
inductive Opens (L : Library C S) (p : Handle C × S × W) :
    Except DbError Unit × Handle C × S × W → List Note → Prop
  | unconnected {e q} : connected L p = (.error e, q) → Opens L p (.error e, q) []
  | low {q} : connected L p = (.ok (), q) → p.1.version < 1 →
      Opens L p (.error (.validation (.versionTooLow p.1.version)), close L (raised q)) []
  | unread {q e r} : connected L p = (.ok (), q) → 1 ≤ p.1.version → storedVersion L (raised q) = (.error e, r) →
      Opens L p (.error e, close L r) []
  | downgrade {k r} : Reaches L p k r → 1 ≤ p.1.version → p.1.version < k →
      Opens L p (.error (.validation (.downgrade p.1.name k p.1.version)), close L r) []
  | current {r} : Reaches L p p.1.version r → 1 ≤ p.1.version →
      Opens L p (ended L p (afterOpening L p.1.hooks (bare r))) (openingNotes p.1.name p.1.hooks)
  | older {k r x l} : Reaches L p k r → 1 ≤ p.1.version → k < p.1.version → Migrates L p k r x l → Opens L p x l

/-! ## The steps of a lifecycle -/

theorem migrateOrUndo_refused {name : String} {hooks : Hooks} {current version : Int} {r b : Handle C × S × W}
    {e : DbError} (h : execute L "BEGIN" r = (.error e, b)) :
    migrateOrUndo L name hooks current version r = (.error e, b) := by
  unfold migrateOrUndo
  rw [Task.bind_eq, h]

theorem migrateOrUndo_begun {name : String} {hooks : Hooks} {current version : Int} {r b : Handle C × S × W}
    (h : execute L "BEGIN" r = (.ok (), b)) :
    migrateOrUndo L name hooks current version r = match migrate L name hooks current version b with
      | (.ok _, m) => execute L "COMMIT" m
      | (.error e, m) => match execute L "ROLLBACK" m with
        | (.ok _, u) => (.error e, u)
        | (.error why, u) => (.error e, Reporting.emit (rollbackFailed name why) u) := by
  unfold migrateOrUndo
  rw [Task.bind_eq, h]
  dsimp only
  rw [Task.bind_eq, Task.attempt_eq]
  rcases migrate L name hooks current version b with ⟨e | _, m⟩
  · dsimp only
    rw [Task.bind_eq, Task.attempt_eq]
    rcases execute L "ROLLBACK" m with ⟨why | _, u⟩
    · rfl
    · rfl
  · rfl

/-- a migration that fails is rolled back, whatever comes of that -/
theorem migrateOrUndo_failed {name : String} {hooks : Hooks} {current version : Int} {r b m u : Handle C × S × W}
    {x : Except DbError Unit} {e : DbError} (hb : execute L "BEGIN" r = (.ok (), b))
    (hm : migrate L name hooks current version b = (.error e, m))
    (hu : migrateOrUndo L name hooks current version r = (x, u)) :
    x = .error e ∧ ∃ y n w, execute L "ROLLBACK" m = (y, n) ∧ u = (n.1, n.2.1, w) := by
  rw [migrateOrUndo_begun hb, hm] at hu
  dsimp only at hu
  rcases hback : execute L "ROLLBACK" m with ⟨why | _, n⟩
  · rw [hback] at hu
    cases hu
    exact ⟨rfl, _, n, _, rfl, rfl⟩
  · rw [hback] at hu
    cases hu
    exact ⟨rfl, _, u, u.2.2, rfl, rfl⟩

theorem applyHooks_current (name : String) (hooks : Hooks) {k version : Int} (h : version ≤ k)
    (r : Handle C × S × W) : applyHooks L name hooks k version r = afterOpening L hooks r := by
  unfold applyHooks
  rw [if_neg (by omega)]
  rfl

theorem applyHooks_older (name : String) (hooks : Hooks) {k version : Int} (h : k < version)
    (r : Handle C × S × W) :
    applyHooks L name hooks k version r = match migrateOrUndo L name hooks k version r with
      | (.ok _, u) => afterOpening L hooks u
      | (.error e, u) => (.error e, u) := by
  unfold applyHooks
  rw [if_pos h, Task.bind_eq]
  rcases migrateOrUndo L name hooks k version r with ⟨e | _, u⟩
  · rfl
  · rfl

/-! ## The course -/

theorem Matches.orClosed {l : List Note} {x : Except DbError Unit × Handle C × S × Notebook}
    {y : Except DbError Unit × Handle C × S × W} (h : Matches l x y) : Matches l (orClosed L x) (orClosed L y) := by
  obtain ⟨answer, p⟩ := x
  obtain ⟨answer', q⟩ := y
  obtain ⟨hanswer, hafter⟩ := h
  dsimp only at hanswer
  subst hanswer
  cases answer with
  | ok _ => exact ⟨rfl, hafter⟩
  | error e => exact ⟨rfl, announces_close hafter⟩

theorem Matches.ended {l : List Note} {x : Except DbError Unit × Handle C × S × Notebook}
    {p : Handle C × S × W} {y : Except DbError Unit × Handle C × S × W} (h : Matches l x y) :
    Matches l (Handle.orClosed L (x.1, given p.1.hooks.announced x.2)) (ended L p y) :=
  Matches.orClosed (L := L) ⟨h.1, announces_given p.1.hooks h.2⟩

/-- a migration that has begun, beside the one that announces itself -/
theorem matches_migrateOrUndo {name : String} (hooks : Hooks) {current version : Int}
    {p p' : Handle C × S × Notebook} {r b : Handle C × S × W} (hp : execute L "BEGIN" p = (.ok (), p'))
    (hr : execute L "BEGIN" r = (.ok (), b)) (h : Announces [] p' b) (hname : b.1.name = name)
    (ho : b.1.isOpen = true) :
    Matches (migrationNotes name hooks current version) (migrateOrUndo L name hooks.announced current version p)
      (migrateOrUndo L name hooks current version r) := by
  have hmigrate := announces_migrate (L := L) hooks current version h hname ho
  rw [migrateOrUndo_begun hp, migrateOrUndo_begun hr]
  rcases hm : migrate L name hooks current version b with ⟨x, m⟩
  rw [hm] at hmigrate
  obtain ⟨m', hm', hafter⟩ := hmigrate.follow
  rw [hm']
  cases x with
  | ok _ => exact announces_execute "COMMIT" m' m hafter
  | error e =>
    rcases hu : execute L "ROLLBACK" m with ⟨y, u⟩
    obtain ⟨u', hu', hundone⟩ := (announces_execute "ROLLBACK").follow hafter hu
    dsimp only
    rw [hu, hu']
    cases y with
    | ok _ => exact ⟨rfl, hundone⟩
    | error why => exact ⟨rfl, hundone⟩

/-- the course of a migration, and of what follows it, beside the one that announces itself -/
theorem migration_course {k : Int} {p r : Handle C × S × W} {r' : Handle C × S × Notebook}
    (hreach : Reaches L p k r) (hup : k < p.1.version) (h : Announces [] r' (bare r)) :
    ∃ l, Migrates L p k r (ended L p (applyHooks L p.1.name p.1.hooks k p.1.version (bare r))) l ∧
      Matches l (applyHooks L p.1.name p.1.hooks.announced k p.1.version r')
        (applyHooks L p.1.name p.1.hooks k p.1.version (bare r)) := by
  rw [applyHooks_older _ _ hup, applyHooks_older _ _ hup]
  rcases hb : execute L "BEGIN" (bare r) with ⟨x, b⟩
  obtain ⟨b', hb', hbegun⟩ := (announces_execute "BEGIN").follow h hb
  cases x with
  | error e =>
    rw [migrateOrUndo_refused hb, migrateOrUndo_refused hb']
    exact ⟨[], .unbegun hb, rfl, hbegun⟩
  | ok _ =>
    have hmanned : Manned (bare p) b := execute_manned hreach.manned.bare hb
    have hmigration : Matches (migrationNotes p.1.name p.1.hooks k p.1.version) _ _ :=
      matches_migrateOrUndo p.1.hooks hb' hb hbegun hmanned.name hmanned.isOpen
    rcases hu : migrateOrUndo L p.1.name p.1.hooks k p.1.version (bare r) with ⟨y, u⟩
    rw [hu] at hmigration
    obtain ⟨u', hu', hafter⟩ := hmigration.follow
    rw [hu']
    rcases hm : migrate L p.1.name p.1.hooks k p.1.version b with ⟨e | _, m⟩
    · obtain ⟨rfl, -⟩ := migrateOrUndo_failed hb hm hu
      exact ⟨_, .unmigrated hb hm hu, rfl, hafter⟩
    · have hcommit : execute L "COMMIT" m = (y, u) := by
        rw [migrateOrUndo_begun hb, hm] at hu
        exact hu
      cases y with
      | error e => exact ⟨_, .uncommitted hb hm hcommit, rfl, hafter⟩
      | ok _ =>
        have hcommitted : Manned (bare p) u := execute_manned (migrate_manned hmanned hm) hcommit
        exact ⟨_, .migrated hb hm hcommit, announces_afterOpening _ hafter hcommitted.name hcommitted.isOpen⟩

/-- the course of a lifecycle on a handle that has just been connected, beside the one that announces itself -/
theorem runLifecycle_course {p q : Handle C × S × W} {q' : Handle C × S × Notebook}
    (hc : connected L p = (.ok (), q)) (h : Announces [] q' (raised q)) :
    ∃ l, Opens L p (orClosed L (runLifecycle L (raised q))) l ∧
      Matches l (orClosed L (runLifecycle L q')) (orClosed L (runLifecycle L (raised q))) := by
  have hmanned : Manned p (raised q) := connected_manned hc
  have hversion : (raised q).1.version = p.1.version := by rw [hmanned]
  have hannounced : q'.1 = { (raised q).1 with hooks := (raised q).1.hooks.announced } := by rw [h]
  have hversion' : q'.1.version = p.1.version := by rw [hannounced]; exact hversion
  have hname' : q'.1.name = p.1.name := by rw [hannounced]; exact hmanned.name
  rw [runLifecycle_eq, runLifecycle_eq, hversion, hversion', hmanned.name, hname']
  by_cases hlow : p.1.version < 1
  · rw [if_pos hlow, if_pos hlow]
    exact ⟨[], .low hc hlow, Matches.orClosed ⟨rfl, h⟩⟩
  · have hone : 1 ≤ p.1.version := by omega
    rw [if_neg hlow, if_neg hlow]
    rcases hread : storedVersion L (raised q) with ⟨x, r⟩
    obtain ⟨r', hread', hafter⟩ := (announces_request .readVersion).follow h hread
    have hreading : storedVersion L q' = (x, r') := hread'
    rw [hreading]
    cases x with
    | error e => exact ⟨[], .unread hc hone hread, Matches.orClosed ⟨rfl, hafter⟩⟩
    | ok k =>
      have hreach : Reaches L p k r := ⟨q, hc, hread⟩
      have hhooks : r.1.hooks = p.1.hooks := hreach.manned.hooks
      have hhooks' : r'.1.hooks = p.1.hooks.announced := by rw [hafter, ← hhooks]
      have hbare : Announces [] (bare r') (bare r) := by
        rw [hafter]
        rfl
      dsimp only
      rw [hhooks, hhooks']
      by_cases hdown : p.1.version < k
      · rw [if_pos hdown, if_pos hdown]
        exact ⟨[], .downgrade hreach hone hdown, Matches.orClosed ⟨rfl, hafter⟩⟩
      · rw [if_neg hdown, if_neg hdown]
        by_cases hup : k < p.1.version
        · obtain ⟨l, hmigrates, hmatches⟩ := migration_course hreach hup hbare
          exact ⟨l, .older hreach hone hup hmigrates, hmatches.ended⟩
        · have hsame : k = p.1.version := by omega
          subst hsame
          rw [applyHooks_current _ _ (Int.le_refl _), applyHooks_current _ _ (Int.le_refl _)]
          have hmatches := announces_afterOpening (L := L) p.1.hooks hbare hreach.manned.bare.name
            hreach.manned.bare.isOpen
          rw [List.nil_append] at hmatches
          exact ⟨_, .current hreach hone, hmatches.ended⟩

/-- **An opening of a closed handle takes its course**, and the handle whose hooks announce themselves does the same and
notes the hooks that ran. -/
theorem openUp_opens {p : Handle C × S × W} (hclosed : p.1.isOpen = false) :
    Opens L p (openUp L p) (hooksRun L p) ∧ Matches (hooksRun L p) (openUp L (announcing p)) (openUp L p) := by
  have hstart : Announces [] (announcing p) p := rfl
  have hopening : ∃ l, Opens L p (openUp L p) l ∧ Matches l (openUp L (announcing p)) (openUp L p) := by
    have hannouncing : (announcing p).1.isOpen = false := hclosed
    rw [openUp_eq, openUp_eq, hclosed, hannouncing]
    simp only [Bool.false_eq_true, if_false]
    rw [start_eq, start_eq]
    rcases hc : connected L p with ⟨x, q⟩
    obtain ⟨q', hc', hafter⟩ := announces_connected.follow hstart hc
    rw [hc']
    cases x with
    | error e => exact ⟨[], .unconnected hc, rfl, hafter⟩
    | ok _ =>
      refine runLifecycle_course hc ?_
      rw [hafter]
      rfl
  obtain ⟨l, hopens, hmatches⟩ := hopening
  have hl : hooksRun L p = l := by
    unfold hooksRun
    rw [hmatches.2]
  rw [hl]
  exact ⟨hopens, hmatches⟩

/-! ## What is known before -/

section

variable {p q r b m u : Handle C × S × W} {k : Int} {x : Except DbError Unit × Handle C × S × W} {l : List Note}

omit [Reporting W] in
theorem Reaches.connects (h : Reaches L p k r) {e : DbError} (hc : connected L p = (.error e, q)) : False := by
  obtain ⟨_, hc', _⟩ := h
  rw [hc] at hc'
  cases hc'

omit [Reporting W] in
theorem Reaches.reads (h : Reaches L p k r) {e : DbError} (hc : connected L p = (.ok (), q))
    (hread : storedVersion L (raised q) = (.error e, u)) : False := by
  obtain ⟨_, hc', hread'⟩ := h
  rw [hc] at hc'
  cases hc'
  rw [hread] at hread'
  cases hread'

omit [Reporting W] in
theorem Reaches.unique {k' : Int} (h : Reaches L p k r) (h' : Reaches L p k' u) : k' = k ∧ u = r := by
  obtain ⟨_, hc, hread⟩ := h
  obtain ⟨_, hc', hread'⟩ := h'
  rw [hc] at hc'
  cases hc'
  rw [hread] at hread'
  cases hread'
  exact ⟨rfl, rfl⟩

theorem Opens.of_low (h : Opens L p x l) (hc : connected L p = (.ok (), q)) (hlow : p.1.version < 1) :
    x = (.error (.validation (.versionTooLow p.1.version)), close L (raised q)) ∧ l = [] := by
  cases h with
  | unconnected hc' =>
    rw [hc] at hc'
    cases hc'
  | low hc' _ =>
    rw [hc] at hc'
    cases hc'
    exact ⟨rfl, rfl⟩
  | unread _ hone _ => omega
  | downgrade _ hone _ => omega
  | current _ hone => omega
  | older _ hone _ _ => omega

/-- how an opening goes on from a version that is known -/
theorem Opens.of_reached (h : Opens L p x l) (hreach : Reaches L p k r) (hone : 1 ≤ p.1.version) :
    (p.1.version < k → x = (.error (.validation (.downgrade p.1.name k p.1.version)), close L r) ∧ l = []) ∧
      (k = p.1.version →
        x = ended L p (afterOpening L p.1.hooks (bare r)) ∧ l = openingNotes p.1.name p.1.hooks) ∧
      (k < p.1.version → Migrates L p k r x l) := by
  cases h with
  | unconnected hc => exact (hreach.connects hc).elim
  | low _ hlow => omega
  | unread hc _ hread => exact (hreach.reads hc hread).elim
  | downgrade hreach' _ hdown =>
    obtain ⟨rfl, rfl⟩ := hreach.unique hreach'
    exact ⟨fun _ => ⟨rfl, rfl⟩, fun _ => by omega, fun _ => by omega⟩
  | current hreach' _ =>
    obtain ⟨rfl, rfl⟩ := hreach.unique hreach'
    exact ⟨fun _ => by omega, fun _ => ⟨rfl, rfl⟩, fun _ => by omega⟩
  | older hreach' _ hup hmigrates =>
    obtain ⟨rfl, rfl⟩ := hreach.unique hreach'
    exact ⟨fun _ => by omega, fun _ => by omega, fun _ => hmigrates⟩

/-- how a migration goes on once it has begun -/
theorem Migrates.of_begun (h : Migrates L p k r x l) (hb : execute L "BEGIN" (bare r) = (.ok (), b)) :
    migrationNotes p.1.name p.1.hooks k p.1.version <+: l ∧
      (∀ e, migrate L p.1.name p.1.hooks k p.1.version b = (.error e, m) →
        ∃ u, migrateOrUndo L p.1.name p.1.hooks k p.1.version (bare r) = (.error e, u) ∧ x = ended L p (.error e, u) ∧
          l = migrationNotes p.1.name p.1.hooks k p.1.version) ∧
      (migrate L p.1.name p.1.hooks k p.1.version b = (.ok (), m) → execute L "COMMIT" m = (.ok (), u) →
        x = ended L p (afterOpening L p.1.hooks u) ∧
          l = migrationNotes p.1.name p.1.hooks k p.1.version ++ openingNotes p.1.name p.1.hooks) := by
  cases h with
  | unbegun hb' =>
    rw [hb] at hb'
    cases hb'
  | unmigrated hb' hm hu =>
    rw [hb] at hb'
    cases hb'
    refine ⟨List.prefix_refl _, fun e hm' => ?_, fun hm' => ?_⟩
    · rw [hm] at hm'
      cases hm'
      exact ⟨_, hu, rfl, rfl⟩
    · rw [hm] at hm'
      cases hm'
  | uncommitted hb' hm hu =>
    rw [hb] at hb'
    cases hb'
    refine ⟨List.prefix_refl _, fun e hm' => ?_, fun hm' hu' => ?_⟩
    · rw [hm] at hm'
      cases hm'
    · rw [hm] at hm'
      cases hm'
      rw [hu] at hu'
      cases hu'
  | migrated hb' hm hu =>
    rw [hb] at hb'
    cases hb'
    refine ⟨List.prefix_append _ _, fun e hm' => ?_, fun hm' hu' => ?_⟩
    · rw [hm] at hm'
      cases hm'
    · rw [hm] at hm'
      cases hm'
      rw [hu] at hu'
      cases hu'
      exact ⟨rfl, rfl⟩

end

/-- an open handle stays as it is, and runs no hook -/
theorem openUp_open {p : Handle C × S × W} (ho : p.1.isOpen = true) :
    openUp L p = (.ok (), p) ∧ hooksRun L p = [] ∧ Matches (hooksRun L p) (openUp L (announcing p)) (openUp L p) := by
  have hplain : openUp L p = (.ok (), p) := by rw [openUp_eq, if_pos ho]
  have hannouncing : openUp L (announcing p) = (.ok (), announcing p) := by
    rw [openUp_eq]
    exact if_pos ho
  have hrun : hooksRun L p = [] := by
    unfold hooksRun
    rw [hannouncing]
    rfl
  refine ⟨hplain, hrun, ?_⟩
  rw [hrun, hplain, hannouncing]
  exact ⟨rfl, rfl⟩

end FluentSql.Embedded.Handle
