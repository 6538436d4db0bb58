import FluentSql.Proofs.HandleUses
import FluentSql.Proofs.PrivateMemory
/-!
The version of a database over openings. Statements that neither control transactions nor write the version
(`Account.Calm`) leave the version alone (`KeepsVersion`), so it is written by migrations only: what is committed then
has the version that was asked for (`migrate_version`), and what is not committed has the version that was there. An
opening does what the two versions say (`OpensByVersion`), whatever the handle was used for before
(`schema_versions`).
-/

namespace FluentSql.Embedded

/-- the text neither controls transactions nor writes the version -/
def Account.Calm {C S T : Type} (a : Account C S T) (sql : String) : Prop := ¬ a.controls sql ∧ ¬ a.revises sql

/-- what is committed by a handle at a location is there for its next opening -/
def Account.Persists {C S T : Type} (a : Account C S T) (location : Location) : Prop := location = .own ∨ a.lasts

namespace Handle

variable {C S W T : Type} {L : Library C S} {a : Account C S T} {location : Location} {name : String} {hooks : Hooks}
  {k version : Int} {p q r b m u : Handle C × S × W}

/-! ## Migrations -/

/-- the hook that a migration runs -/
def migrationHook (hooks : Hooks) (current version : Int) : Option Hook :=
  if current = 0 then hooks.onCreate else hooks.onUpgrade.map fun hook => hook current version

theorem migrationHook_asks {Q : Statement → Prop} (h : hooks.Ask Q) {hook : Hook}
    (hhook : migrationHook hooks k version = some hook) : hook.Asks Q := by
  unfold migrationHook at hhook
  split at hhook
  · exact h.onCreate hook hhook
  · obtain ⟨f, hf, rfl⟩ := Option.map_eq_some_iff.1 hhook
    exact h.onUpgrade f k version hf

/-- a migration is its hook, if there is one, and the new version -/
theorem migrate_run [Reporting W] (L : Library C S) (name : String) (hooks : Hooks) (current version : Int)
    (p : Handle C × S × W) :
    ∃ w, migrate L name hooks current version p = match migrationHook hooks current version with
      | some hook => (do runHook L hook; request L (.writeVersion version) : Act C S W Unit) (p.1, p.2.1, w)
      | none => request L (.writeVersion version) p := by
  unfold migrate migrationHook
  dsimp only
  split
  · cases hooks.onCreate with
    | none => exact ⟨p.2.2, rfl⟩
    | some hook => exact ⟨Reporting.emit (creating name version) p.2.2, rfl⟩
  · cases hooks.onUpgrade with
    | none => exact ⟨p.2.2, rfl⟩
    | some hook => exact ⟨Reporting.emit (upgrading name current version) p.2.2, rfl⟩

/-- a migration fails with its hook, or writes the version behind the hook, if there is one -/
theorem migrate_cases [Reporting W] {x : Except DbError Unit} (hm : migrate L name hooks k version b = (x, m)) :
    (∃ hook w e, migrationHook hooks k version = some hook ∧ runHook L hook (b.1, b.2.1, w) = (.error e, m) ∧
      x = .error e) ∨
    ∃ n, request L (.writeVersion version) n = (x, m) ∧
      (n = b ∨ ∃ hook w, migrationHook hooks k version = some hook ∧ runHook L hook (b.1, b.2.1, w) = (.ok (), n)) := by
  obtain ⟨w, hrun⟩ := migrate_run L name hooks k version b
  rw [hm] at hrun
  cases hhook : migrationHook hooks k version with
  | none =>
    rw [hhook] at hrun
    exact .inr ⟨b, hrun.symm, .inl rfl⟩
  | some hook =>
    rw [hhook] at hrun
    dsimp only at hrun
    rw [Task.bind_eq] at hrun
    rcases hh : runHook L hook (b.1, b.2.1, w) with ⟨e | _, n⟩
    · rw [hh] at hrun
      cases hrun
      exact .inl ⟨hook, w, e, rfl, hh, rfl⟩
    · rw [hh] at hrun
      exact .inr ⟨n, hrun.symm, .inr ⟨hook, w, rfl, hh⟩⟩

/-! ## Statements that keep the version -/

/-- from a working handle to a working handle, with the version of what is committed and of the work on it -/
def KeepsVersion (a : Account C S T) (p q : Handle C × S × W) : Prop :=
  Working a p → Working a q ∧ (storedOf a q).version = (storedOf a p).version ∧
    ∀ w', workOf a q = some w' → ∃ w, workOf a p = some w ∧ w'.version = w.version

theorem keepsVersion_stepwise (a : Account C S T) : Stepwise (KeepsVersion (W := W) a) where
  refl _ h := ⟨h, rfl, fun w hw => ⟨w, hw, rfl⟩⟩
  trans first second h := by
    obtain ⟨hq, hstored, hwork⟩ := first h
    obtain ⟨hr, hstored', hwork'⟩ := second hq
    refine ⟨hr, hstored'.trans hstored, fun w'' hw'' => ?_⟩
    obtain ⟨w', hw', hsame'⟩ := hwork' w'' hw''
    obtain ⟨w, hw, hsame⟩ := hwork w' hw'
    exact ⟨w, hw, hsame'.trans hsame⟩

theorem Working.beside (h : Working a p) (w : W) : Working a (p.1, p.2.1, w) := ⟨h.standing, h.connected, h.isOpen⟩

theorem Working.bare (h : Working a p) : Working a (bare p) := ⟨h.standing, h.connected, h.isOpen⟩

theorem Working.stands (h : Working a p) (hl : p.1.location = location) : Stands a location p := ⟨hl, h.standing⟩

section

variable (ha : a.Followed L location)

include ha

theorem request_keepsVersion {α : Type} (request : Request α) {sql : String} (htext : request.text? = some sql)
    (hcalm : a.Calm sql) : (Handle.request L request : Act C S W α).Respects (KeepsVersion a) := by
  intro p h
  obtain ⟨c, hc, hlive, x, c', s', hperform, heq, hafter⟩ := h.request ha request
  obtain ⟨hwork, hstored⟩ := ha.unrevised request hlive htext hcalm.1 hcalm.2
  have hinside := ha.inside request hlive htext hcalm.1
  have houtside := ha.outside request hlive htext hcalm.1
  rw [hperform] at hwork hstored hinside houtside
  rw [heq]
  refine ⟨hafter, ?_, fun w' hw' => ?_⟩
  · show (a.stored c' s').version = _
    rw [storedOf_of_some hc]
    cases hp : a.work c p.2.1 with
    | none => exact hstored hp
    | some w => rw [(hinside (by rw [hp]; rfl)).1]
  · rw [workOf_of_some hc]
    have hw : a.work c' s' = some w' := hw'
    cases hp : a.work c p.2.1 with
    | none =>
      rw [houtside hp] at hw
      cases hw
    | some w => exact ⟨w, rfl, hwork w w' hp hw⟩

variable [Reporting W]

theorem keepsVersion_permits : Permits L a.Calm (KeepsVersion (W := W) a) where
  stepwise := keepsVersion_stepwise a
  emit _ _ h := ⟨h.beside _, rfl, fun w hw => ⟨w, hw, rfl⟩⟩
  note _ _ h := ⟨h.beside _, rfl, fun w hw => ⟨w, hw, rfl⟩⟩
  request r _ htext hcalm := request_keepsVersion ha r htext hcalm

theorem afterOpening_keepsVersion (hcalm : hooks.Ask fun s => a.Calm s.text) :
    (afterOpening L hooks : Act C S W Unit).Respects (KeepsVersion a) := by
  unfold afterOpening
  cases hhook : hooks.onOpen with
  | none => exact Task.respects_pure (keepsVersion_stepwise a) ()
  | some hook => exact (keepsVersion_permits ha).runHook (hcalm.onOpen hook hhook)

/-! ## What a migration makes of the version -/

omit [Reporting W] in
/-- writing the version, inside a transaction or outside of one -/
theorem Working.written {x : Except DbError Unit} (h : Working a p) (hlow : 1 ≤ version)
    (hrun : Handle.request L (.writeVersion version) p = (x, q)) :
    Working a q ∧ (x = .ok () → ∀ w, workOf a q = some w → version ≤ greatestVersion → w.version = version) ∧
      ((storedOf a q).version = (storedOf a p).version ∨
        x = .ok () ∧ (version ≤ greatestVersion → (storedOf a q).version = version)) := by
  obtain ⟨hafter, hinside, houtside⟩ := h.writeVersion ha hrun
  refine ⟨hafter, ?_⟩
  cases hp : workOf a p with
  | some w =>
    obtain ⟨hstored, hok, -⟩ := hinside w hp
    refine ⟨fun hx w' hw' hfits => ?_, .inl (by rw [hstored])⟩
    obtain ⟨v, hv, hsame⟩ := hok hx
    rw [hv] at hw'
    cases hw'
    exact hsame hlow hfits
  | none =>
    obtain ⟨hnone, hok, herror⟩ := houtside hp
    refine ⟨fun _ w' hw' => ?_, ?_⟩
    · rw [hnone] at hw'
      cases hw'
    · cases x with
      | error e => exact .inl (by rw [herror e rfl])
      | ok _ =>
        obtain ⟨v, hv, hsame⟩ := hok rfl
        exact .inr ⟨rfl, fun hfits => by rw [hv]; exact hsame hlow hfits⟩

/-- **What a migration leaves to be committed has the new version**; what is committed already keeps its version,
unless the engine has given up the transaction before the version was written. -/
theorem migrate_version (hcalm : hooks.Ask fun s => a.Calm s.text) (hb : Working a b) (hlow : 1 ≤ version)
    {x : Except DbError Unit} (hm : migrate L name hooks k version b = (x, m)) :
    Working a m ∧ (x = .ok () → ∀ w, workOf a m = some w → version ≤ greatestVersion → w.version = version) ∧
      ((storedOf a m).version = (storedOf a b).version ∨
        x = .ok () ∧ (version ≤ greatestVersion → (storedOf a m).version = version)) := by
  have hran : ∀ {hook w y} {n : Handle C × S × W}, migrationHook hooks k version = some hook →
      runHook L hook (b.1, b.2.1, w) = (y, n) →
      Working a n ∧ (storedOf a n).version = (storedOf a b).version := by
    intro hook w y n hhook hh
    have hkeeps := (keepsVersion_permits ha).runHook (migrationHook_asks hcalm hhook) (b.1, b.2.1, w) (hb.beside w)
    rw [hh] at hkeeps
    exact ⟨hkeeps.1, hkeeps.2.1⟩
  rcases migrate_cases hm with ⟨hook, w, e, hhook, hh, rfl⟩ | ⟨n, hwrite, hn⟩
  · obtain ⟨hafter, hstored⟩ := hran hhook hh
    exact ⟨hafter, fun hx => (by cases hx), .inl hstored⟩
  · have hbefore : Working a n ∧ (storedOf a n).version = (storedOf a b).version := by
      rcases hn with rfl | ⟨hook, w, hhook, hh⟩
      · exact ⟨hb, rfl⟩
      · exact hran hhook hh
    obtain ⟨hafter, hwork, hversion⟩ := hbefore.1.written ha hlow hwrite
    rw [hbefore.2] at hversion
    exact ⟨hafter, hwork, hversion⟩

/-! ## Before and after -/

omit [Reporting W] in
/-- a handle that has connected works on the database, which is as it was -/
theorem Stands.connect (hp : Stands a location p) (hc : connected L p = (.ok (), q)) :
    Working a (raised q) ∧ Stands a location (raised q) ∧ storedOf a (raised q) = storedOf a p ∧
      workOf a (raised q) = workOf a p := by
  obtain ⟨hstands, hstored, hwork⟩ := connected_stands ha hp
  rw [hc] at hstands hstored hwork
  refine ⟨⟨hstands.standing, ?_, rfl⟩, ⟨hstands.location, hstands.standing⟩, hstored, hwork⟩
  rcases connected_cases L p with ⟨q', c, hc', hq', -⟩ | ⟨e, s, hc', -⟩
  · rw [hc] at hc'
    cases hc'
    show q.1.connection.isSome = true
    rw [hq']
    rfl
  · rw [hc] at hc'
    cases hc'

omit [Reporting W] in
/-- reading the version leaves the database as it is; an open transaction may be given up where it fails -/
theorem Stands.read (hp : Stands a location p) (hc : connected L p = (.ok (), q)) {x : Except DbError Int}
    (hread : storedVersion L (raised q) = (x, r)) :
    Working a r ∧ Stands a location r ∧ storedOf a r = storedOf a p ∧
      (workOf a r = workOf a p ∨ workOf a r = none ∧ ∃ e, x = .error e) ∧
      ∀ k, x = .ok k → k = (seenOf a p).version := by
  obtain ⟨hworking, hstands, hstored, hwork⟩ := hp.connect ha hc
  obtain ⟨hr, hstored', hwork', hversion⟩ := hworking.readVersion ha hread
  have hmanned : Manned p r := storedVersion_manned hc hread
  refine ⟨hr, ⟨hmanned.location.trans hp.location, hr.standing⟩, hstored'.trans hstored, hwork ▸ hwork', fun k hk => ?_⟩
  rw [hversion k hk]
  unfold seenOf
  rw [hwork, hstored]

omit [Reporting W] in
/-- a handle that has come to know the version works on the database, which is as it was -/
theorem Stands.reach (hp : Stands a location p) (hreach : Reaches L p k r) :
    Working a r ∧ Stands a location r ∧ storedOf a r = storedOf a p ∧ workOf a r = workOf a p ∧
      k = (seenOf a p).version := by
  obtain ⟨q, hc, hread⟩ := hreach
  obtain ⟨hr, hstands, hstored, hwork, hversion⟩ := hp.read ha hc hread
  refine ⟨hr, hstands, hstored, ?_, hversion k rfl⟩
  rcases hwork with hsame | ⟨-, e, he⟩
  · exact hsame
  · cases he

/-- a handle that was closed and is closed again without a change finds the database as it was -/
theorem close_settles (hp : Stands a location p) (hcoupled : Coupled p) (hclosed : p.1.isOpen = false)
    (hq : Stands a location q) (hstored : storedOf a q = storedOf a p) :
    Stands a location (close L q) ∧ storedOf a (close L q) = storedOf a p ∧
      (workOf a q = workOf a p → workOf a (close L q) = workOf a p) ∧
      (workOf a q = none → workOf a (close L q) = none) := by
  obtain ⟨hstands, hkept, hsame, hnone⟩ := close_stands ha hq
  by_cases hl : location = .own
  · refine ⟨hstands, (hkept (.inl hl)).trans hstored, fun hwork => (hsame (.inl hl)).trans hwork, fun hwork => ?_⟩
    exact (hsame (.inl hl)).trans hwork
  · have hunconnected := hcoupled.dropped hclosed fun he => hl (hp.location.symm.trans he)
    refine ⟨hstands, ?_, fun _ => ?_, fun _ => hnone hl⟩
    · by_cases hlasts : a.lasts
      · exact (hkept (.inr hlasts)).trans hstored
      · have hdisconnected := close_disconnects (L := L) fun he => hl (hq.location.symm.trans he)
        rw [storedOf_of_none hunconnected, storedOf_of_none hdisconnected,
          ha.passing hlasts ((standing_of_none hunconnected).1 hp.standing),
          ha.passing hlasts ((standing_of_none hdisconnected).1 hstands.standing)]
    · rw [hnone hl, workOf_of_none hunconnected]

/-- how an opening ends does not change what was committed, if that is there for the next opening -/
theorem ended_stored (hlasts : a.Persists location) {x : Except DbError Unit × Handle C × S × W}
    (hx : Stands a location x.2) : storedOf a (ended L p x).2 = storedOf a x.2 := by
  obtain ⟨answer, q⟩ := x
  have hgiven : Stands a location (given p.1.hooks q) := ⟨hx.location, hx.standing⟩
  cases answer with
  | ok _ => rfl
  | error e => exact (close_stands ha hgiven).2.1 hlasts

/-! ## Openings by version -/

omit ha in
/-- the database is as it was, and so is a transaction that was left open -/
structure Unchanged (a : Account C S T) (p q : Handle C × S × W) : Prop where
  stored : storedOf a q = storedOf a p
  work : workOf a q = workOf a p

omit ha in
/-- what an opening does, by the version that the database has and the one that is asked for -/
structure OpensByVersion (L : Library C S) (a : Account C S T) (p : Handle C × S × W) : Prop where
  already : p.1.isOpen = true → openUp L p = (.ok (), p) ∧ hooksRun L p = []
  /-- announcing themselves is all that the hooks are changed in to find out which of them run -/
  announced : Matches (hooksRun L p) (openUp L (announcing p)) (openUp L p)
  /-- where the handle does not connect, or the version is not read, the engine may have given up a transaction -/
  unknown : p.1.isOpen = false → (∀ k r, ¬ Reaches L p k r) →
    (∃ e, (openUp L p).1 = .error e) ∧ hooksRun L p = [] ∧ storedOf a (openUp L p).2 = storedOf a p ∧
      (workOf a (openUp L p).2 = workOf a p ∨ workOf a (openUp L p).2 = none)
  tooLow : p.1.isOpen = false → (∃ q, connected L p = (.ok (), q)) → p.1.version < 1 →
    (openUp L p).1 = .error (.validation (.versionTooLow p.1.version)) ∧ hooksRun L p = [] ∧
      Unchanged a p (openUp L p).2
  known : p.1.isOpen = false → ∀ k r, Reaches L p k r → k = (seenOf a p).version
  downgrade : p.1.isOpen = false → ∀ k r, Reaches L p k r → 1 ≤ p.1.version → p.1.version < k →
    (openUp L p).1 = .error (.validation (.downgrade p.1.name k p.1.version)) ∧ hooksRun L p = [] ∧
      Unchanged a p (openUp L p).2
  current : p.1.isOpen = false → ∀ r, Reaches L p p.1.version r → 1 ≤ p.1.version →
    openUp L p = ended L p (afterOpening L p.1.hooks (bare r)) ∧ hooksRun L p = openingNotes p.1.name p.1.hooks ∧
      (a.Persists p.1.location → (storedOf a (openUp L p).2).version = (storedOf a p).version)
  /-- a migration runs the one hook that the versions ask for, and the hook after opening only when it is committed -/
  migration : p.1.isOpen = false → ∀ k r, Reaches L p k r → 1 ≤ p.1.version → k < p.1.version →
    hooksRun L p <+: migrationNotes p.1.name p.1.hooks k p.1.version ++ openingNotes p.1.name p.1.hooks ∧
      ∀ b, execute L "BEGIN" (bare r) = (.ok (), b) →
        migrationNotes p.1.name p.1.hooks k p.1.version <+: hooksRun L p ∧
        ∀ m, migrate L p.1.name p.1.hooks k p.1.version b = (.ok (), m) → ∀ u, execute L "COMMIT" m = (.ok (), u) →
          openUp L p = ended L p (afterOpening L p.1.hooks u) ∧
            hooksRun L p = migrationNotes p.1.name p.1.hooks k p.1.version ++ openingNotes p.1.name p.1.hooks ∧
            workOf a u = none ∧
            (p.1.version ≤ greatestVersion → (storedOf a u).version = p.1.version ∧
              (a.Persists p.1.location → (storedOf a (openUp L p).2).version = p.1.version))

/-- the hook after opening keeps the version of what is committed, if that is there for the next opening -/
theorem opened_version (hcalm : p.1.hooks.Ask fun s => a.Calm s.text) (hlasts : a.Persists location)
    (hu : Working a u) (hl : u.1.location = location) :
    (storedOf a (ended L p (afterOpening L p.1.hooks u)).2).version = (storedOf a u).version := by
  obtain ⟨hafter, hversion, -⟩ := afterOpening_keepsVersion ha hcalm u hu
  have hlocation : (afterOpening L p.1.hooks u).2.1.location = location := by
    have hsteady := (steady_allows (W := W) (L := L) overlooks_nothing).afterOpening p.1.hooks.ask_any u
    rw [hsteady.handle]
    exact hl
  rw [ended_stored ha hlasts (hafter.stands hlocation), hversion]

/-- a migration that is committed gives the database its new version -/
theorem committed_version (hcalm : hooks.Ask fun s => a.Calm s.text) (hr : Working a r) (hlow : 1 ≤ version)
    (hb : execute L "BEGIN" r = (.ok (), b)) (hm : migrate L name hooks k version b = (.ok (), m))
    (hu : execute L "COMMIT" m = (.ok (), u)) :
    Working a u ∧ workOf a u = none ∧ (version ≤ greatestVersion → (storedOf a u).version = version) := by
  obtain ⟨hbegun, -⟩ := hr.begin ha hb
  obtain ⟨hmigrated, hwork, -⟩ := migrate_version ha hcalm hbegun hlow hm
  obtain ⟨hafter, hcommitted, -⟩ := hmigrated.commit ha hu
  obtain ⟨hdone, hnone⟩ := hcommitted rfl
  exact ⟨hafter, hnone, hwork rfl _ hdone⟩

/-- a migration that is not committed: the version stays what it was, or the engine had given up the transaction and
stored the new one -/
theorem uncommitted_version (hcalm : hooks.Ask fun s => a.Calm s.text) (hr : Working a r) (hlow : 1 ≤ version)
    (hup : (storedOf a r).version < version) (hfits : version ≤ greatestVersion) {e : DbError}
    (hb : execute L "BEGIN" r = (.ok (), b)) (hm : migrate L name hooks k version b = (.ok (), m))
    (hu : execute L "COMMIT" m = (.error e, u)) :
    Working a u ∧ (storedOf a r).version ≤ (storedOf a u).version := by
  obtain ⟨hbegun, hstored, -⟩ := hr.begin ha hb
  obtain ⟨hmigrated, -, hversion⟩ := migrate_version ha hcalm hbegun hlow hm
  obtain ⟨hafter, -, hkept⟩ := hmigrated.commit ha hu
  refine ⟨hafter, ?_⟩
  rw [(hkept e rfl).1]
  rcases hversion with hsame | ⟨-, hnew⟩
  · exact Int.le_of_eq (by rw [hsame, hstored])
  · rw [hnew hfits]
    omega

/-- a migration that fails is rolled back -/
theorem unmigrated_stored {e : DbError} (hm : Working a m) (hmigrate : migrate L name hooks k version b = (.error e, m))
    (hb : execute L "BEGIN" r = (.ok (), b)) (hu : migrateOrUndo L name hooks k version r = (.error e, u)) :
    Working a u ∧ storedOf a u = storedOf a m ∧ workOf a u = none := by
  obtain ⟨-, y, n, w, hback, rfl⟩ := migrateOrUndo_failed hb hmigrate hu
  have hrolled := hm.rollback ha hback
  exact ⟨hrolled.1.beside w, hrolled.2⟩

omit ha in
/-- no hooks run but the one of the migration and the one after opening -/
theorem Migrates.notes {x : Except DbError Unit × Handle C × S × W} {l : List Note} (h : Migrates L p k r x l) :
    l <+: migrationNotes p.1.name p.1.hooks k p.1.version ++ openingNotes p.1.name p.1.hooks := by
  cases h with
  | unbegun _ => exact List.nil_prefix
  | unmigrated _ _ _ => exact List.prefix_append _ _
  | uncommitted _ _ _ => exact List.prefix_append _ _
  | migrated _ _ _ => exact List.prefix_refl _

/-- **An opening does what the versions say.** -/
theorem Stands.opensByVersion (hp : Stands a location p) (hcoupled : Coupled p)
    (hcalm : p.1.hooks.Ask fun s => a.Calm s.text) : OpensByVersion L a p where
  already ho := ⟨(openUp_open ho).1, (openUp_open ho).2.1⟩
  announced := by
    cases ho : p.1.isOpen with
    | true => exact (openUp_open ho).2.2
    | false => exact (openUp_opens ho).2
  unknown ho hnot := by
    have hopens := (openUp_opens (L := L) ho).1
    generalize openUp L p = x at hopens
    generalize hooksRun L p = l at hopens
    cases hopens with
    | unconnected hc =>
      obtain ⟨-, hstored, hwork⟩ := connected_stands ha hp
      rw [hc] at hstored hwork
      exact ⟨⟨_, rfl⟩, rfl, hstored, .inl hwork⟩
    | low hc _ =>
      obtain ⟨-, hstands, hstored, hwork⟩ := hp.connect ha hc
      obtain ⟨-, hsettled, hsame, -⟩ := close_settles ha hp hcoupled ho hstands hstored
      exact ⟨⟨_, rfl⟩, rfl, hsettled, .inl (hsame hwork)⟩
    | unread hc _ hread =>
      obtain ⟨-, hstands, hstored, hwork, -⟩ := hp.read ha hc hread
      obtain ⟨-, hsettled, hsame, hnone⟩ := close_settles ha hp hcoupled ho hstands hstored
      exact ⟨⟨_, rfl⟩, rfl, hsettled, hwork.imp hsame fun hlost => hnone hlost.1⟩
    | downgrade hreach _ _ => exact absurd hreach (hnot _ _)
    | current hreach _ => exact absurd hreach (hnot _ _)
    | older hreach _ _ _ => exact absurd hreach (hnot _ _)
  tooLow ho := by
    rintro ⟨q, hc⟩ hlow
    obtain ⟨hopen, hrun⟩ := (openUp_opens ho).1.of_low hc hlow
    obtain ⟨-, hstands, hstored, hwork⟩ := hp.connect ha hc
    obtain ⟨-, hsettled, hsame, -⟩ := close_settles ha hp hcoupled ho hstands hstored
    rw [hopen]
    exact ⟨rfl, hrun, hsettled, hsame hwork⟩
  known ho k r hreach := (hp.reach ha hreach).2.2.2.2
  downgrade ho k r hreach hone hdown := by
    obtain ⟨hopen, hrun⟩ := ((openUp_opens ho).1.of_reached hreach hone).1 hdown
    obtain ⟨-, hstands, hstored, hwork, -⟩ := hp.reach ha hreach
    obtain ⟨-, hsettled, hsame, -⟩ := close_settles ha hp hcoupled ho hstands hstored
    rw [hopen]
    exact ⟨rfl, hrun, hsettled, hsame hwork⟩
  current ho r hreach hone := by
    obtain ⟨hopen, hrun⟩ := ((openUp_opens ho).1.of_reached hreach hone).2.1 rfl
    obtain ⟨hr, hstands, hstored, -⟩ := hp.reach ha hreach
    refine ⟨hopen, hrun, fun hlasts => ?_⟩
    rw [hopen, opened_version ha hcalm (hp.location ▸ hlasts) hr.bare hstands.location]
    exact congrArg Content.version hstored
  migration ho k r hreach hone hup := by
    have hmigrates := ((openUp_opens ho).1.of_reached hreach hone).2.2 hup
    obtain ⟨hr, hstands, -⟩ := hp.reach ha hreach
    refine ⟨hmigrates.notes, fun b hb => ⟨(hmigrates.of_begun (m := b) (u := b) hb).1, fun m hm u hu => ?_⟩⟩
    obtain ⟨hopen, hrun⟩ := (hmigrates.of_begun hb).2.2 hm hu
    obtain ⟨hafter, hnone, hversion⟩ := committed_version ha hcalm hr.bare hone hb hm hu
    have hlocation : u.1.location = location :=
      (execute_manned (migrate_manned (execute_manned hreach.manned.bare hb) hm) hu).location.trans hp.location
    refine ⟨hopen, hrun, hnone, fun hfits => ⟨hversion hfits, fun hlasts => ?_⟩⟩
    rw [hopen, opened_version ha hcalm (hp.location ▸ hlasts) hafter hlocation]
    exact hversion hfits

/-! ## Runs -/

/-- no migration makes the version less, however it ends -/
theorem Migrates.version_le {x : Except DbError Unit × Handle C × S × W} {l : List Note} (h : Migrates L p k r x l)
    (hreach : Reaches L p k r) (hp : Stands a location p) (hcalm : p.1.hooks.Ask fun s => a.Calm s.text)
    (hone : 1 ≤ p.1.version) (hup : k < p.1.version) (hfits : p.1.version ≤ greatestVersion)
    (hlasts : a.Persists location) : (storedOf a p).version ≤ (storedOf a x.2).version := by
  obtain ⟨hr, -, hstored, hwork, hk⟩ := hp.reach ha hreach
  have hbare : storedOf a (bare r) = storedOf a p := hstored
  have hlocation : ∀ {q : Handle C × S × W}, Manned (bare p) q → q.1.location = location := fun hq =>
    hq.location.trans hp.location
  have hbegun : ∀ {b}, execute L "BEGIN" (bare r) = (.ok (), b) → (storedOf a (bare r)).version < p.1.version := by
    intro b hb
    obtain ⟨-, -, hnew, -⟩ := hr.bare.begin ha hb
    have hnone : workOf a p = none := hwork.symm.trans (hnew rfl).1
    rw [hbare]
    unfold seenOf at hk
    rw [hnone] at hk
    exact hk ▸ hup
  have hend : ∀ {y : Except DbError Unit} {q : Handle C × S × W}, Working a q → Manned (bare p) q →
      (storedOf a (bare r)).version ≤ (storedOf a q).version →
      (storedOf a p).version ≤ (storedOf a (ended L p (y, q)).2).version := by
    intro y q hq hmanned hle
    rw [ended_stored ha hlasts (hq.stands (hlocation hmanned)), ← hbare]
    exact hle
  cases h with
  | unbegun hb =>
    obtain ⟨hafter, hsame, -⟩ := hr.bare.begin ha hb
    exact hend hafter (execute_manned hreach.manned.bare hb) (Int.le_of_eq (by rw [hsame]))
  | unmigrated hb hm hu =>
    obtain ⟨hbegan, hsame, -⟩ := hr.bare.begin ha hb
    obtain ⟨hfailed, -, hversion⟩ := migrate_version ha hcalm hbegan hone hm
    obtain ⟨hafter, hundone, -⟩ := unmigrated_stored ha hfailed hm hb hu
    refine hend hafter (migrateOrUndo_manned hreach.manned.bare hu) (Int.le_of_eq ?_)
    rcases hversion with hkept | ⟨hok, -⟩
    · rw [hundone, hkept, hsame]
    · cases hok
  | uncommitted hb hm hu =>
    obtain ⟨hafter, hle⟩ := uncommitted_version ha hcalm hr.bare hone (hbegun hb) hfits hb hm hu
    exact hend hafter (execute_manned (migrate_manned (execute_manned hreach.manned.bare hb) hm) hu) hle
  | migrated hb hm hu =>
    obtain ⟨hafter, -, hversion⟩ := committed_version ha hcalm hr.bare hone hb hm hu
    have hmanned : Manned (bare p) _ :=
      execute_manned (migrate_manned (execute_manned hreach.manned.bare hb) hm) hu
    have hbefore := hbegun hb
    rw [opened_version ha hcalm hlasts hafter (hlocation hmanned), hversion hfits, ← hbare]
    exact Int.le_of_lt hbefore

/-- **No opening makes the version less.** -/
theorem Opens.version_le {x : Except DbError Unit × Handle C × S × W} {l : List Note} (h : Opens L p x l)
    (hp : Stands a location p) (hcoupled : Coupled p) (ho : p.1.isOpen = false)
    (hcalm : p.1.hooks.Ask fun s => a.Calm s.text) (hfits : p.1.version ≤ greatestVersion)
    (hlasts : a.Persists location) : (storedOf a p).version ≤ (storedOf a x.2).version := by
  have hsettles : ∀ {q : Handle C × S × W}, Stands a location q → storedOf a q = storedOf a p →
      (storedOf a p).version ≤ (storedOf a (close L q)).version := fun hq hstored =>
    Int.le_of_eq (by rw [(close_settles ha hp hcoupled ho hq hstored).2.1])
  cases h with
  | unconnected hc =>
    obtain ⟨-, hstored, -⟩ := connected_stands ha hp
    rw [hc] at hstored
    exact Int.le_of_eq (by rw [hstored])
  | low hc _ =>
    obtain ⟨-, hstands, hstored, -⟩ := hp.connect ha hc
    exact hsettles hstands hstored
  | unread hc _ hread =>
    obtain ⟨-, hstands, hstored, -⟩ := hp.read ha hc hread
    exact hsettles hstands hstored
  | downgrade hreach _ _ =>
    obtain ⟨-, hstands, hstored, -⟩ := hp.reach ha hreach
    exact hsettles hstands hstored
  | current hreach _ =>
    obtain ⟨hr, hstands, hstored, -⟩ := hp.reach ha hreach
    rw [opened_version ha hcalm hlasts hr.bare hstands.location]
    exact Int.le_of_eq (by rw [← hstored]; rfl)
  | older hreach hone hup hmigrates =>
    exact hmigrates.version_le ha hreach hp hcalm hone hup hfits hlasts

omit ha [Reporting W] in
/-- a use that leaves the version to the openings, and asks for none that the engine does not store -/
def Use.Proper (a : Account C S T) : Use → Prop
  | opened o => (o.hooks.Ask fun s => a.Calm s.text) ∧ o.version ≤ greatestVersion
  | asked s => a.Calm s.text
  | closed => True

theorem Use.take_version_le {use : Use} (hproper : use.Proper a) (hp : Stands a location p) (hcoupled : Coupled p)
    (hlasts : a.Persists location) : (storedOf a p).version ≤ (storedOf a (use.take L p)).version := by
  cases use with
  | opened o =>
    cases ho : p.1.isOpen with
    | true =>
      have hsame : Use.take L (.opened o) p = Handle.withOpenOptions o p :=
        congrArg Prod.snd (openUp_open (p := Handle.withOpenOptions o p) ho).1
      rw [hsame]
      exact Int.le_refl _
    | false =>
      exact (openUp_opens (p := Handle.withOpenOptions o p) ho).1.version_le ha (hp.withOpenOptions o)
        (hcoupled.withOpenOptions o) ho hproper.1 hproper.2 hlasts
  | asked s =>
    cases ho : p.1.isOpen with
    | true =>
      have hkeeps := (keepsVersion_permits (W := W) ha).channel.ask (keepsVersion_stepwise a) (s := s) hproper p
      exact Int.le_of_eq (hkeeps ⟨hp.standing, hcoupled.live ho, ho⟩).2.1.symm
    | false =>
      obtain ⟨w, hrun⟩ := ask_closed L ho s
      have hsame : Use.take L (.asked s) p = (p.1, p.2.1, w) := congrArg Prod.snd hrun
      rw [hsame]
      exact Int.le_refl _
  | closed => exact Int.le_of_eq (by rw [← (close_stands ha hp).2.1 hlasts]; rfl)

theorem afterUses_version_le (hlasts : a.Persists location) (uses : List Use) :
    ∀ {p : Handle C × S × W}, (∀ u ∈ uses, u.Proper a) → Stands a location p → Coupled p →
      (storedOf a p).version ≤ (storedOf a (afterUses L uses p)).version := by
  induction uses with
  | nil => exact fun _ _ _ => Int.le_refl _
  | cons u rest ih =>
    intro p huses hp hcoupled
    refine Int.le_trans (Use.take_version_le ha (huses u List.mem_cons_self) hp hcoupled hlasts) ?_
    exact ih (fun v hv => huses v (List.mem_cons_of_mem u hv)) (u.take_stands ha hp) (u.take_coupled hcoupled)

/-- **The state machine of schema versions.** A handle at a location of any kind was new when nobody was at work on
its database, and has been opened, closed and asked for statements any number of times, with any versions and any
hooks. The next opening with calm hooks does what the versions say; and where all uses were proper, and what is
committed is there for the next opening, the stored version has never become less along the way. -/
theorem schema_versions (name : String) (log : StatementLog) {s : S} (hready : a.ready s) (w : W) (uses : List Use) :
    let p := fresh name location log s w
    (∀ o : OpenOptions, (o.hooks.Ask fun s => a.Calm s.text) →
      OpensByVersion L a (withOpenOptions o (afterUses L uses p))) ∧
    (a.Persists location → (∀ u ∈ uses, u.Proper a) → ∀ n,
      (storedOf a (afterUses L (uses.take n) p)).version ≤ (storedOf a (afterUses L uses p)).version) := by
  intro p
  have hstands : Stands a location p := ⟨rfl, hready⟩
  have hcoupled : Coupled p := fresh_coupled name location log s w
  refine ⟨fun o hcalm => ?_, fun hlasts huses n => ?_⟩
  · exact ((afterUses_stands ha uses hstands).withOpenOptions o).opensByVersion ha
      ((afterUses_coupled uses hcoupled).withOpenOptions o) hcalm
  · have hsplit : afterUses L uses p = afterUses L (uses.drop n) (afterUses L (uses.take n) p) := by
      unfold afterUses
      rw [← List.foldl_append, List.take_append_drop]
    rw [hsplit]
    exact afterUses_version_le ha hlasts (uses.drop n) (fun u hu => huses u (List.mem_of_mem_drop hu))
      (afterUses_stands ha (uses.take n) hstands) (afterUses_coupled (uses.take n) hcoupled)

end

open Engine Storage

/-- a table of notes that gets tags in its second version, and a hook after opening that fails -/
def notesHooks : Hooks where
  onCreate := some (.execute "CREATE TABLE notes (body TEXT)" (Hook.orFail fun _ => .done))
  onUpgrade := some fun _ _ => .execute "ALTER TABLE notes ADD COLUMN tag TEXT" (Hook.orFail fun _ => .done)
  onOpen := some (.execute "DELETE FROM missing" (Hook.orFail fun _ => .done))

theorem notesHooks_calm : notesHooks.Ask fun s => privateMemory.Calm s.text := by
  have hcalm : ∀ sql, (Grammar.readable sql).all Command.isCalm = true →
      (Hook.execute sql (Hook.orFail fun _ => .done)).Asks fun s => privateMemory.Calm s.text := by
    intro sql hall
    refine ⟨privateMemory_calm hall, fun x => ?_⟩
    cases x with
    | error e => trivial
    | ok a => trivial
  refine ⟨fun k hk => ?_, fun k current requested hk => ?_, fun k hk => ?_⟩
  · cases hk
    exact hcalm _ (by decide +kernel)
  · cases hk
    exact hcalm _ (by decide +kernel)
  · cases hk
    exact hcalm _ (by decide +kernel)

/-- the notes are opened for the first time and closed again -/
def firstUses : List Use := [.opened ⟨1, notesHooks⟩, .closed]

/-- notes in memory, of one handle -/
def ownNotes : Handle Connection × Storage × Notebook := fresh "notes.db" .own .standard Storage.empty ⟨[]⟩

/-- the handle of the notes, which is to be opened with the second version; not to be evaluated but by the kernel -/
@[irreducible]
def oldNotes : Handle Connection × Storage × Notebook :=
  withOpenOptions ⟨2, notesHooks⟩ (afterUses library firstUses ownNotes)

/-- opening the notes with the second version does what the versions say: it upgrades them, although the hook after
opening fails -/
theorem oldNotes_upgraded :
    OpensByVersion library privateMemory oldNotes ∧
      hooksRun library oldNotes = [.upgraded "notes.db" 1 2, .opened "notes.db" true] ∧
      (openUp library oldNotes).1.toBool = false ∧
      (storedOf privateMemory (openUp library oldNotes).2).version = 2 ∧
      (storedOf privateMemory ownNotes).version ≤
        (storedOf privateMemory (afterUses library firstUses ownNotes)).version := by
  have huses : ∀ u ∈ firstUses, u.Proper privateMemory := by
    intro u hu
    rcases List.mem_cons.1 hu with rfl | hu
    · exact ⟨notesHooks_calm, by decide⟩
    · rw [List.mem_singleton.1 hu]
      trivial
  obtain ⟨hopens, hgrows⟩ := schema_versions privateMemory_followed "notes.db" .standard (s := Storage.empty)
    empty_counted (⟨[]⟩ : Notebook) firstUses
  have hopened := hopens ⟨2, notesHooks⟩ notesHooks_calm
  have hnotes : oldNotes = withOpenOptions ⟨2, notesHooks⟩ (afterUses library firstUses ownNotes) := by
    unfold oldNotes
    rfl
  refine ⟨hnotes ▸ hopened, by decide +kernel, by decide +kernel, by decide +kernel, hgrows (.inl rfl) huses 0⟩

end Handle

end FluentSql.Embedded
