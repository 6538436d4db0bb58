import FluentSql.Proofs.FailedMigration
import FluentSql.Proofs.Folders
import FluentSql.Proofs.MemoryProvider
import FluentSql.Proofs.Undisturbed
import FluentSql.Session.Databases
/-!
Openings of a provider that fail. After any run of deeds a database is opened by its name, and that fails. No name
leaves the listing, and the name that was opened is the only one that may enter it; it does where its database could
be connected to. All databases that have nothing to do with the one that was opened are what they were; that one is,
too, unless the hook after opening has run, which is after a migration was committed. Main result: `failed_opening`.
-/

namespace FluentSql.Embedded.Provider

open Handle Text.Path

variable {C S W X T : Type} {L : Library C S} {v : Survey C S X T} {f : Folder S} {p : Provider} {name : String}
  {o : OpenOptions} {q r t : Depot C S × W} {why : DbError}

/-- the name that an opening may add to a listing -/
def Adds (f : Folder S) (p : Provider) (name x : String) : Prop :=
  match p.shelf with
  | .directory _ => f.place name = some x ∧ isSidecar x = false
  | .memory _ => x = name

/-- the names stand for databases that have nothing to do with each other -/
def Parts (p : Provider) (name other : String) : Prop :=
  match p.shelf with
  | .directory dir => NamesDirectory dir ∧ Plain name ∧ Plain other ∧ Apart name other
  | .memory _ => keyOf name ≠ keyOf other

/-- the provider has no names yet -/
def New (p : Provider) (d : Depot C S) : Prop := ∀ number, p.shelf = .memory number → ∀ k ∈ d.keepers, k.1.1 ≠ number

/-- an opening of the name gets so far that it is connected to its database -/
def Connects [Reporting W] (L : Library C S) (p : Provider) (name : String) (o : OpenOptions) (q : Depot C S × W) :
    Prop :=
  match p.shelf with
  | .directory _ => ∃ r, connected L (p.beginning name o q) = (.ok (), r)
  | .memory _ => (acquire L p name q).1 = .ok ()

/-- what an opening that failed leaves of the databases of a provider -/
structure Withstands [Reporting W] (L : Library C S) (v : Survey C S X T) (f : Folder S) (p : Provider) (name : String)
    (o : OpenOptions) (q t : Depot C S × W) : Prop where
  /-- a blank name is refused before anything is done -/
  blank : Text.blank name = true → t = q
  /-- no name leaves the listing, and only the one that was opened may enter it -/
  listed : ∃ ns ms, (p.listNames L q).1 = .ok ns ∧ (p.listNames L t).1 = .ok ms ∧ (∀ x ∈ ns, x ∈ ms) ∧
    ∀ x ∈ ms, x ∈ ns ∨ p.Adds f name x
  /-- it does where its database could be connected to -/
  entered : Text.blank name = false → p.Connects L name o q → ∀ x, p.Adds f name x →
    ∃ ms, (p.listNames L t).1 = .ok ms ∧ x ∈ ms
  /-- for a session every other name exists as it did -/
  known : ∀ {V H P : Type} (b : Backend V H P) (σ : Session H P) (source : P) (before after : V),
    σ.provider = some source → (b.listNames source before).1 = (p.listNames L q).1 →
      (b.listNames source after).1 = (p.listNames L t).1 → ∀ x, ¬ p.Adds f name x →
        (Session.dbExists b x (σ, after)).1 = (Session.dbExists b x (σ, before)).1
  /-- databases that have nothing to do with the one that was opened are what they were -/
  elsewhere : ∀ location, ¬ v.touches (p.locationOf name) location →
    v.kept location t.1.engine = v.kept location q.1.engine
  others : ∀ other, p.Parts name other →
    v.kept (p.locationOf other) t.1.engine = v.kept (p.locationOf other) q.1.engine
  /-- and so is that one, unless the hook after opening has run -/
  unchanged : (p.locationOf name).IsPlace →
    (∀ n isOpen, Note.opened n isOpen ∉ hooksRun L (p.beginning name o (acquire L p name q).2)) →
    (∀ k r b, Reaches L (p.beginning name o (acquire L p name q).2) k r → execute L "BEGIN" (bare r) = (.ok (), b) →
      KeepsWithin L v (p.locationOf name) o.hooks k o.version b) →
    v.stored (v.kept (p.locationOf name) t.1.engine) = v.stored (v.kept (p.locationOf name) q.1.engine)

/-- whether a database exists is asked of the listing -/
theorem dbExists_listed {V H P : Type} {b : Backend V H P} {σ : Session H P} {source : P} {world : V}
    {names : List String} {x : String} (hsource : σ.provider = some source) (hnames : (b.listNames source world).1 = .ok names) :
    (Session.dbExists b x (σ, world)).1 = .ok (names.contains x) := by
  unfold Session.dbExists
  dsimp only
  rw [hsource]
  show ((b.listNames source >>= fun l => pure (l.contains x)) world).1 = _
  rw [Task.bind_pure_eq, hnames]
  rfl

/-! ## Places -/

theorem locationOf_ne_own (p : Provider) (name : String) : p.locationOf name ≠ .own := by
  unfold locationOf
  split
  · simp
  · simp

/-- the names of a provider lead to places, if its directory is named by an ordinary text -/
theorem locationOf_isPlace (p : Provider) (name : String) (h : ∀ dir, p.shelf = .directory dir → NamesDirectory dir) :
    (p.locationOf name).IsPlace := by
  obtain ⟨shelf, log⟩ := p
  cases shelf with
  | directory dir => exact .file ((h dir rfl).join_ordinary name)
  | memory number => exact room_isPlace number name

/-- a new handle sits where its name leads -/
theorem beginning_sits [Reporting W] (p : Provider) (name : String) (o : OpenOptions) (q : Depot C S × W) :
    Sits v (p.locationOf name) (p.beginning name o q) := ⟨rfl, fun c hc => by cases hc⟩

section

variable (hv : v.Followed L)

include hv

/-- names that have nothing to do with each other lead to databases that do not touch -/
theorem Parts.not_touches {other : String} (h : p.Parts name other) :
    ¬ v.touches (p.locationOf name) (p.locationOf other) := by
  obtain ⟨shelf, log⟩ := p
  cases shelf with
  | directory dir =>
    obtain ⟨hdir, hname, hother, hapart⟩ := h
    exact hv.names hdir hname hother hapart
  | memory number => exact hv.keys number (isKey_keyOf name) (isKey_keyOf other) h

end

/-! ## Ways to fail -/

/-- an opening fails because the name is blank, because it cannot be kept, or because opening its handle fails -/
theorem openDatabase_failed [Reporting W] (h : p.openDatabase L name o q = (.error why, t)) :
    Text.blank name = true ∧ t = q ∨ Text.blank name = false ∧
      ((∃ e : DbError, acquire L p name q = (.error e, t)) ∨
        ∃ r, acquire L p name q = (.ok (), r) ∧ (openUp L (p.beginning name o r)).1 = .error why ∧
          t = ({ r.1 with engine := (openUp L (p.beginning name o r)).2.2.1 },
            (openUp L (p.beginning name o r)).2.2.2)) := by
  rw [openDatabase_eq] at h
  by_cases hblank : Text.blank name = true
  · rw [if_pos hblank] at h
    cases h
    exact .inl ⟨hblank, rfl⟩
  · rw [if_neg hblank] at h
    refine .inr ⟨by simpa using hblank, ?_⟩
    rcases hacquire : acquire L p name q with ⟨e | _, r⟩
    · rw [hacquire] at h
      cases h
      exact .inl ⟨_, rfl⟩
    · rw [hacquire] at h
      refine .inr ⟨r, rfl, ?_⟩
      dsimp only at h
      have hopened : (openUp L (p.beginning name o r)).1.map (fun _ => (openUp L (p.beginning name o r)).2.1) =
          .error why :=
        congrArg Prod.fst h
      refine ⟨?_, (congrArg Prod.snd h).symm⟩
      cases hx : (openUp L (p.beginning name o r)).1 with
      | error e =>
        rw [hx] at hopened
        cases hopened
        rfl
      | ok _ =>
        rw [hx] at hopened
        cases hopened

/-! ## Listings -/

/-- what a failed opening does to a listing of names that are kept -/
theorem failed_keptNames [Reporting W] {number : Nat} {log : StatementLog}
    (h : openDatabase L ⟨.memory number, log⟩ name o q = (.error why, t)) :
    (∀ x ∈ q.1.keptNames number, x ∈ t.1.keptNames number) ∧
      (∀ x ∈ t.1.keptNames number, x ∈ q.1.keptNames number ∨ x = name) ∧
      (Text.blank name = false → (acquire L ⟨.memory number, log⟩ name q).1 = .ok () → name ∈ t.1.keptNames number) := by
  obtain ⟨hstay, hcome, henter⟩ := acquire_keptNames L number log name q
  rcases openDatabase_failed h with ⟨hblank, rfl⟩ | ⟨-, ⟨e, hacquire⟩ | ⟨r, hacquire, -, rfl⟩⟩
  · exact ⟨fun _ hx => hx, fun _ hx => .inl hx, fun hnot => by rw [hblank] at hnot; cases hnot⟩
  · rw [hacquire] at hstay hcome ⊢
    exact ⟨hstay, hcome, fun _ hok => by cases hok⟩
  · rw [hacquire] at hstay hcome henter
    exact ⟨hstay, hcome, fun _ _ => henter rfl⟩

/-- what a failed opening does to a listing of files -/
theorem failed_shown [Reporting W] {dir : String} {log : StatementLog} (hf : f.Followed v L dir) (hv : v.Followed L)
    (ho : o.hooks.Ask fun s => ¬ v.reaches s.text)
    (h : openDatabase L ⟨.directory dir, log⟩ name o q = (.error why, t)) :
    (∀ x, f.shown q.1.engine x → f.shown t.1.engine x) ∧
      (∀ x, f.shown t.1.engine x → f.shown q.1.engine x ∨ f.place name = some x) ∧
      (Text.blank name = false →
        (∃ r, connected L (beginning ⟨.directory dir, log⟩ name o q) = (.ok (), r)) →
          ∀ x, f.place name = some x → isSidecar x = false → f.shown t.1.engine x) := by
  rcases openDatabase_failed h with ⟨hblank, rfl⟩ | ⟨-, ⟨e, hacquire⟩ | ⟨r, hacquire, -, rfl⟩⟩
  · exact ⟨fun _ hx => hx, fun _ hx => .inl hx, fun hnot => by rw [hblank] at hnot; cases hnot⟩
  · cases hacquire
  · cases hacquire
    have hsits : Sits v (.file (join dir name)) (beginning (⟨.directory dir, log⟩ : Provider) name o q) :=
      beginning_sits (⟨.directory dir, log⟩ : Provider) name o q
    have hshown : ∀ x, f.place name = some x → isSidecar x = false → ∀ r,
        connected L (beginning ⟨.directory dir, log⟩ name o q) = (.ok (), r) → _ := fun x hplace hwhole r hconnected =>
      openUp_shown hf hv ho hsits rfl rfl hconnected hplace hwhole
    obtain ⟨-, hstay, hcome⟩ := openUp_shows hf hv ho hsits
    generalize openUp L (beginning ⟨.directory dir, log⟩ name o q) = y at hstay hcome hshown ⊢
    exact ⟨hstay, hcome, fun _ ⟨r, hconnected⟩ x hplace hwhole => hshown x hplace hwhole r hconnected⟩

/-! ## Failed openings -/

section

variable [Reporting W] (hv : v.Followed L) (hf : ∀ dir, p.shelf = .directory dir → f.Followed v L dir)

include hv hf

/-- a listing before and after an opening that failed -/
theorem failed_listed (ho : o.hooks.Ask fun s => ¬ v.reaches s.text) (h : p.openDatabase L name o q = (.error why, t)) :
    ∃ ns ms, (p.listNames L q).1 = .ok ns ∧ (p.listNames L t).1 = .ok ms ∧ (∀ x ∈ ns, x ∈ ms) ∧
      (∀ x ∈ ms, x ∈ ns ∨ p.Adds f name x) ∧
      (Text.blank name = false → p.Connects L name o q → ∀ x, p.Adds f name x → x ∈ ms) := by
  obtain ⟨shelf, log⟩ := p
  cases shelf with
  | directory dir =>
    have hdir := hf dir rfl
    obtain ⟨hstay, hcome, henter⟩ := failed_shown hdir hv ho h
    obtain ⟨ns, hlist, -, hns⟩ := listFiles_shown hdir q.1.engine
    obtain ⟨ms, hlist', -, hms⟩ := listFiles_shown hdir t.1.engine
    refine ⟨ns, ms, hlist, hlist', fun x hx => (hms x).2 (hstay x ((hns x).1 hx)), fun x hx => ?_,
      fun hblank hconnects x hadds => (hms x).2 (henter hblank hconnects x hadds.1 hadds.2)⟩
    have hshown := (hms x).1 hx
    exact (hcome x hshown).imp (hns x).2 fun hplace => ⟨hplace, hdir.whole hshown⟩
  | memory number =>
    obtain ⟨hstay, hcome, henter⟩ := failed_keptNames h
    refine ⟨_, _, rfl, rfl, hstay, hcome, fun hblank hconnects x hadds => ?_⟩
    rw [show x = name from hadds]
    exact henter hblank hconnects

omit hf in
/-- a failed opening spares all databases but its own -/
theorem failed_spares (ho : o.hooks.Ask fun s => ¬ v.reaches s.text) (h : p.openDatabase L name o q = (.error why, t)) :
    v.Spares (p.locationOf name) q.1.engine t.1.engine := by
  have hacquired := (acquire_kept hv p name q).1
  rcases openDatabase_failed h with ⟨-, rfl⟩ | ⟨-, ⟨e, hacquire⟩ | ⟨r, hacquire, -, rfl⟩⟩
  · exact v.spares_refl _ _
  · rw [hacquire] at hacquired
    exact hacquired
  · rw [hacquire] at hacquired
    have hminds := openUp_minds hv (locationOf_ne_own p name) (p := p.beginning name o r) ho
    exact hacquired.trans (hminds (beginning_sits p name o r)).2.1

omit hf in
/-- a failed opening leaves its own database as it was, if the hook after opening has not run; in memory it is held by
the one who keeps its name -/
theorem failed_stored (ho : o.hooks.Ask fun s => ¬ v.reaches s.text) (h : p.openDatabase L name o q = (.error why, t))
    (hplace : (p.locationOf name).IsPlace)
    (hheld : ∀ r, acquire L p name q = (.ok (), r) →
      (∃ path, p.locationOf name = .file path) ∨ 1 ≤ v.holders (v.kept (p.locationOf name) r.1.engine))
    (hquiet : ∀ n isOpen, Note.opened n isOpen ∉ hooksRun L (p.beginning name o (acquire L p name q).2))
    (hkeeps : ∀ k r b, Reaches L (p.beginning name o (acquire L p name q).2) k r → execute L "BEGIN" (bare r) = (.ok (), b) →
      KeepsWithin L v (p.locationOf name) o.hooks k o.version b) :
    v.stored (v.kept (p.locationOf name) t.1.engine) = v.stored (v.kept (p.locationOf name) q.1.engine) := by
  have hacquired := ((acquire_kept hv p name q).2 hplace).1
  rcases openDatabase_failed h with ⟨-, rfl⟩ | ⟨-, ⟨e, hacquire⟩ | ⟨r, hacquire, hfailed, rfl⟩⟩
  · rfl
  · rw [hacquire] at hacquired
    exact hacquired
  · rw [hacquire] at hacquired hquiet hkeeps
    exact (openUp_stored hv hplace (beginning_sits p name o r) rfl rfl ho hkeeps (hheld r hacquire) hfailed
      hquiet).trans hacquired

/-- **An opening that fails leaves the databases of a provider as they are**, after any run of deeds and for every
name, version and hooks, as long as no statement reaches another database. Of the listing no name but the one that was
opened becomes a part. The databases keep what they hold and their versions; only the one that was to be opened may
have changed, and only if its hook after opening has run, which is after a migration was committed, or if a hook of
the migration has left its transaction. -/
theorem failed_opening (d : Depot C S) (w : W) (hnew : p.New d) (deeds : List Deed)
    (hasks : ∀ x ∈ deeds, x.Asks fun sql => ¬ v.reaches sql) (name : String) (o : OpenOptions)
    (ho : o.hooks.Ask fun s => ¬ v.reaches s.text) :
    let e := p.after L deeds (Holdings.none d w)
    ∀ why t, p.openDatabase L name o (e.depot, e.outside) = (.error why, t) →
      p.Withstands L v f name o (e.depot, e.outside) t := by
  intro e why t hfailed
  obtain ⟨ns, ms, hlist, hlist', hstay, hcome, henter⟩ := failed_listed hv hf ho hfailed
  have hspares := failed_spares hv ho hfailed
  refine ⟨fun hblank => ?_, ⟨ns, ms, hlist, hlist', hstay, hcome⟩,
    fun hblank hconnects x hadds => ⟨ms, hlist', henter hblank hconnects x hadds⟩, ?_, hspares,
    fun other hother => hspares _ (hother.not_touches hv), fun hplace hquiet hkeeps => ?_⟩
  · rcases openDatabase_failed hfailed with ⟨-, hsame⟩ | ⟨hnot, -⟩
    · exact hsame
    · rw [hblank] at hnot
      cases hnot
  · intro V H P b σ source before after hsource hbefore hafter x hx
    have hcontains : ms.contains x = ns.contains x := by
      rw [Bool.eq_iff_iff, List.contains_iff_mem, List.contains_iff_mem]
      exact ⟨fun hm => (hcome x hm).resolve_right hx, hstay x⟩
    rw [dbExists_listed hsource (hafter.trans hlist'), dbExists_listed hsource (hbefore.trans hlist), hcontains]
  · refine failed_stored hv ho hfailed hplace (fun r hacquire => ?_) hquiet hkeeps
    obtain ⟨shelf, log⟩ := p
    cases shelf with
    | directory dir => exact .inl ⟨_, rfl⟩
    | memory number =>
      have hnone : Balanced v number (fun key => v.holders (v.kept (room number key) d.engine)) (Holdings.none d w) :=
        balanced_none w (hnew number rfl) fun key _ => rfl
      exact .inr ((hnone.after hv log hasks).held hv hacquire)

end

/-- an upgrade in haste works in the transaction that was begun for it, whatever its text does there -/
theorem hastyUpgrade_keepsWithin [Reporting W] {location : Location} {sql : String} {k version : Int}
    {b : Handle C × S × W} (hstays : ¬ v.reaches sql) (hcalm : ¬ v.controls sql) (hwithin : Within v location b) :
    KeepsWithin L v location (hastyUpgrade sql) k version b := by
  intro hook hhook w
  unfold migrationHook at hhook
  split at hhook
  · cases hhook
  · cases hhook
    exact ⟨⟨⟨hstays, hcalm, hwithin⟩, trivial⟩, fun hok => by cases hok⟩

/-- the table is dropped, and then the upgrade fails -/
def hastyDrop : OpenOptions := ⟨3, hastyUpgrade "DROP TABLE t"⟩

/-- an upgrade that drops the table and then fails has not dropped it -/
theorem hastyDrop_withstood :
    let p : Provider := ⟨.memory 0, .standard⟩
    let v := Cabinet.survey
    let q := (closedNotesLeft.depot, closedNotesLeft.outside)
    ∃ why t, p.openDatabase Cabinet.library "notes" hastyDrop q = (.error why, t) ∧
      p.Withstands Cabinet.library v (Cabinet.folder "data") "notes" hastyDrop q t ∧
      (v.stored (v.kept (p.locationOf "notes") t.1.engine)).version = 2 ∧
      (v.stored (v.kept (p.locationOf "notes") t.1.engine)).tables.length = 1 := by
  intro p v q
  have hanswer : (p.openDatabase Cabinet.library "notes" hastyDrop q).1.toBool = false := by decide +kernel
  have hruns : hooksRun Cabinet.library (p.beginning "notes" hastyDrop (p.acquire Cabinet.library "notes" q).2) =
      [.upgraded "notes" 2 3] := by decide +kernel
  have hbefore : (v.stored (v.kept (p.locationOf "notes") q.1.engine)).version = 2 ∧
      (v.stored (v.kept (p.locationOf "notes") q.1.engine)).tables.length = 1 := by decide +kernel
  have hplace : (p.locationOf "notes").IsPlace := p.locationOf_isPlace "notes" fun _ h => by cases h
  have hcalm : ¬ v.controls "DROP TABLE t" := Cabinet.survey_calm (by decide +kernel)
  have hwithstands := failed_opening (p := p) (f := Cabinet.folder "data") Cabinet.survey_followed
    (fun dir hdir => by cases hdir) Cabinet.emptyDepot (⟨[]⟩ : Notebook) (fun _ _ k hk => by cases hk) closedNotes
    closedNotes_asks "notes" hastyDrop (hastyUpgrade_asks not_false)
  rw [closedNotes_left] at hwithstands
  rcases hopen : p.openDatabase Cabinet.library "notes" hastyDrop q with ⟨why | h, t⟩
  · have hleft := hwithstands why t hopen
    refine ⟨why, t, rfl, hleft, ?_⟩
    rw [hleft.unchanged hplace (fun n isOpen => by rw [hruns]; simp) fun k r b hreach hb => ?_]
    · exact hbefore
    · obtain ⟨-, ⟨c, hc, hleads, hidle⟩, -⟩ := reach_kept Cabinet.survey_followed hplace rfl rfl hreach
      have hbare : Undisturbed v (p.locationOf "notes") (v.stored (v.kept (p.locationOf "notes") r.2.1)) (bare r) :=
        ⟨hreach.manned.location, hreach.manned.isOpen, ⟨c, hc, hleads, .inl hidle⟩, rfl⟩
      exact hastyUpgrade_keepsWithin not_false hcalm
        ((hbare.begin Cabinet.survey_followed hplace ⟨c, hc, hidle⟩ hb).2 rfl)
  · rw [hopen] at hanswer
    cases hanswer

/-- a failed opening does leave something behind: a name that is listed, in memory and in a directory; the new version,
if it was the hook after opening that failed; what a hook of the migration has done after it committed or rolled back
itself, or before it committed; and a database that has the name of a journal of the one that was opened is gone -/
theorem failed_opening_leaves :
    let p : Provider := ⟨.memory 0, .standard⟩
    let d : Provider := ⟨.directory "data", .standard⟩
    let L := Storage.library
    let start := Holdings.none ⟨Storage.empty, []⟩ (⟨[]⟩ : Notebook)
    let missing (q : Provider) := q.openDatabase L "a.db" ⟨0, Hooks.none⟩ (start.depot, start.outside)
    let errors (q : Provider) (before later : List Deed) :=
      (q.replies L later (q.after L before start)).map fun r => r.2.isError
    let late : OpenOptions := ⟨3, { Hooks.none with onOpen := some (.fail (.notOpen "elsewhere")) }⟩
    let uncreated : OpenOptions := ⟨1, { Hooks.none with onCreate := some (.fail (.notOpen "elsewhere")) }⟩
    let again : List Deed := [.opened "notes" ⟨2, Hooks.none⟩, .asked "notes" 1 (.execute "INSERT INTO t VALUES (1)")]
    let journal : List Deed := [.opened "a-journal" ⟨2, Hooks.none⟩, .closed "a-journal" 0]
    ((missing p).1.toBool = false ∧ (p.listNames L (start.depot, start.outside)).1 = .ok [] ∧
        (p.listNames L (missing p).2).1 = .ok ["a.db"]) ∧
      ((missing d).1.toBool = false ∧ (d.listNames L (start.depot, start.outside)).1 = .ok [] ∧
        (d.listNames L (missing d).2).1 = .ok ["a.db"]) ∧
      (errors p closedNotes again = [false, false] ∧
        errors p closedNotes (.opened "notes" late :: again) = [true, true, false]) ∧
      (∀ sql ∈ ["DROP TABLE t; COMMIT", "ROLLBACK; DROP TABLE t"],
        errors p closedNotes (.opened "notes" ⟨3, hastyUpgrade sql⟩ :: again) = [true, false, true]) ∧
      errors d journal [.opened "a-journal" ⟨1, Hooks.none⟩] = [true] ∧
        errors d journal [.opened "a" uncreated, .opened "a-journal" ⟨1, Hooks.none⟩] = [true, false] := by
  intro p d L start missing errors late uncreated again journal
  refine ⟨⟨by decide +kernel, eq_ok_of_toOption (by decide +kernel), eq_ok_of_toOption (by decide +kernel)⟩,
    ⟨by decide +kernel, eq_ok_of_toOption (by decide +kernel), eq_ok_of_toOption (by decide +kernel)⟩,
    ⟨by decide +kernel, by decide +kernel⟩, by decide +kernel, by decide +kernel, by decide +kernel⟩

end FluentSql.Embedded.Provider
