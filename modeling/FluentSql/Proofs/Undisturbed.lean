import FluentSql.Proofs.SchemaVersion
import FluentSql.Proofs.Surveys
/-!
Openings that fail, and the database that was to be opened. While a handle reads the version, and while it migrates
inside the transaction that it began, what is committed stays as it is (`Handle.Undisturbed`), so it does unless a
commit succeeds. Where an opening fails and the hook after opening has not run, no commit has succeeded, and closing
the handle forgets what is not committed (`Handle.openUp_stored`).
-/

namespace FluentSql.Embedded.Handle

variable {C S W X T α : Type} {L : Library C S} {v : Survey C S X T} {location : Location} {content : Content T}
  {name : String} {hooks : Hooks} {k version : Int} {p q r b m u : Handle C × S × W} {e : DbError}

/-- an open handle with a connection to a database of which this is committed -/
structure Undisturbed (v : Survey C S X T) (location : Location) (content : Content T) (p : Handle C × S × W) :
    Prop where
  located : p.1.location = location
  isOpen : p.1.isOpen = true
  attached : ∃ c, p.1.connection = some c ∧ v.leads c location ∧ v.Attached c (v.kept location p.2.1)
  stored : v.stored (v.kept location p.2.1) = content

/-- the connection of the handle is in a transaction -/
def Within (v : Survey C S X T) (location : Location) (p : Handle C × S × W) : Prop :=
  ∃ c, p.1.connection = some c ∧ v.within c (v.kept location p.2.1)

/-- a statement that neither controls transactions nor reaches another database, asked for in a transaction -/
structure AskedWithin (v : Survey C S X T) (location : Location) (s : Statement) (p : Handle C × S × W) : Prop where
  stays : ¬ v.reaches s.text
  calm : ¬ v.controls s.text
  within : Within v location p

/-- the hook of a migration works in the transaction that was begun for it: it asks for statements in it, for none that
control transactions or reach another database, and leaves it open -/
def KeepsWithin [Reporting W] (L : Library C S) (v : Survey C S X T) (location : Location) (hooks : Hooks)
    (k version : Int) (b : Handle C × S × W) : Prop :=
  ∀ hook, migrationHook hooks k version = some hook → ∀ w,
    hook.Issues (channel L) b.1.name (fun q : Handle C × S × W => q.1.isOpen) (AskedWithin v location) (b.1, b.2.1, w) ∧
      ((runHook L hook (b.1, b.2.1, w)).1 = .ok () → Within v location (runHook L hook (b.1, b.2.1, w)).2)

/-- where the hook after opening notes nothing there is none -/
theorem afterOpening_quiet [Reporting W] (hquiet : ∀ n isOpen, Note.opened n isOpen ∉ openingNotes name hooks) :
    afterOpening L hooks p = (.ok (), p) := by
  unfold afterOpening
  unfold openingNotes at hquiet
  cases h : hooks.onOpen with
  | none => rfl
  | some hook =>
    rw [h] at hquiet
    exact absurd List.mem_cons_self (hquiet name true)

/-! ## Requests -/

/-- the world is no matter -/
theorem Undisturbed.beside (h : Undisturbed v location content p) (w : W) :
    Undisturbed v location content (p.1, p.2.1, w) := ⟨h.located, h.isOpen, h.attached, h.stored⟩

theorem Undisturbed.given (h : Undisturbed v location content p) (hooks : Hooks) :
    Undisturbed v location content (given hooks p) := ⟨h.located, h.isOpen, h.attached, h.stored⟩

section

variable (hv : v.Followed L)

include hv

/-- a request that leaves alone what is committed -/
theorem Undisturbed.request (h : Undisturbed v location content p) (r : Request α) (hstays : v.Stays r)
    (hleaves : ∀ c, p.1.connection = some c → v.leads c location → v.Attached c (v.kept location p.2.1) →
      v.Leaves location p.2.1 (L.perform r c p.2.1).2.1 (L.perform r c p.2.1).2.2) :
    Undisturbed v location content (request L r p).2 := by
  obtain ⟨c, hc, hleads, hattached⟩ := h.attached
  obtain ⟨hstored, hafter⟩ := hleaves c hc hleads hattached
  rw [request_live r hc h.isOpen]
  exact ⟨h.located, h.isOpen, ⟨_, rfl, (hv.performed r p.2.1 hleads hstays).1, hafter⟩, hstored.trans h.stored⟩

variable (hplace : location.IsPlace)

include hplace

theorem Undisturbed.writeVersion (h : Undisturbed v location content p) (hwithin : Within v location p) (n : Int) :
    Undisturbed v location content (Handle.request L (.writeVersion n) p).2 := by
  refine h.request hv _ (fun _ htext => by cases htext) fun c hc hleads _ => ?_
  obtain ⟨d, hd, hinside⟩ := hwithin
  rw [hc] at hd
  cases hd
  exact hv.written hplace hleads hinside rfl

variable [Reporting W]

/-- a statement in the transaction leaves alone what is committed -/
theorem Undisturbed.after {s : Statement} (h : Undisturbed v location content p) (hs : AskedWithin v location s p) :
    Undisturbed v location content ((channel L).after s p) := by
  rcases after_cases L s p with hsame | ⟨β, r, w, htext, hafter⟩
  · rw [hsame]
    exact h
  · rw [hafter]
    refine (h.beside w).request hv r (fun other hother => ?_) fun c hc hleads _ => ?_
    · rw [htext] at hother
      cases hother
      exact hs.stays
    · obtain ⟨d, hd, hinside⟩ := hs.within
      rw [show p.1.connection = some c from hc] at hd
      cases hd
      exact hv.inside r hplace hleads hinside htext hs.stays hs.calm

omit hplace in
/-- the run of a statement that an opening asks for by itself -/
theorem Undisturbed.run (h : Undisturbed v location content p) {sql : String} (hsql : sql ∈ ownStatements)
    {x : Except DbError Unit} (hrun : execute L sql p = (x, u)) :
    ∃ c y c' t, p.1.connection = some c ∧ v.leads c location ∧ v.Attached c (v.kept location p.2.1) ∧
      L.perform (.batch sql) c p.2.1 = (y, c', t) ∧ x = engineOutcome y ∧
      u.1.connection = some c' ∧ u.2.1 = t ∧ (v.Leaves location p.2.1 c' t → Undisturbed v location content u) := by
  obtain ⟨c, hc, hleads, hattached⟩ := h.attached
  obtain ⟨w, hreported⟩ := reported_run sql 0 (Handle.request L (.batch sql)) p
  have hlive := request_live (L := L) (.batch sql) (p := (p.1, p.2.1, w)) hc h.isOpen
  have hexecute : execute L sql p = _ := hreported.trans hlive
  have hleads' := (hv.performed (.batch sql) p.2.1 hleads fun other hother => by
    cases hother
    exact hv.own _ hsql).1
  rw [hrun] at hexecute
  cases hexecute
  refine ⟨c, _, _, _, hc, hleads, hattached, rfl, rfl, rfl, rfl, fun hleaves => ?_⟩
  exact ⟨h.located, h.isOpen, ⟨_, rfl, hleads', hleaves.attached⟩, hleaves.stored.trans h.stored⟩

/-- a handle out of any transaction begins one, or is left as it was -/
theorem Undisturbed.begin (h : Undisturbed v location content p)
    (hidle : ∃ c, p.1.connection = some c ∧ v.idle c (v.kept location p.2.1)) {x : Except DbError Unit}
    (hb : execute L "BEGIN" p = (x, b)) :
    Undisturbed v location content b ∧ (x = .ok () → Within v location b) := by
  obtain ⟨c, y, c', t, hc, hleads, -, hperform, rfl, hc', rfl, hafter⟩ := h.run hv (by decide) hb
  obtain ⟨d, hd, hidle⟩ := hidle
  rw [hc] at hd
  cases hd
  obtain ⟨hleaves, hinside⟩ := hv.begun hplace hleads hidle hperform
  refine ⟨hafter hleaves, fun hx => ?_⟩
  cases y with
  | ok _ => exact ⟨c', hc', hinside rfl⟩
  | error why => cases hx

/-- a commit that is refused has committed nothing -/
theorem Undisturbed.refused (h : Undisturbed v location content p) (hu : execute L "COMMIT" p = (.error e, u)) :
    Undisturbed v location content u := by
  obtain ⟨c, y, c', t, -, hleads, hattached, hperform, hx, -, rfl, hafter⟩ := h.run hv (by decide) hu
  cases y with
  | ok _ => cases hx
  | error why => exact hafter (hv.committed hplace hleads hattached hperform)

/-- rolling back leads out of the transaction at most -/
theorem Undisturbed.rollback (h : Undisturbed v location content p) {x : Except DbError Unit}
    (hu : execute L "ROLLBACK" p = (x, u)) : Undisturbed v location content u := by
  obtain ⟨c, y, c', t, -, hleads, hattached, hperform, -, -, rfl, hafter⟩ := h.run hv (by decide) hu
  exact hafter (hv.undone hplace hleads hattached hperform)

/-! ## Migrations -/

/-- **A migration leaves alone what is committed**, as long as its hook works in the transaction that was begun for
it. -/
theorem Undisturbed.migrate (h : Undisturbed v location content b) (hwithin : Within v location b)
    (hkeeps : KeepsWithin L v location hooks k version b) {x : Except DbError Unit}
    (hm : migrate L name hooks k version b = (x, m)) : Undisturbed v location content m := by
  have hran : ∀ {hook w y} {n : Handle C × S × W}, migrationHook hooks k version = some hook →
      runHook L hook (b.1, b.2.1, w) = (y, n) →
      Undisturbed v location content n ∧ (y = .ok () → Within v location n) := by
    intro hook w y n hhook hh
    obtain ⟨hissues, hleaves⟩ := hkeeps hook hhook w
    have hkept : Undisturbed v location content (runHook L hook (b.1, b.2.1, w)).2 :=
      Hook.run_keeps (I := Undisturbed v location content) (fun s q hs hq => hq.after hv hplace hs)
        (fun n q hq => hq.beside _) b.1.name _ hissues (h.beside w)
    rw [hh] at hkept hleaves
    exact ⟨hkept, hleaves⟩
  rcases migrate_cases hm with ⟨hook, w, e, hhook, hh, -⟩ | ⟨n, hwrite, hn⟩
  · exact (hran hhook hh).1
  · have hbefore : Undisturbed v location content n ∧ Within v location n := by
      rcases hn with rfl | ⟨hook, w, hhook, hh⟩
      · exact ⟨h, hwithin⟩
      · exact (hran hhook hh).imp_right fun hleaves => hleaves rfl
    have hwritten := hbefore.1.writeVersion hv hplace hbefore.2 version
    rw [hwrite] at hwritten
    exact hwritten

/-- **A migration that is not committed leaves the handle with the database as it was.** -/
theorem Migrates.undisturbed {x : Except DbError Unit × Handle C × S × W} {l : List Note}
    (hmigrates : Migrates L p k r x l) (h : Undisturbed v location content r) (hidle : ∃ c, r.1.connection = some c ∧ v.idle c (v.kept location r.2.1))
    (hkeeps : ∀ b, execute L "BEGIN" (bare r) = (.ok (), b) → KeepsWithin L v location p.1.hooks k p.1.version b)
    (hfailed : x.1 = .error e) (hquiet : ∀ n isOpen, Note.opened n isOpen ∉ l) :
    ∃ u, x = (.error e, close L u) ∧ Undisturbed v location content u := by
  have hbare : Undisturbed v location content (bare r) := ⟨h.located, h.isOpen, h.attached, h.stored⟩
  cases hmigrates with
  | unbegun hb =>
    cases hfailed
    exact ⟨_, rfl, (hbare.begin hv hplace hidle hb).1.given _⟩
  | @unmigrated b _ m _ hb hm hu =>
    cases hfailed
    obtain ⟨hbegun, hwithin⟩ := hbare.begin hv hplace hidle hb
    have hmigrated := hbegun.migrate hv hplace (hwithin rfl) (hkeeps _ hb) hm
    obtain ⟨-, y, n, w, hback, rfl⟩ := migrateOrUndo_failed hb hm hu
    exact ⟨_, rfl, ((hmigrated.rollback hv hplace hback).beside w).given _⟩
  | uncommitted hb hm hu =>
    cases hfailed
    obtain ⟨hbegun, hwithin⟩ := hbare.begin hv hplace hidle hb
    have hmigrated := hbegun.migrate hv hplace (hwithin rfl) (hkeeps _ hb) hm
    exact ⟨_, rfl, (hmigrated.refused hv hplace hu).given _⟩
  | migrated hb hm hu =>
    rw [afterOpening_quiet fun n isOpen hn => hquiet n isOpen (List.mem_append_right _ hn)] at hfailed
    cases hfailed

/-! ## Openings -/

omit [Reporting W] in
/-- a handle that has just connected is out of any transaction -/
theorem connected_undisturbed (hsits : Sits v location p) (hnone : p.1.connection = none)
    (hc : connected L p = (.ok (), q)) :
    Undisturbed v location (v.stored (v.kept location p.2.1)) (raised q) ∧
      ∃ c, q.1.connection = some c ∧ v.idle c (v.kept location q.2.1) := by
  obtain ⟨c, s, hconnect, rfl⟩ := connected_made hnone hc
  rw [hsits.located] at hconnect
  obtain ⟨-, hleads, hplaced⟩ := connect_kept hv hplace.ne_own hconnect
  obtain ⟨-, hstored, -, hidle⟩ := hplaced hplace
  exact ⟨⟨hsits.located, rfl, ⟨c, rfl, hleads c rfl, .inl (hidle c rfl)⟩, hstored⟩, c, rfl, hidle c rfl⟩

omit [Reporting W] in
/-- a version that cannot be read is left as it is -/
theorem Undisturbed.unread (h : Undisturbed v location content p)
    (hidle : ∃ c, p.1.connection = some c ∧ v.idle c (v.kept location p.2.1)) :
    Undisturbed v location content (storedVersion L p).2 := by
  refine h.request hv _ (fun _ htext => by cases htext) fun c hc hleads _ => ?_
  obtain ⟨d, hd, hidle⟩ := hidle
  rw [hc] at hd
  cases hd
  obtain ⟨hstored, hafter, -⟩ := hv.read hplace hleads hidle rfl
  exact ⟨hstored, .inl hafter⟩

/-- **An opening that fails before its hook after opening runs has not disturbed the database**: the handle is not
connected, or is closed without anything committed. -/
theorem openUp_undisturbed (hsits : Sits v location p) (hclosed : p.1.isOpen = false) (hnone : p.1.connection = none)
    (hkeeps : ∀ k r b, Reaches L p k r → execute L "BEGIN" (bare r) = (.ok (), b) →
      KeepsWithin L v location p.1.hooks k p.1.version b)
    (hfailed : (openUp L p).1 = .error e) (hquiet : ∀ n isOpen, Note.opened n isOpen ∉ hooksRun L p) :
    v.stored (v.kept location (openUp L p).2.2.1) = v.stored (v.kept location p.2.1) ∨
      ∃ u, openUp L p = (.error e, close L u) ∧ Undisturbed v location (v.stored (v.kept location p.2.1)) u := by
  have hopens : Opens L p (openUp L p) (hooksRun L p) := (openUp_opens hclosed).1
  have hreached : ∀ {k : Int} {r : Handle C × S × W}, Reaches L p k r →
      Undisturbed v location (v.stored (v.kept location p.2.1)) r ∧
        ∃ c, r.1.connection = some c ∧ v.idle c (v.kept location r.2.1) := by
    intro k r hreach
    obtain ⟨hstored, ⟨c, hc, hleads, hidle⟩, -⟩ := reach_kept hv hplace hsits.located hnone hreach
    exact ⟨⟨hreach.manned.location.trans hsits.located, hreach.manned.isOpen, ⟨c, hc, hleads, .inl hidle⟩, hstored⟩, c,
      hc, hidle⟩
  generalize hx : openUp L p = x at hopens hfailed
  generalize hooksRun L p = l at hopens hquiet
  cases hopens with
  | unconnected hc =>
    obtain ⟨-, s, hconnect, rfl⟩ := connected_failed hc
    rw [hsits.located] at hconnect
    exact .inl ((connect_kept hv hplace.ne_own hconnect).2.2 hplace).2.1
  | low hc _ =>
    cases hfailed
    exact .inr ⟨_, rfl, (connected_undisturbed hv hplace hsits hnone hc).1⟩
  | unread hc _ hread =>
    cases hfailed
    obtain ⟨hundisturbed, hidle⟩ := connected_undisturbed hv hplace hsits hnone hc
    have hunread := hundisturbed.unread hv hplace hidle
    rw [hread] at hunread
    exact .inr ⟨_, rfl, hunread⟩
  | downgrade hreach _ _ =>
    cases hfailed
    exact .inr ⟨_, rfl, (hreached hreach).1⟩
  | current hreach _ =>
    rw [afterOpening_quiet hquiet] at hfailed
    cases hfailed
  | older hreach _ _ hmigrates =>
    obtain ⟨hundisturbed, hidle⟩ := hreached hreach
    exact .inr (hmigrates.undisturbed hv hplace hundisturbed hidle (fun b hb => hkeeps _ _ b hreach hb) hfailed hquiet)

/-- what is not committed is forgotten with the connection, where others stay connected or the database is in a file -/
theorem Undisturbed.close (h : Undisturbed v location content u)
    (hstays : (∃ path, location = .file path) ∨ 1 ≤ v.holders (v.kept location (close L u).2.1)) :
    v.stored (v.kept location (Handle.close L u).2.1) = content := by
  obtain ⟨c, hc, hleads, hattached⟩ := h.attached
  obtain ⟨w, hclose⟩ := close_of_some (L := L) (fun he => hplace.ne_own (h.located.symm.trans he)) hc
  rw [hclose] at hstays ⊢
  have hleft := hv.left u.2.1 hplace hleads
  refine (hv.ended hplace hleads hattached (hstays.imp_right fun hone => ?_)).trans h.stored
  dsimp only at hone
  omega

/-- **An opening that fails before its hook after opening runs leaves the database as it was**, where others are
connected to it or it is in a file. -/
theorem openUp_stored (hsits : Sits v location p) (hclosed : p.1.isOpen = false) (hnone : p.1.connection = none)
    (hasks : p.1.hooks.Ask fun s => ¬ v.reaches s.text)
    (hkeeps : ∀ k r b, Reaches L p k r → execute L "BEGIN" (bare r) = (.ok (), b) →
      KeepsWithin L v location p.1.hooks k p.1.version b)
    (hothers : (∃ path, location = .file path) ∨ 1 ≤ v.holders (v.kept location p.2.1))
    (hfailed : (openUp L p).1 = .error e) (hquiet : ∀ n isOpen, Note.opened n isOpen ∉ hooksRun L p) :
    v.stored (v.kept location (openUp L p).2.2.1) = v.stored (v.kept location p.2.1) := by
  rcases openUp_undisturbed hv hplace hsits hclosed hnone hkeeps hfailed hquiet with hsame | ⟨u, hrun, hundisturbed⟩
  · exact hsame
  · rw [hrun]
    refine hundisturbed.close hv hplace (hothers.imp_right fun hone => ?_)
    -- all others are still connected when the handle is closed again
    have hcounts := (openUp_minds hv hplace.ne_own hasks hsits).2.2 (v.holders (v.kept location p.2.1))
      (fun _ => by rw [hnone]; rfl) hplace
    rw [hrun] at hcounts
    dsimp only at hcounts ⊢
    omega

end

end FluentSql.Embedded.Handle
