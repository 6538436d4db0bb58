import FluentSql.Proofs.HandleRelations
/-!
What handles of the embedded engine keep. A request changes the connection of its handle and what the engine keeps,
and statements are reported; nothing else of the handle changes, and the world outside no further than reports do
(`Steady`). A lifecycle is made of requests, with the hooks out of the handle and back again, so opening changes the
connection and the flag only (`openUp_kept`), and the flag tells whether it succeeded (`openUp_flag`). What a provider
opens carries the name that was asked for (`openDatabase_opened`).
-/

namespace FluentSql.Embedded.Handle

variable {C S W A α : Type} {L : Library C S}

/-- the same handle but for its connection, and the same view of the outside -/
structure Steady (view : W → A) (p q : Handle C × S × W) : Prop where
  handle : q.1 = { p.1 with connection := q.1.connection }
  outside : view q.2.2 = view p.2.2

/-- the same handle but for its connection and its flag, and the same view of the outside -/
structure Kept (view : W → A) (p q : Handle C × S × W) : Prop where
  handle : q.1 = { p.1 with connection := q.1.connection, isOpen := q.1.isOpen }
  outside : view q.2.2 = view p.2.2

section

variable {view : W → A} {p q : Handle C × S × W}

theorem Steady.stepwise (view : W → A) : Stepwise (Steady (C := C) (S := S) view) where
  refl _ := ⟨rfl, rfl⟩
  trans first second := ⟨by rw [second.handle, first.handle], second.outside.trans first.outside⟩

theorem Kept.stepwise (view : W → A) : Stepwise (Kept (C := C) (S := S) view) where
  refl _ := ⟨rfl, rfl⟩
  trans first second := ⟨by rw [second.handle, first.handle], second.outside.trans first.outside⟩

theorem Steady.isOpen (h : Steady view p q) : q.1.isOpen = p.1.isOpen := by rw [h.handle]

theorem Steady.kept (h : Steady view p q) : Kept view p q := ⟨by rw [h.handle], h.outside⟩

theorem Steady.around (h : Steady view (bare p) q) : Steady view p (given p.1.hooks q) := by
  refine ⟨?_, h.outside⟩
  unfold given
  rw [h.handle]
  rfl

theorem Kept.around (h : Kept view (bare p) q) : Kept view p (given p.1.hooks q) := by
  refine ⟨?_, h.outside⟩
  unfold given
  rw [h.handle]
  rfl

theorem Kept.name (h : Kept view p q) : q.1.name = p.1.name := by rw [h.handle]

end

variable [Reporting W]

/-- worlds of which reports and notes do not change the view -/
structure Overlooks (view : W → A) : Prop where
  emit : ∀ e w, view (Reporting.emit e w) = view w
  note : ∀ n w, view (Reporting.note n w) = view w

theorem overlooks_nothing : Overlooks fun _ : W => () := ⟨fun _ _ => rfl, fun _ _ => rfl⟩

section

variable {view : W → A} (hview : Overlooks view)

/-! ## Statements -/

omit [Reporting W] in
theorem request_steady (r : Request α) : (request L r : Act C S W α).Respects (Steady view) := by
  intro p
  unfold request
  split
  · exact ⟨rfl, rfl⟩
  · exact ⟨rfl, rfl⟩

include hview

theorem steady_allows : Allows L (fun _ => True) (Steady (W := W) view) where
  stepwise := Steady.stepwise view
  emit e p := ⟨rfl, hview.emit e p.2.2⟩
  note n p := ⟨rfl, hview.note n p.2.2⟩
  request r _ _ _ := request_steady r
  own _ _ := request_steady _
  readVersion := request_steady _
  writeVersion _ := request_steady _
  around _ _ := Steady.around

theorem kept_allows : Allows L (fun _ => True) (Kept (W := W) view) where
  stepwise := Kept.stepwise view
  emit e p := ⟨rfl, hview.emit e p.2.2⟩
  note n p := ⟨rfl, hview.note n p.2.2⟩
  request r _ _ _ p := (request_steady r p).kept
  own _ _ p := (request_steady _ p).kept
  readVersion p := (request_steady _ p).kept
  writeVersion _ p := (request_steady _ p).kept
  around _ _ := Kept.around

theorem channel_steady : (channel L : Channel (Handle C × S × W)).Respects (Steady view) :=
  (steady_allows hview).statements

/-! ## Opening -/

omit hview [Reporting W] in
theorem connected_steady : (connected L : Act C S W Unit).Respects (Steady view) := by
  intro p
  unfold connected
  split
  · exact ⟨rfl, rfl⟩
  · split
    · exact ⟨rfl, rfl⟩
    · exact ⟨rfl, rfl⟩

theorem close_kept (p : Handle C × S × W) : Kept view p (close L p) := by
  unfold close
  split
  · exact ⟨rfl, rfl⟩
  · exact ⟨rfl, rfl⟩
  · dsimp only
    split
    · exact ⟨rfl, rfl⟩
    · exact ⟨rfl, hview.emit _ p.2.2⟩

omit hview in
theorem close_closes (p : Handle C × S × W) : (close L p).1.isOpen = false := by
  unfold close
  split
  · rfl
  · rfl
  · dsimp only
    split
    · rfl
    · rfl

omit hview [Reporting W] in
theorem release_kept (p : Handle C × S × W) : Kept view p (release L p) := by
  unfold release
  split
  · exact ⟨rfl, rfl⟩
  · exact ⟨rfl, rfl⟩

omit hview [Reporting W] in
/-- looking for the names of databases changes nothing -/
theorem siblings_state (p : Handle C × S × W) : (siblings L p).2 = p := by
  unfold siblings
  split
  · rfl
  · rfl

/-- what starting does once there is a connection: the lifecycle runs on the open handle, which a failure closes -/
theorem start_connected {p q : Handle C × S × W} (hc : connected L p = (.ok (), q)) :
    ∃ r, Steady view ({ q.1 with isOpen := true }, q.2) r ∧
      (start L p = (.ok (), r) ∨ ∃ e, start L p = (.error e, close L r)) := by
  have hrun := (steady_allows (L := L) hview).runLifecycle (p := ({ q.1 with isOpen := true }, q.2))
    (Hooks.ask_any _)
  refine ⟨_, hrun, ?_⟩
  simp only [start, Task.bind_eq, hc, Task.change, Task.attempt_eq]
  rcases runLifecycle L ({ q.1 with isOpen := true }, q.2) with ⟨e | _, r⟩
  · exact .inr ⟨e, rfl⟩
  · exact .inl rfl

/-- a closed handle is open afterwards exactly if starting answered -/
theorem start_flag {p : Handle C × S × W} (ho : p.1.isOpen = false) :
    (start L p).2.1.isOpen = (start L p).1.toBool := by
  have hconnected : Steady view p (connected L p).2 := connected_steady p
  rcases hc : connected L p with ⟨e | _, q⟩
  · rw [hc] at hconnected
    simp only [start, Task.bind_eq, hc]
    exact hconnected.isOpen.trans ho
  · obtain ⟨r, hrun, hs | ⟨e, hs⟩⟩ := start_connected hview hc
    · rw [hs]
      exact hrun.isOpen
    · rw [hs]
      exact close_closes r

/-- **Opening changes nothing but the connection, the flag and what the engine keeps**, apart from reports. -/
theorem openUp_kept : (openUp L : Act C S W Unit).Respects (Kept view) := fun p =>
  (kept_allows hview).openUp (Hooks.ask_any _) (connected_steady p).kept (fun _ => ⟨rfl, rfl⟩) (close_kept hview)

/-- **A handle is open after opening exactly if opening answered or it was open before.** -/
theorem openUp_flag (p : Handle C × S × W) :
    (openUp L p).2.1.isOpen = ((openUp L p).1.toBool || p.1.isOpen) := by
  unfold openUp
  rw [Task.bind_eq, Task.read]
  dsimp only
  cases ho : p.1.isOpen with
  | true => exact ho
  | false => exact (start_flag hview ho).trans (Bool.or_false _).symm

theorem isOpen_of_openUp {p : Handle C × S × W} (hopen : (openUp L p).1 = .ok ()) :
    (openUp L p).2.1.isOpen = true := by
  rw [openUp_flag hview, hopen]
  rfl

end

end FluentSql.Embedded.Handle

namespace FluentSql.Embedded.Provider

variable {C S W : Type} [Reporting W] {L : Library C S}

section

variable {A : Type} {view : W → A} (hview : Handle.Overlooks view) (p : Provider) (name : String) (o : OpenOptions)
  (q : Depot C S × W)

include hview

/-- the handle that a provider makes for a name -/
def newHandle (p : Provider) (name : String) (o : OpenOptions) : Handle C :=
  ((Handle.atLocation name (p.locationOf name)).withOptions o).withStatementLog p.log

omit hview [Reporting W] in
theorem acquire_outside : (acquire L p name q).2.2 = q.2 := by
  unfold acquire
  split
  · rfl
  · split
    · rfl
    · split
      · rfl
      · rfl

omit hview in
/-- a provider opens a new handle, unless the name is blank or cannot be kept alive -/
theorem openDatabase_eq : p.openDatabase L name o q =
    if Text.blank name then (.error (.validation .blankDatabaseName), q)
    else match acquire L p name q with
      | (.error e, r) => (.error e, r)
      | (.ok (), r) =>
        let y := Handle.openUp L (newHandle p name o, r.1.engine, Reporting.emit (opening name o.version) r.2)
        (y.1.map fun _ => y.2.1, { r.1 with engine := y.2.2.1 }, y.2.2.2) := by
  unfold openDatabase
  split
  · rfl
  · rw [Task.bind_eq]
    rcases acquire L p name q with ⟨e | _, r⟩
    · rfl
    · rfl

/-- a provider refuses a blank name at once, or cannot keep the name, or it makes a handle and opens it -/
theorem openDatabase_cases :
    (∃ e r, p.openDatabase L name o q = (.error e, r) ∧ r.2 = q.2) ∨
    ∃ (x : Except DbError Unit) (h : Handle C) (d : Depot C S) (w : W),
      Handle.Kept view (newHandle p name o, (acquire L p name q).2.1.engine, q.2) (h, d.engine, w) ∧
        (x = .ok () → h.isOpen = true) ∧ p.openDatabase L name o q = (x.map fun _ => h, d, w) := by
  rw [openDatabase_eq]
  split
  · exact .inl ⟨_, _, rfl, rfl⟩
  · have houtside := acquire_outside (L := L) p name q
    rcases hacquire : acquire L p name q with ⟨e | _, r⟩
    · rw [hacquire] at houtside
      exact .inl ⟨e, r, rfl, houtside⟩
    · rw [hacquire] at houtside
      have hreport := Task.respects_report (Handle.kept_allows (L := L) hview).emit (opening name o.version)
      have hkept := hreport.bind (Handle.Kept.stepwise view) (fun _ => Handle.openUp_kept (L := L) hview)
        (newHandle p name o, r.1.engine, r.2)
      let y := Handle.openUp L (newHandle p name o, r.1.engine, Reporting.emit (opening name o.version) r.2)
      rw [← houtside]
      exact .inr ⟨y.1, y.2.1, { r.1 with engine := y.2.2.1 }, y.2.2.2, hkept,
        fun hx => Handle.isOpen_of_openUp hview hx, rfl⟩

/-- opening a database leaves the outside as it is, whether it opens or not -/
theorem openDatabase_outside : view (p.openDatabase L name o q).2.2 = view q.2 := by
  rcases openDatabase_cases (L := L) hview p name o q with ⟨e, r, hrun, hr⟩ | ⟨x, h, d, w, hkept, -, hrun⟩
  · rw [hrun]
    exact congrArg view hr
  · rw [hrun]
    exact hkept.outside

omit hview [Reporting W] in
/-- looking for the names of databases changes nothing -/
theorem listNames_state : (p.listNames L q).2 = q := by
  unfold listNames
  split
  · rfl
  · rfl

/-- dropping a database reports it -/
theorem dropDatabase_outside : view (p.dropDatabase L name q).2.2 = view q.2 := by
  unfold dropDatabase
  cases p.shelf with
  | directory dir =>
    dsimp only [removeDatabase]
    split
    · split
      · rfl
      · split
        · rfl
        · exact hview.emit _ q.2
    · rfl
  | memory number =>
    dsimp only [letGo]
    split
    · rfl
    · rfl

end

/-- **What a provider opens carries the name that was asked for, and is open.** -/
theorem openDatabase_opened (p : Provider) {name : String} {o : OpenOptions} {q r : Depot C S × W} {h : Handle C}
    (hopen : p.openDatabase L name o q = (.ok h, r)) : h.name = name ∧ h.isOpen = true := by
  rcases openDatabase_cases (L := L) (Handle.overlooks_nothing (W := W)) p name o q with
    ⟨e, _, hrun, -⟩ | ⟨x, h₀, d, w, hkept, hflag, hrun⟩
  · rw [hrun] at hopen
    cases hopen
  · rw [hrun] at hopen
    cases x with
    | error e => cases hopen
    | ok _ =>
      cases hopen
      exact ⟨hkept.name, hflag rfl⟩

end FluentSql.Embedded.Provider
