import FluentSql.Proofs.HostOwnership
import FluentSql.Proofs.SeparateHandles
/-!
The world with rehearsed and embedded databases, up to the list of calls that it keeps (`Host.Alike`). No call reads
that list, so none tells apart two worlds that differ in nothing else (`Host.blind`): what happens outside of a handle
of the embedded engine is only told to the outside, never asked for (`Embedded.Handle.openUp_outside`).

What is left after a handle is gone does not depend on whether it was closed before (`Host.letGo_alike`), and handles
with seats of their own end in either order in a sound world (`Host.without_comm`). So the laws of separate handles
hold of it (`Host.separates`).
-/

namespace FluentSql

variable {W α : Type}

/-! ## Embedded handles -/

namespace Embedded.Handle

variable {C S : Type} {L : Library C S}

/-- the same handle and the same of what the engine keeps, and related worlds outside -/
abbrev Outside (R : W → W → Prop) : Handle C × S × W → Handle C × S × W → Prop := Beside (Beside R)

section

variable {R : W → W → Prop}

theorem request_outside (r : Request α) : (request L r : Act C S W α).Agrees (Outside R) (request L r) := by
  rintro ⟨h, s, v⟩ ⟨_, _, w⟩ ⟨rfl, rfl, hR⟩
  unfold request
  dsimp only
  split
  · exact ⟨rfl, rfl, rfl, hR⟩
  · exact ⟨rfl, rfl, rfl, hR⟩

theorem lastId_outside : (lastId L : Act C S W Int64).Agrees (Outside R) (lastId L) := by
  rintro ⟨h, s, v⟩ ⟨_, _, w⟩ ⟨rfl, rfl, hR⟩
  unfold lastId
  dsimp only
  split
  · exact ⟨rfl, rfl, rfl, hR⟩
  · exact ⟨rfl, rfl, rfl, hR⟩

theorem connected_outside : (connected L : Act C S W Unit).Agrees (Outside R) (connected L) := by
  rintro ⟨h, s, v⟩ ⟨_, _, w⟩ ⟨rfl, rfl, hR⟩
  unfold connected
  dsimp only
  cases h.connection with
  | some c => exact ⟨rfl, rfl, rfl, hR⟩
  | none =>
    rcases connect L h.location s with ⟨e | c, t⟩
    · exact ⟨rfl, rfl, rfl, hR⟩
    · exact ⟨rfl, rfl, rfl, hR⟩

theorem release_outside {p q : Handle C × S × W} (h : Outside R p q) : Outside R (release L p) (release L q) := by
  obtain ⟨h, s, v⟩ := p
  obtain ⟨_, _, w⟩ := q
  obtain ⟨rfl, rfl, hR⟩ := h
  unfold release
  cases h.connection with
  | some c => exact ⟨rfl, rfl, hR⟩
  | none => exact ⟨rfl, rfl, hR⟩

theorem siblings_outside : (siblings L : Act C S W (List String)).Agrees (Outside R) (siblings L) := by
  rintro ⟨h, s, v⟩ ⟨_, _, w⟩ ⟨rfl, rfl, hR⟩
  unfold siblings
  dsimp only
  split
  · exact ⟨rfl, rfl, rfl, hR⟩
  · exact ⟨rfl, rfl, rfl, hR⟩

variable [Reporting W] (hemit : ∀ e v w, R v w → R (Reporting.emit e v) (Reporting.emit e w))

include hemit

theorem close_outside {p q : Handle C × S × W} (h : Outside R p q) : Outside R (close L p) (close L q) := by
  obtain ⟨h, s, v⟩ := p
  obtain ⟨_, _, w⟩ := q
  obtain ⟨rfl, rfl, hR⟩ := h
  unfold close
  dsimp only
  split
  · exact ⟨rfl, rfl, hR⟩
  · exact ⟨rfl, rfl, hR⟩
  · split
    · exact ⟨rfl, rfl, hR⟩
    · exact ⟨rfl, rfl, hemit _ v w hR⟩

variable (hnote : ∀ n v w, R v w → R (Reporting.note n v) (Reporting.note n w))

include hnote

theorem corresponds_outside : Corresponds L (fun _ => True) (Outside R) where
  handle p q h := by rw [h.1]
  emit e _ _ h := ⟨h.1, h.2.1, hemit e _ _ h.2.2⟩
  note n _ _ h := ⟨h.1, h.2.1, hnote n _ _ h.2.2⟩
  given hooks _ _ h := ⟨congrArg (fun handle : Handle C => { handle with hooks := hooks }) h.1, h.2⟩
  own _ _ := trivial
  request r _ := request_outside r
  lastId := lastId_outside

theorem channel_outside : (channel L : Channel (Handle C × S × W)).Agrees (Outside R) (channel L) where
  execute sql := (corresponds_outside hemit hnote).channel.execute sql trivial
  query q := (corresponds_outside hemit hnote).channel.query q trivial
  insert table values := (corresponds_outside hemit hnote).channel.insert table values trivial
  update table values condition args :=
    (corresponds_outside hemit hnote).channel.update table values condition args trivial
  delete table condition args := (corresponds_outside hemit hnote).channel.delete table condition args trivial

/-- **The outside is only told.** What opening does to a handle and to what the engine keeps does not depend on it. -/
theorem openUp_outside : (openUp L : Act C S W Unit).Agrees (Outside R) (openUp L) := fun p q h =>
  (corresponds_outside hemit hnote).openUp h (Hooks.ask_any _) (fun _ => connected_outside p q h)
    (fun _ _ h => ⟨congrArg (fun handle : Handle C => { handle with isOpen := true }) h.1, h.2⟩)
    fun _ _ h => close_outside hemit h

end

end Embedded.Handle

/-! ## Embedded providers -/

namespace Embedded.Provider

variable {C S : Type} {L : Library C S} {R : W → W → Prop}

theorem acquire_beside (p : Provider) (name : String) :
    (acquire L p name : Task (Depot C S × W) Unit).Agrees (Beside R) (acquire L p name) := by
  rintro ⟨d, v⟩ ⟨_, w⟩ ⟨rfl, hR⟩
  unfold acquire
  cases p.shelf with
  | directory path => exact ⟨rfl, rfl, hR⟩
  | memory number =>
    dsimp only
    cases d.keeper? number name with
    | some c => exact ⟨rfl, rfl, hR⟩
    | none =>
      rcases L.openAddress (Location.address number (keyOf name)) d.engine with ⟨e | c, s⟩
      · exact ⟨rfl, rfl, hR⟩
      · exact ⟨rfl, rfl, hR⟩

theorem listNames_beside (p : Provider) :
    (p.listNames L : Task (Depot C S × W) (List String)).Agrees (Beside R) (p.listNames L) := by
  rintro ⟨d, v⟩ ⟨_, w⟩ ⟨rfl, hR⟩
  unfold listNames
  cases p.shelf with
  | directory path => exact ⟨rfl, rfl, hR⟩
  | memory number => exact ⟨rfl, rfl, hR⟩

variable [Reporting W] (hemit : ∀ e v w, R v w → R (Reporting.emit e v) (Reporting.emit e w))

include hemit

theorem openDatabase_beside (hnote : ∀ n v w, R v w → R (Reporting.note n v) (Reporting.note n w)) (p : Provider)
    (name : String) (o : OpenOptions) :
    (p.openDatabase L name o : Task (Depot C S × W) (Handle C)).Agrees (Beside R) (p.openDatabase L name o) := by
  unfold openDatabase
  split
  · exact Task.agrees_fail _
  · refine (acquire_beside p name).bind fun _ => ?_
    rintro ⟨d, v⟩ ⟨_, w⟩ ⟨rfl, hR⟩
    have hrun := ((Handle.corresponds_outside (L := L) hemit hnote).report (opening name o.version)).bind fun _ =>
      Handle.openUp_outside (L := L) hemit hnote
    obtain ⟨hanswer, hhandle, hengine, hafter⟩ := hrun (newHandle p name o, d.engine, v) (_, _, w) ⟨rfl, rfl, hR⟩
    refine ⟨?_, ?_, hafter⟩
    · exact congrArg₂ (fun (x : Except DbError Unit) (h : Handle C) => x.map fun _ => h) hanswer hhandle
    · exact congrArg (fun s => { d with engine := s }) hengine

theorem dropDatabase_beside (p : Provider) (name : String) :
    (p.dropDatabase L name : Task (Depot C S × W) Bool).Agrees (Beside R) (p.dropDatabase L name) := by
  rintro ⟨d, v⟩ ⟨_, w⟩ ⟨rfl, hR⟩
  unfold dropDatabase
  cases p.shelf with
  | memory number =>
    dsimp only [letGo]
    cases d.keeper? number name with
    | none => exact ⟨rfl, rfl, hR⟩
    | some c => exact ⟨rfl, rfl, hR⟩
  | directory dir =>
    dsimp only [removeDatabase]
    split
    · rcases L.removeFile (Text.Path.join dir name) d.engine with ⟨e | _, s⟩
      · exact ⟨rfl, rfl, hR⟩
      · dsimp only
        rcases removeThose L (sidecarEndings.map fun e => Text.Path.join dir (name ++ e)) s with ⟨e | _, t⟩
        · exact ⟨rfl, rfl, hR⟩
        · exact ⟨rfl, rfl, hemit _ v w hR⟩
    · exact ⟨rfl, rfl, hR⟩

end Embedded.Provider

/-! ## The list of calls -/

namespace Rehearsal.Stage

/-- the same stage but for the calls that were recorded -/
structure Alike (s t : Stage) : Prop where
  script : s.script = t.script
  databases : s.databases = t.databases
  nextRowId : s.nextRowId = t.nextRowId

theorem alike_equivalence : Equivalence Alike where
  refl _ := ⟨rfl, rfl, rfl⟩
  symm h := ⟨h.script.symm, h.databases.symm, h.nextRowId.symm⟩
  trans first second := ⟨first.script.trans second.script, first.databases.trans second.databases,
    first.nextRowId.trans second.nextRowId⟩

theorem Alike.heard {s t : Stage} (h : Alike s t) (c d : Call) : Alike (s.heard c) (t.heard d) :=
  ⟨h.script, h.databases, h.nextRowId⟩

/-- a call does not depend on the calls before it -/
theorem perform_alike (c : Call) (queue : Script → List (Cue α)) (put : Script → List (Cue α) → Script)
    {standard : Task Stage α} (hstandard : standard.Agrees Alike standard) :
    (perform c queue put standard).Agrees Alike (perform c queue put standard) := by
  intro s t h
  have hqueue : queue (t.heard c).script = queue (s.heard c).script := congrArg queue h.script.symm
  have hleft : ∀ rest, Alike { s.heard c with script := put (s.heard c).script rest }
      { t.heard c with script := put (t.heard c).script rest } := fun rest =>
    ⟨congrArg (put · rest) h.script, h.databases, h.nextRowId⟩
  unfold perform
  dsimp only
  rw [hqueue]
  rcases next (queue (s.heard c).script) with ⟨_ | e | a, rest⟩
  · exact hstandard _ _ (hleft rest)
  · exact ⟨rfl, hleft rest⟩
  · exact ⟨rfl, hleft rest⟩

theorem channel_alike (name : String) : (channel name).Agrees Alike (channel name) where
  execute _ := perform_alike _ _ _ (Task.agrees_pure ())
  query _ := perform_alike _ _ _ (Task.agrees_pure _)
  insert _ _ := perform_alike _ _ _ fun _ _ h =>
    ⟨congrArg Except.ok h.nextRowId, h.script, h.databases, congrArg (· + 1) h.nextRowId⟩
  update _ _ _ _ := perform_alike _ _ _ (Task.agrees_pure _)
  delete _ _ _ := perform_alike _ _ _ (Task.agrees_pure _)

theorem sortedNames_alike : (Task.read sortedNames).Agrees Alike (Task.read sortedNames) := fun s t h => by
  have hnames : s.sortedNames = t.sortedNames := by
    unfold sortedNames
    rw [h.databases]
  exact ⟨congrArg Except.ok hnames, h⟩

theorem openDatabase_alike (name : String) (o : OpenOptions) :
    (openDatabase name o).Agrees Alike (openDatabase name o) :=
  perform_alike _ _ _ fun s t h => by
    rw [h.databases]
    refine ⟨rfl, ?_⟩
    dsimp only
    split
    · exact h
    · exact ⟨h.script, rfl, h.nextRowId⟩

theorem dropDatabase_alike (name : String) : (dropDatabase name).Agrees Alike (dropDatabase name) :=
  perform_alike _ _ _ fun s t h => by
    rw [h.databases]
    exact ⟨rfl, h.script, rfl, h.nextRowId⟩

end Rehearsal.Stage

namespace Host

open Engine Rehearsal Embedded Storage

/-- the same world but for the list of calls -/
structure Alike (v w : Host) : Prop where
  events : v.events = w.events
  stage : v.stage.Alike w.stage
  seats : v.seats = w.seats
  storage : v.storage = w.storage
  keepers : v.keepers = w.keepers

theorem alike_equivalence : Equivalence Alike where
  refl w := ⟨rfl, Stage.alike_equivalence.refl w.stage, rfl, rfl, rfl⟩
  symm h := ⟨h.events.symm, Stage.alike_equivalence.symm h.stage, h.seats.symm, h.storage.symm, h.keepers.symm⟩
  trans first second := ⟨first.events.trans second.events, Stage.alike_equivalence.trans first.stage second.stage,
    first.seats.trans second.seats, first.storage.trans second.storage, first.keepers.trans second.keepers⟩

variable {v w : Host}

theorem Alike.emit (h : Alike v w) (e : Event) : Alike (Reporting.emit e v) (Reporting.emit e w) :=
  ⟨congrArg (e :: ·) h.events, h.stage, h.seats, h.storage, h.keepers⟩

theorem Alike.note (h : Alike v w) (n : Note) : Alike (Reporting.note n v) (Reporting.note n w) :=
  ⟨h.events, h.stage.heard _ _, h.seats, h.storage, h.keepers⟩

theorem Alike.seat (h : Alike v w) (ref : HandleRef) : v.seat ref = w.seat ref := by
  unfold Host.seat
  rw [h.seats]

theorem Alike.setSeat (h : Alike v w) (ref : HandleRef) (s : Seat) : Alike (v.setSeat ref s) (w.setSeat ref s) :=
  ⟨h.events, h.stage, congrArg (·.set ref.id s) h.seats, h.storage, h.keepers⟩

theorem Alike.withStorage (h : Alike v w) (s : Storage) : Alike { v with storage := s } { w with storage := s } :=
  ⟨h.events, h.stage, h.seats, rfl, h.keepers⟩

theorem Alike.outside (h : Alike v w) (handle : EngineHandle) :
    Handle.Outside Alike (handle, v.storage, v) (handle, w.storage, w) := ⟨rfl, h.storage, h⟩

/-! ## No call tells them apart -/

theorem onStage_alike {t : Task Stage α} (ht : t.Agrees Stage.Alike t) : (onStage t).Agrees Alike (onStage t) :=
  fun v w h =>
    have hrun := ht v.stage w.stage h.stage
    ⟨hrun.1, h.events, hrun.2, h.seats, h.storage, h.keepers⟩

theorem seatNew_alike (name : String) (s : Seat) : (seatNew name s).Agrees Alike (seatNew name s) := fun _ _ h =>
  ⟨congrArg (fun seats : List Seat => Except.ok (HandleRef.mk seats.length name)) h.seats,
    h.events, h.stage, congrArg (· ++ [s]) h.seats, h.storage, h.keepers⟩

theorem onEmbedded_alike (ref : HandleRef) (handle : EngineHandle) {t : Act α}
    (ht : t.Agrees (Handle.Outside Alike) t) :
    (onEmbedded ref handle t).Agrees Alike (onEmbedded ref handle t) := by
  intro v w h
  obtain ⟨hanswer, hhandle, hstorage, hafter⟩ := ht _ _ (h.outside handle)
  refine ⟨hanswer, ?_⟩
  simp only [onEmbedded, hhandle, hstorage]
  exact (hafter.withStorage _).setSeat ref _

theorem changeEmbedded_alike (ref : HandleRef) (handle : EngineHandle)
    {f : EngineHandle × Storage × Host → EngineHandle × Storage × Host}
    (hf : ∀ {p q}, Handle.Outside Alike p q → Handle.Outside Alike (f p) (f q)) (h : Alike v w) :
    Alike (changeEmbedded f ref handle v) (changeEmbedded f ref handle w) := by
  obtain ⟨hhandle, hstorage, hafter⟩ := hf (h.outside handle)
  simp only [changeEmbedded, hhandle, hstorage]
  exact (hafter.withStorage _).setSeat ref _

theorem onDepot_alike {t : Task (Depot Connection Storage × Host) α} (ht : t.Agrees (Beside Alike) t) :
    (onDepot t).Agrees Alike (onDepot t) := by
  intro v w h
  obtain ⟨hanswer, hdepot, hafter⟩ := ht (⟨v.storage, v.keepers⟩, v) (⟨w.storage, w.keepers⟩, w)
    ⟨by rw [h.storage, h.keepers], h⟩
  refine ⟨hanswer, ?_⟩
  simp only [onDepot, hdepot]
  exact ⟨hafter.events, hafter.stage, hafter.seats, rfl, rfl⟩

theorem dispatch_alike (ref : HandleRef) {rehearsed : Task Host α} {embedded : Act α}
    (hr : rehearsed.Agrees Alike rehearsed) (he : embedded.Agrees (Handle.Outside Alike) embedded) :
    (dispatch ref rehearsed embedded).Agrees Alike (dispatch ref rehearsed embedded) := by
  intro v w h
  simp only [dispatch, h.seat ref]
  cases w.seat ref with
  | rehearsed _ => exact hr v w h
  | embedded handle => exact onEmbedded_alike ref handle he v w h
  | vacant => exact ⟨rfl, h⟩

theorem closeHandle_alike (ref : HandleRef) (h : Alike v w) : Alike (closeHandle ref v) (closeHandle ref w) := by
  simp only [closeHandle, h.seat ref]
  cases w.seat ref with
  | rehearsed _ =>
    have hheard : Alike { v with stage := v.stage.heard (.closeHandle ref.name) }
        { w with stage := w.stage.heard (.closeHandle ref.name) } := ⟨h.events, h.stage.heard _ _, h.seats, h.storage, h.keepers⟩
    exact hheard.setSeat ref _
  | embedded handle => exact changeEmbedded_alike ref handle (Handle.close_outside fun e _ _ h => h.emit e) h
  | vacant => exact h

theorem release_alike (ref : HandleRef) (h : Alike v w) : Alike (release ref v) (release ref w) := by
  simp only [release, h.seat ref]
  cases w.seat ref with
  | embedded handle =>
    exact (changeEmbedded_alike ref handle Handle.release_outside h).setSeat ref _
  | _ => exact h.setSeat ref _

theorem channel_alike (ref : HandleRef) : (channel ref).Agrees Alike (channel ref) :=
  have hr := Stage.channel_alike ref.name
  have he := Handle.channel_outside (L := library) (R := Alike) (fun e _ _ h => h.emit e) fun n _ _ h => h.note n
  { execute := fun sql => dispatch_alike ref (onStage_alike (hr.execute sql)) (he.execute sql)
    query := fun q => dispatch_alike ref (onStage_alike (hr.query q)) (he.query q)
    insert := fun table values =>
      dispatch_alike ref (onStage_alike (hr.insert table values)) (he.insert table values)
    update := fun table values condition args =>
      dispatch_alike ref (onStage_alike (hr.update table values condition args)) (he.update table values condition args)
    delete := fun table condition args =>
      dispatch_alike ref (onStage_alike (hr.delete table condition args)) (he.delete table condition args) }

theorem openHandle_alike (ref : HandleRef) : (openHandle ref).Agrees Alike (openHandle ref) := by
  have hrehearsed := onStage_alike (Stage.perform_alike (.openHandle ref.name) Script.opens
    (fun s q => { s with opens := q }) (Task.agrees_pure ()))
  exact dispatch_alike ref
    (hrehearsed.bind fun _ => Task.agrees_change fun _ _ h => h.setSeat ref _)
    (Handle.openUp_outside (fun e _ _ h => h.emit e) fun n _ _ h => h.note n)

theorem siblings_alike (ref : HandleRef) : (siblings ref).Agrees Alike (siblings ref) :=
  dispatch_alike ref (onStage_alike (Stage.perform_alike _ _ _ Stage.sortedNames_alike)) Handle.siblings_outside

theorem openDatabase_alike (source : Source) (name : String) (o : OpenOptions) :
    (openDatabase source name o).Agrees Alike (openDatabase source name o) := by
  cases source with
  | script => exact (onStage_alike (Stage.openDatabase_alike name o)).bind fun _ => seatNew_alike _ _
  | embedded p =>
    have hopen := p.openDatabase_beside (L := library) (R := Alike) (fun e _ _ h => h.emit e) (fun n _ _ h => h.note n) name o
    exact (onDepot_alike hopen).bind fun handle => seatNew_alike _ _

theorem listNames_alike (source : Source) : (listNames source).Agrees Alike (listNames source) := by
  cases source with
  | script => exact onStage_alike (Stage.perform_alike _ _ _ Stage.sortedNames_alike)
  | embedded p => exact onDepot_alike p.listNames_beside

theorem dropDatabase_alike (source : Source) (name : String) :
    (dropDatabase source name).Agrees Alike (dropDatabase source name) := by
  cases source with
  | script => exact onStage_alike (Stage.dropDatabase_alike name)
  | embedded p => exact onDepot_alike (p.dropDatabase_beside (fun e _ _ h => h.emit e) name)

/-- **No call reads the list of calls.** -/
theorem blind : backend.Blind Alike where
  report e _ _ h := h.emit e
  note n _ _ h := h.note n
  isOpen ref v w h := by
    show isOpen ref v = isOpen ref w
    rw [isOpen, isOpen, h.seat ref]
  openHandle := openHandle_alike
  closeHandle ref _ _ h := closeHandle_alike ref h
  release ref _ _ h := release_alike ref h
  channel := channel_alike
  siblings := siblings_alike
  openDatabase := openDatabase_alike
  listNames := listNames_alike
  dropDatabase := dropDatabase_alike

/-! ## Letting go -/

/-- the world after a handle is gone: its seat is vacant, and its connection has ended -/
def without (ref : HandleRef) (w : Host) : Host :=
  { w with
    seats := w.seats.set ref.id .vacant
    storage := (connectionAt (w.seat ref)).elim w.storage fun c => w.storage.disconnect c }

theorem release_eq (ref : HandleRef) (w : Host) : release ref w = without ref w := by
  unfold release without
  cases w.seat ref with
  | embedded handle =>
    simp only [changeEmbedded, setSeat, Handle.release, connectionAt]
    cases handle.connection with
    | none => simp only [List.set_set, Option.elim]
    | some c => simp only [List.set_set, Option.elim, library]
  | rehearsed o => rfl
  | vacant => rfl

/-- closing a handle first makes no difference to what is left -/
theorem without_closeHandle (ref : HandleRef) (w : Host) : Alike (without ref (closeHandle ref w)) (without ref w) := by
  have hafter : ∀ (u : Host) (s : Seat), u.seats = w.seats → w.seat ref ≠ .vacant →
      without ref (u.setSeat ref s) = { u with
        seats := w.seats.set ref.id .vacant
        storage := (connectionAt s).elim u.storage fun c => u.storage.disconnect c } := by
    intro u s hseats hoccupied
    rw [without, seat_setSeat hseats hoccupied]
    simp only [setSeat, List.set_set, hseats]
  unfold closeHandle
  cases hs : w.seat ref with
  | vacant => exact alike_equivalence.refl _
  | rehearsed o =>
    dsimp only
    rw [hafter { w with stage := w.stage.heard (.closeHandle ref.name) } _ rfl (by simp [hs]), without, hs]
    exact ⟨rfl, ⟨rfl, rfl, rfl⟩, rfl, rfl, rfl⟩
  | embedded handle =>
    rcases hclosed : Handle.close library (handle, w.storage, w) with ⟨shut, t, u⟩
    -- closing ends the connection, and then there is none to end; or it is left for letting go to end
    have hcases : u = w ∧ (shut.connection = handle.connection ∧ t = w.storage ∨
        ∃ c, handle.connection = some c ∧ shut.connection = none ∧ t = w.storage.disconnect c) := by
      unfold Handle.close at hclosed
      dsimp only at hclosed
      split at hclosed
      · cases hclosed
        exact ⟨rfl, .inl ⟨rfl, rfl⟩⟩
      · cases hclosed
        exact ⟨rfl, .inl ⟨rfl, rfl⟩⟩
      · next c hc _ =>
        cases hclosed
        exact ⟨rfl, .inr ⟨c, hc, rfl, rfl⟩⟩
    obtain ⟨rfl, hafter'⟩ := hcases
    simp only [changeEmbedded, hclosed]
    rw [hafter { u with storage := t } _ rfl (by simp [hs]), without, hs]
    refine ⟨rfl, Stage.alike_equivalence.refl _, rfl, ?_, rfl⟩
    unfold connectionAt
    dsimp only
    rcases hafter' with ⟨hsame, rfl⟩ | ⟨c, hc, hnone, rfl⟩
    · rw [hsame]
    · rw [hc, hnone]
      rfl

theorem letGo_alike (ref : HandleRef) (w : Host) : Alike (backend.letGo ref w) (without ref w) := by
  show Alike (release ref (if isOpen ref w then closeHandle ref w else w)) (without ref w)
  rw [release_eq]
  split
  · exact without_closeHandle ref w
  · exact alike_equivalence.refl _

theorem seat_without {ref other : HandleRef} (hne : other.id ≠ ref.id) (w : Host) :
    (without ref w).seat other = w.seat other := by
  simp only [seat, without, List.getElem?_set_ne (Ne.symm hne)]

/-! ## Handles with seats of their own -/

/-- handles with different seats end in either order -/
theorem without_comm {g h : HandleRef} (hsound : w.Sound) (hne : g.id ≠ h.id) :
    without h (without g w) = without g (without h w) := by
  obtain ⟨kind, hordered⟩ := hsound
  have hg := seat_without hne w
  have hh := seat_without hne.symm w
  have hseats : (w.seats.set g.id .vacant).set h.id .vacant = (w.seats.set h.id .vacant).set g.id .vacant :=
    List.set_comm _ _ hne
  have hstorage : (without h (without g w)).storage = (without g (without h w)).storage := by
    show (connectionAt ((without g w).seat h)).elim (without g w).storage _ =
      (connectionAt ((without h w).seat g)).elim (without h w).storage _
    rw [hg, hh]
    unfold without
    cases ha : connectionAt (w.seat g) with
    | none => rfl
    | some a =>
      cases hc : connectionAt (w.seat h) with
      | none => rfl
      | some c =>
        have hids := hordered.ids g h a c hne ha hc
        exact Storage.disconnect_comm fun hnumber =>
          (hordered.fits g a ha).severable hordered.numbered (hordered.fits h c hc) hids hnumber
  show Host.mk w.events w.stage _ (without h (without g w)).storage w.keepers = Host.mk w.events w.stage _ _ w.keepers
  rw [hstorage]
  exact congrArg (Host.mk w.events w.stage · _ w.keepers) hseats

/-- **The laws of separate handles hold of rehearsed and embedded databases.** -/
theorem separates : backend.Separates Alike Sound fun g h => g.id ≠ h.id where
  equivalence := alike_equivalence
  blind := blind
  ne hne heq := hne (heq ▸ rfl)
  symm hne := Ne.symm hne
  kept ref w hw := by
    show Sound (release ref (if isOpen ref w then closeHandle ref w else w))
    split
    · exact (release_outlasts ref _ (closeHandle_outlasts ref w hw).1).1
    · exact (release_outlasts ref w hw).1
  closed := closeHandle_flag
  unnoticed {g h} w hne := by
    have hseat := ((letGo_alike g w).seat h).trans (seat_without (Ne.symm hne) w)
    show isOpen h (backend.letGo g w) = isOpen h w
    rw [isOpen, isOpen, hseat]
  commute {g h w} hw hne := by
    have htwice : ∀ k l, Alike (backend.letGo l (backend.letGo k w)) (without l (without k w)) := fun k l =>
      alike_equivalence.trans (blind.letGo l (letGo_alike k w)) (letGo_alike l _)
    have hcomm := htwice g h
    rw [without_comm hw hne] at hcomm
    exact alike_equivalence.trans hcomm (alike_equivalence.symm (htwice h g))

end Host

end FluentSql
