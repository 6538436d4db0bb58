import FluentSql.Host
import FluentSql.Proofs.HandleConduct
/-!
What sessions may rely on: which calls touch the flag of a handle (`Backend.FlagLaws`), that a database is opened
under the name that was asked for (`Backend.KeepsNames`), and that it comes with an open handle of its own
(`Backend.GivesOut`).

All of this holds of the world with rehearsed and embedded databases, for every handle and every provider, whatever its
statements, hooks and scripts do (`Host.flagLaws`, `Host.keepsNames`, `Host.givesOut`).
-/

namespace FluentSql

variable {W H P α : Type}

/-- how calls touch the flag of a handle: opening sets it unless it is refused, closing clears it, and nothing else
touches it -/
structure Backend.FlagLaws [Reporting W] (b : Backend W H P) (h : H) : Prop where
  opened : ∀ {w w'}, b.openHandle h w = (.ok (), w') → b.isOpen h w' = true
  refused : ∀ {w e w'}, b.openHandle h w = (.error e, w') → b.isOpen h w' = b.isOpen h w
  closed : ∀ w, b.isOpen h (b.closeHandle h w) = false
  statements : (b.channel h).Respects fun w w' => b.isOpen h w' = b.isOpen h w
  report : Reports fun w w' => b.isOpen h w' = b.isOpen h w

/-- a database is opened under the name that was asked for -/
def Backend.KeepsNames (b : Backend W H P) : Prop :=
  ∀ {p name o w h w'}, b.openDatabase p name o w = (.ok h, w') → b.name h = name

/-- handles that a world has given out stay given out. A database that is opened comes with an open handle, which
closing an earlier one and letting go of it does not touch; one that is refused touches no handle -/
structure Backend.GivesOut [Reporting W] (b : Backend W H P) (known : H → W → Prop) : Prop where
  provided : ∀ {p name o w g w'}, b.openDatabase p name o w = (.ok g, w') → known g w' ∧ b.isOpen g w' = true
  apart : ∀ {p name o w g w' h}, b.openDatabase p name o w = (.ok g, w') → known h w →
    known g (b.release h (b.closeHandle h w')) ∧ b.isOpen g (b.release h (b.closeHandle h w')) = true
  refused : ∀ {p name o w e w' h}, b.openDatabase p name o w = (.error e, w') → known h w →
    known h w' ∧ b.isOpen h w' = b.isOpen h w
  opening : ∀ {h w}, known h w → known h (b.openHandle h w).2
  report : ∀ {h e w}, known h w → known h (Reporting.emit e w)

namespace Host

open Rehearsal Embedded

/-! ## Seats -/

/-- a seat that was occupied before something that leaves the seats alone takes a new handle -/
theorem seat_setSeat {v w : Host} {ref : HandleRef} (hv : v.seats = w.seats) (hw : w.seat ref ≠ .vacant) (s : Seat) :
    (v.setSeat ref s).seat ref = s := by
  by_cases hlt : ref.id < w.seats.length
  · simp [seat, setSeat, hv, hlt]
  · simp [seat, hlt] at hw

theorem isOpen_rehearsed {ref : HandleRef} {w : Host} {o : Bool} (hs : w.seat ref = .rehearsed o) :
    isOpen ref w = o := by
  simp [isOpen, hs]

theorem isOpen_embedded {ref : HandleRef} {w : Host} {h : EngineHandle} (hs : w.seat ref = .embedded h) :
    isOpen ref w = h.isOpen := by
  simp [isOpen, hs]

theorem isOpen_vacant {ref : HandleRef} {w : Host} (hs : w.seat ref = .vacant) : isOpen ref w = false := by
  simp [isOpen, hs]

theorem isOpen_of_seats {ref : HandleRef} {w w' : Host} (hs : w'.seats = w.seats) : isOpen ref w' = isOpen ref w := by
  unfold isOpen seat
  rw [hs]

/-! ## Actions of a handle -/

theorem overlooks_seats : Handle.Overlooks Host.seats := ⟨fun _ _ => rfl, fun _ _ => rfl⟩

/-- a handle of the embedded engine after an action that leaves the seats alone -/
theorem isOpen_onEmbedded {ref : HandleRef} {w : Host} {h : EngineHandle} (hs : w.seat ref = .embedded h)
    {t : Act α} (ht : t.Respects (Handle.Kept Host.seats)) :
    isOpen ref (onEmbedded ref h t w).2 = (t (h, w.storage, w)).2.1.isOpen := by
  have hseats : (t (h, w.storage, w)).2.2.2.seats = w.seats := (ht (h, w.storage, w)).outside
  exact isOpen_embedded (seat_setSeat (w := w) hseats (by simp [hs]) _)

/-- an action that keeps the flag of a handle of either kind -/
theorem dispatch_keepsFlag {ref : HandleRef} {rehearsed : Task Host α} {embedded : Act α}
    (hr : rehearsed.Respects fun w w' => w'.seats = w.seats)
    (he : embedded.Respects (Handle.Steady Host.seats)) :
    (dispatch ref rehearsed embedded).Respects fun w w' => isOpen ref w' = isOpen ref w := by
  intro w
  unfold dispatch
  cases hs : w.seat ref with
  | rehearsed o => exact isOpen_of_seats (hr w)
  | embedded h =>
    have hflag := isOpen_onEmbedded hs fun p => (he p).kept
    exact hflag.trans ((he _).isOpen.trans (isOpen_embedded hs).symm)
  | vacant => rfl

theorem onStage_seats (t : Task Stage α) : (onStage t).Respects fun w w' => w'.seats = w.seats := fun _ => rfl

theorem channel_keepsFlag (ref : HandleRef) : (channel ref).Respects fun w w' => isOpen ref w' = isOpen ref w :=
  have he := Handle.channel_steady overlooks_seats
  { execute := fun sql => dispatch_keepsFlag (onStage_seats _) (he.execute sql)
    query := fun q => dispatch_keepsFlag (onStage_seats _) (he.query q)
    insert := fun table values => dispatch_keepsFlag (onStage_seats _) (he.insert table values)
    update := fun table values condition args =>
      dispatch_keepsFlag (onStage_seats _) (he.update table values condition args)
    delete := fun table condition args => dispatch_keepsFlag (onStage_seats _) (he.delete table condition args) }

/-- opening a rehearsed handle follows the script -/
theorem openHandle_rehearsed {ref : HandleRef} {w : Host} {o : Bool} (hs : w.seat ref = .rehearsed o) :
    isOpen ref (openHandle ref w).2 = ((openHandle ref w).1.toBool || o) := by
  simp only [openHandle, dispatch, hs, Task.bind_eq, onStage, Task.within, Task.change]
  rcases Stage.openHandle ref.name w.stage with ⟨e | _, stage⟩
  · exact isOpen_rehearsed hs
  · exact isOpen_rehearsed (seat_setSeat (w := w) rfl (by simp [hs]) _)

/-- a handle is open after opening exactly if opening answered or it was open before -/
theorem openHandle_flag (ref : HandleRef) (w : Host) :
    isOpen ref (openHandle ref w).2 = ((openHandle ref w).1.toBool || isOpen ref w) := by
  cases hs : w.seat ref with
  | rehearsed o =>
    rw [isOpen_rehearsed hs]
    exact openHandle_rehearsed hs
  | embedded h =>
    rw [isOpen_embedded hs]
    simp only [openHandle, dispatch, hs]
    rw [isOpen_onEmbedded hs (Handle.openUp_kept overlooks_seats)]
    exact Handle.openUp_flag overlooks_seats (h, w.storage, w)
  | vacant =>
    simp only [openHandle, dispatch, hs]
    exact (Bool.false_or _).symm

theorem closeHandle_flag (ref : HandleRef) (w : Host) : isOpen ref (closeHandle ref w) = false := by
  unfold closeHandle
  cases hs : w.seat ref with
  | rehearsed o =>
    exact isOpen_rehearsed (seat_setSeat (w := w) rfl (by simp [hs]) _)
  | embedded h =>
    have hseats : (Handle.close Storage.library (h, w.storage, w)).2.2.seats = w.seats :=
      (Handle.close_kept overlooks_seats (h, w.storage, w)).outside
    refine Eq.trans ?_ (Handle.close_closes (L := Storage.library) (h, w.storage, w))
    exact isOpen_embedded (seat_setSeat (w := w) hseats (by simp [hs]) _)
  | vacant => exact isOpen_vacant hs

/-- **The flag laws hold of every handle.** -/
theorem flagLaws (ref : HandleRef) : backend.FlagLaws ref where
  opened {w w'} hopen := by
    have hflag := openHandle_flag ref w
    rw [show openHandle ref w = (.ok (), w') from hopen] at hflag
    exact hflag
  refused {w e w'} hopen := by
    have hflag := openHandle_flag ref w
    rw [show openHandle ref w = (.error e, w') from hopen] at hflag
    exact hflag.trans (Bool.false_or _)
  closed := closeHandle_flag ref
  statements := channel_keepsFlag ref
  report _ _ := isOpen_of_seats rfl

/-- **Every provider opens under the name that was asked for.** -/
theorem keepsNames : backend.KeepsNames := by
  intro p name o w ref w' hopen
  cases p with
  | script =>
    simp only [backend, openDatabase, Task.bind_eq, onStage, Task.within] at hopen
    rcases hstage : Stage.openDatabase name o w.stage with ⟨e | _, stage⟩
    · rw [hstage] at hopen
      cases hopen
    · rw [hstage] at hopen
      cases hopen
      rfl
  | embedded p =>
    simp only [backend, openDatabase, Task.bind_eq, onDepot] at hopen
    rcases hprovider : p.openDatabase Storage.library name o (⟨w.storage, w.keepers⟩, w) with ⟨e | h, r⟩
    · rw [hprovider] at hopen
      cases hopen
    · rw [hprovider] at hopen
      cases hopen
      exact (Provider.openDatabase_opened p hprovider).1

/-! ## Handles that are given out -/

/-- the world has a seat for the handle -/
def known (ref : HandleRef) (w : Host) : Prop := ref.id < w.seats.length

theorem known_of_seats {ref : HandleRef} {w w' : Host} (hs : w'.seats = w.seats) (hw : known ref w) : known ref w' := by
  rw [known, hs]
  exact hw

theorem setSeat_length (w : Host) (ref : HandleRef) (s : Seat) : (w.setSeat ref s).seats.length = w.seats.length :=
  List.length_set ..

/-- what is at one seat does not show at another -/
theorem seat_setSeat_of_ne (w : Host) {ref other : HandleRef} (hne : other.id ≠ ref.id) (s : Seat) :
    (w.setSeat ref s).seat other = w.seat other := by
  simp only [seat, setSeat, List.getElem?_set_ne (Ne.symm hne)]

/-- the seats but for one, and how many there are -/
def Elsewhere (ref : HandleRef) (w w' : Host) : Prop :=
  w'.seats.length = w.seats.length ∧ ∀ other : HandleRef, other.id ≠ ref.id → w'.seat other = w.seat other

theorem elsewhere_setSeat {ref : HandleRef} {v w : Host} (hv : v.seats = w.seats) (s : Seat) :
    Elsewhere ref w (v.setSeat ref s) := by
  refine ⟨by rw [setSeat_length, hv], fun other hne => ?_⟩
  rw [seat_setSeat_of_ne v hne, seat, seat, hv]

theorem Elsewhere.trans {ref : HandleRef} {u v w : Host} (first : Elsewhere ref u v) (second : Elsewhere ref v w) :
    Elsewhere ref u w :=
  ⟨second.1.trans first.1, fun other hne => (second.2 other hne).trans (first.2 other hne)⟩

theorem closeHandle_elsewhere (ref : HandleRef) (w : Host) : Elsewhere ref w (closeHandle ref w) := by
  unfold closeHandle
  cases w.seat ref with
  | rehearsed o => exact elsewhere_setSeat rfl _
  | embedded h =>
    have hseats : (Handle.close Storage.library (h, w.storage, w)).2.2.seats = w.seats :=
      (Handle.close_kept overlooks_seats (h, w.storage, w)).outside
    exact elsewhere_setSeat hseats _
  | vacant => exact ⟨rfl, fun _ _ => rfl⟩

theorem release_elsewhere (ref : HandleRef) (w : Host) : Elsewhere ref w (release ref w) := by
  unfold release
  cases w.seat ref with
  | rehearsed o => exact elsewhere_setSeat rfl _
  | embedded h =>
    have hseats : (Handle.release Storage.library (h, w.storage, w)).2.2.seats = w.seats :=
      (Handle.release_kept (h, w.storage, w)).outside
    have hchanged : Elsewhere ref w (changeEmbedded (Handle.release Storage.library) ref h w) := elsewhere_setSeat hseats _
    exact hchanged.trans (elsewhere_setSeat rfl _)
  | vacant => exact elsewhere_setSeat rfl _

theorem openHandle_length (ref : HandleRef) (w : Host) : (openHandle ref w).2.seats.length = w.seats.length := by
  unfold openHandle dispatch
  cases w.seat ref with
  | rehearsed o =>
    simp only [Task.bind_eq, onStage, Task.within, Task.change]
    rcases Stage.openHandle ref.name w.stage with ⟨e | _, stage⟩
    · rfl
    · exact setSeat_length _ ref _
  | embedded h =>
    have hkept := Handle.openUp_kept (L := Storage.library) overlooks_seats (h, w.storage, w)
    have helsewhere : Elsewhere ref w (onEmbedded ref h (Handle.openUp Storage.library) w).2 := elsewhere_setSeat hkept.outside _
    exact helsewhere.1
  | vacant => rfl

/-- a database that does not open leaves the seats as they are -/
theorem openDatabase_refused {p : Source} {name : String} {o : OpenOptions} {w w' : Host} {e : DbError}
    (hopen : openDatabase p name o w = (.error e, w')) : w'.seats = w.seats := by
  cases p with
  | script =>
    simp only [openDatabase, Task.bind_eq, onStage, Task.within] at hopen
    rcases hstage : Stage.openDatabase name o w.stage with ⟨why | _, stage⟩
    · rw [hstage] at hopen
      cases hopen
      rfl
    · rw [hstage] at hopen
      cases hopen
  | embedded p =>
    have hseats : (p.openDatabase Storage.library name o (⟨w.storage, w.keepers⟩, w)).2.2.seats = w.seats :=
      Provider.openDatabase_outside overlooks_seats p name o (⟨w.storage, w.keepers⟩, w)
    simp only [openDatabase, Task.bind_eq, onDepot] at hopen
    rcases hprovider : p.openDatabase Storage.library name o (⟨w.storage, w.keepers⟩, w) with ⟨why | h, r⟩
    · rw [hprovider] at hopen hseats
      cases hopen
      exact hseats
    · rw [hprovider] at hopen
      cases hopen

/-- a new handle has the last seat -/
theorem seatNew_spec {name : String} {s : Seat} {v w' : Host} {g : HandleRef} (h : seatNew name s v = (.ok g, w')) :
    g.id = v.seats.length ∧ w'.seats.length = v.seats.length + 1 ∧ w'.seat g = s := by
  cases h
  exact ⟨rfl, List.length_append, by simp [seat]⟩

/-- a database that opens gets the next seat, and the handle there is open -/
theorem openDatabase_opened {p : Source} {name : String} {o : OpenOptions} {w w' : Host} {g : HandleRef}
    (hopen : openDatabase p name o w = (.ok g, w')) :
    g.id = w.seats.length ∧ w'.seats.length = w.seats.length + 1 ∧ isOpen g w' = true := by
  cases p with
  | script =>
    simp only [openDatabase, Task.bind_eq, onStage, Task.within] at hopen
    rcases hstage : Stage.openDatabase name o w.stage with ⟨why | _, stage⟩
    · rw [hstage] at hopen
      cases hopen
    · rw [hstage] at hopen
      obtain ⟨hid, hlength, hseat⟩ := seatNew_spec hopen
      exact ⟨hid, hlength, isOpen_rehearsed hseat⟩
  | embedded p =>
    have hseats : (p.openDatabase Storage.library name o (⟨w.storage, w.keepers⟩, w)).2.2.seats = w.seats :=
      Provider.openDatabase_outside overlooks_seats p name o (⟨w.storage, w.keepers⟩, w)
    simp only [openDatabase, Task.bind_eq, onDepot] at hopen
    rcases hprovider : p.openDatabase Storage.library name o (⟨w.storage, w.keepers⟩, w) with ⟨why | h, r⟩
    · rw [hprovider] at hopen
      cases hopen
    · rw [hprovider] at hopen hseats
      obtain ⟨hid, hlength, hseat⟩ := seatNew_spec hopen
      rw [show ({ r.2 with storage := r.1.engine, keepers := r.1.keepers } : Host).seats = w.seats from hseats] at hid hlength
      have hflag := (Provider.openDatabase_opened p hprovider).2
      exact ⟨hid, hlength, (isOpen_embedded hseat).trans hflag⟩

/-- **Every provider gives out open handles of their own.** -/
theorem givesOut : backend.GivesOut known where
  provided {p name o w g w'} hopen := by
    obtain ⟨hid, hlength, hflag⟩ := openDatabase_opened hopen
    exact ⟨by rw [known]; omega, hflag⟩
  apart {p name o w g w' h} hopen hknown := by
    obtain ⟨hid, hlength, hflag⟩ := openDatabase_opened hopen
    have hne : g.id ≠ h.id := by
      have hlt : h.id < w.seats.length := hknown
      omega
    have hgone := (closeHandle_elsewhere h w').trans (release_elsewhere h (closeHandle h w'))
    have hseat : (release h (closeHandle h w')).seat g = w'.seat g := hgone.2 g hne
    refine ⟨?_, ?_⟩
    · show known g (release h (closeHandle h w'))
      rw [known, hgone.1]
      omega
    · show isOpen g (release h (closeHandle h w')) = true
      rw [isOpen, hseat]
      exact hflag
  refused {p name o w e w' h} hopen hknown :=
    have hseats := openDatabase_refused hopen
    ⟨known_of_seats hseats hknown, isOpen_of_seats hseats⟩
  opening {h w} hknown := by
    show known h (openHandle h w).2
    rw [known, openHandle_length]
    exact hknown
  report hknown := known_of_seats rfl hknown

/-! ## A world with one handle -/

/-- the handle that came first -/
def first (name : String) : HandleRef := ⟨0, name⟩

/-- a world with one rehearsed handle, which is closed and follows a script -/
def rehearsing (name : String) (script : Script) : Host := (newRehearsed name (ofStage (.ofScript script []))).2

end Host

end FluentSql
