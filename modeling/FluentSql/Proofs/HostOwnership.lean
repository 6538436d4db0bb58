import FluentSql.Proofs.HostConduct
import FluentSql.Proofs.Numbering
import FluentSql.Proofs.Ownership
/-!
The handles of the world with rehearsed and embedded databases. Each has a seat of its own, and each connection of the
embedded engine a number of its own, over a storage that knows what its numbers were given for (`Host.Sound`).
Whatever is called, that stays so: a call changes the seat of its handle only, and there it leaves a connection with
the number of before or with a new one (`Host.Ordered.step`). New handles get new seats, so the world maintains its
handles (`Host.maintains`).
-/

namespace FluentSql.Host

open Engine Rehearsal Storage Embedded

variable {α : Type} {kind kind' : Nat → Sharing} {v w : Host} {ref : HandleRef}

/-! ## Sound worlds -/

/-- the connection of a handle of the embedded engine -/
def connectionAt : Seat → Option Connection
  | .embedded handle => handle.connection
  | _ => none

/-- connections fit to the storage, and those of different handles have different numbers -/
structure Ordered (kind : Nat → Sharing) (w : Host) : Prop where
  numbered : w.storage.Numbered kind
  fits : ∀ ref c, connectionAt (w.seat ref) = some c → Fits kind w.storage.next c
  ids : ∀ g h a c, g.id ≠ h.id → connectionAt (w.seat g) = some a → connectionAt (w.seat h) = some c → a.id ≠ c.id

/-- what numbers were given for can be told in some way -/
def Sound (w : Host) : Prop := ∃ kind, w.Ordered kind

/-- a world without handles and databases -/
theorem ofStage_sound (stage : Stage) : Sound (ofStage stage) :=
  ⟨fun _ => .file, empty_numbered, fun _ _ hc => (by cases hc), fun _ _ _ _ _ ha => (by cases ha)⟩

theorem seat_congr {other : HandleRef} (h : other.id = ref.id) (w : Host) : w.seat other = w.seat ref := by
  rw [seat, seat, h]

/-- **One seat at a time**: the connection there keeps its number, or it is new. -/
theorem Ordered.step (h : v.Ordered kind) (hgrows : Grows kind kind' v.storage w.storage) (ref : HandleRef)
    (helsewhere : ∀ other : HandleRef, other.id ≠ ref.id → w.seat other = v.seat other)
    (hhere : ∀ c, connectionAt (w.seat ref) = some c → Fits kind' w.storage.next c ∧
      ((∃ before, connectionAt (v.seat ref) = some before ∧ c.id = before.id) ∨ v.storage.next ≤ c.id)) :
    w.Ordered kind' := by
  have hfits : ∀ other : HandleRef, other.id ≠ ref.id → ∀ c, connectionAt (w.seat other) = some c →
      Fits kind v.storage.next c := fun other hne c hc => h.fits other c (helsewhere other hne ▸ hc)
  have hnew : ∀ (g other : HandleRef) a c, g.id = ref.id → other.id ≠ ref.id → connectionAt (w.seat g) = some a →
      connectionAt (w.seat other) = some c → a.id ≠ c.id := by
    intro g other a c hg hne ha hc
    obtain ⟨-, ⟨before, hbefore, hid⟩ | hfresh⟩ := hhere a (seat_congr hg w ▸ ha)
    · rw [hid]
      exact h.ids ref other before c (Ne.symm hne) hbefore (helsewhere other hne ▸ hc)
    · exact Nat.ne_of_gt (Nat.lt_of_lt_of_le (hfits other hne c hc).id hfresh)
  refine ⟨hgrows.numbered, fun other c hc => ?_, fun g other a c hne ha hc => ?_⟩
  · by_cases heq : other.id = ref.id
    · exact (hhere c (seat_congr heq w ▸ hc)).1
    · exact (hfits other heq c hc).grows hgrows
  · by_cases hg : g.id = ref.id
    · exact hnew g other a c hg (fun hother => hne (hg.trans hother.symm)) ha hc
    · by_cases hother : other.id = ref.id
      · exact (hnew other g c a hother hg hc ha).symm
      · exact h.ids g other a c hne (helsewhere g hg ▸ ha) (helsewhere other hother ▸ hc)

/-- a sound world stays sound, and its seats stay -/
abbrev Outlasts : Host → Host → Prop := Lasts Sound known

/-- the storage may grow while nothing happens to the handles -/
theorem grown_outlasts (hseats : w.seats = v.seats)
    (h : ∀ kind, v.storage.Numbered kind → ∃ kind', Grows kind kind' v.storage w.storage) : Outlasts v w := by
  have hseat : ∀ ref, w.seat ref = v.seat ref := fun ref => by rw [seat, seat, hseats]
  rintro ⟨kind, hordered⟩
  obtain ⟨kind', hgrows⟩ := h kind hordered.numbered
  refine ⟨⟨kind', hordered.step hgrows ⟨0, ""⟩ (fun other _ => hseat other) fun c hc => ?_⟩,
    fun ref hknown => known_of_seats hseats hknown⟩
  rw [hseat] at hc
  exact ⟨(hordered.fits _ c hc).grows hgrows, .inl ⟨c, hc, rfl⟩⟩

theorem outlasts_of_same (hseats : w.seats = v.seats) (hstorage : w.storage = v.storage) : Outlasts v w :=
  grown_outlasts hseats fun kind h => by
    rw [hstorage]
    exact ⟨kind, Grows.refl h⟩

/-! ## Taking a seat anew -/

theorem connectionAt_setSeat {s : Seat} {c : Connection} (hc : connectionAt ((w.setSeat ref s).seat ref) = some c) :
    connectionAt s = some c := by
  by_cases hlt : ref.id < w.seats.length
  · simpa [seat, setSeat, hlt] using hc
  · simp [seat, setSeat, hlt, connectionAt] at hc

/-- the seat of a handle is taken anew, in a world that is otherwise as it was but for the storage -/
theorem reseated_outlasts {u : Host} {s : Seat} (hseats : u.seats = w.seats)
    (h : ∀ kind, w.Ordered kind → ∃ kind', Grows kind kind' w.storage u.storage ∧ ∀ c, connectionAt s = some c →
      Fits kind' u.storage.next c ∧
        ((∃ before, connectionAt (w.seat ref) = some before ∧ c.id = before.id) ∨ w.storage.next ≤ c.id)) :
    Outlasts w (u.setSeat ref s) := by
  rintro ⟨kind, hordered⟩
  obtain ⟨kind', hgrows, hhere⟩ := h kind hordered
  have hset : Elsewhere ref w (u.setSeat ref s) := elsewhere_setSeat hseats s
  refine ⟨⟨kind', hordered.step hgrows ref hset.2 fun c hc => hhere c (connectionAt_setSeat hc)⟩, fun other hknown => ?_⟩
  show other.id < (u.setSeat ref s).seats.length
  rw [hset.1]
  exact hknown

/-- a handle without a connection takes the seat -/
theorem unconnected_outlasts {u : Host} {s : Seat} (hseats : u.seats = w.seats) (hstorage : u.storage = w.storage)
    (hs : connectionAt s = none) : Outlasts w (u.setSeat ref s) :=
  reseated_outlasts hseats fun kind h => by
    rw [hstorage]
    exact ⟨kind, Grows.refl h.numbered, fun c hc => by rw [hs] at hc; cases hc⟩

/-- a handle of the embedded engine after something that keeps numbers -/
theorem embedded_outlasts {handle : EngineHandle} (hs : w.seat ref = .embedded handle)
    {r : EngineHandle × Storage × Host} (hnumbers : Handle.KeepsNumbers (handle, w.storage, w) r)
    (hseats : r.2.2.seats = w.seats) : Outlasts w ({ r.2.2 with storage := r.2.1 }.setSeat ref (.embedded r.1)) := by
  have hconnection : connectionAt (w.seat ref) = handle.connection := by rw [hs, connectionAt]
  refine reseated_outlasts hseats fun kind h => ?_
  obtain ⟨kind', hgrows, hhere⟩ := hnumbers kind h.numbered fun c hc => h.fits ref c (hconnection.trans hc)
  refine ⟨kind', hgrows, fun c hc => ?_⟩
  rw [hconnection]
  exact hhere c hc

/-! ## Calls of a handle -/

theorem onStage_outlasts (t : Task Stage α) : (onStage t).Respects Outlasts := fun _ => outlasts_of_same rfl rfl

theorem dispatch_outlasts {rehearsed : Task Host α} {embedded : Act α}
    (hr : rehearsed.Respects Outlasts) (hnumbers : embedded.Respects Handle.KeepsNumbers)
    (hkept : embedded.Respects (Handle.Kept Host.seats)) :
    (dispatch ref rehearsed embedded).Respects Outlasts := by
  intro w
  unfold dispatch
  cases hs : w.seat ref with
  | rehearsed _ => exact hr w
  | embedded handle => exact embedded_outlasts hs (hnumbers (handle, w.storage, w)) (hkept (handle, w.storage, w)).outside
  | vacant => exact Lasts.stepwise.refl w

theorem channel_outlasts (ref : HandleRef) : (channel ref).Respects Outlasts := by
  have hn := (Handle.keepsNumbers_allows (W := Host)).statements
  have hs := Handle.channel_steady (L := library) overlooks_seats
  exact
    { execute := fun sql => dispatch_outlasts (onStage_outlasts _) (hn.execute sql) fun p => (hs.execute sql p).kept
      query := fun q => dispatch_outlasts (onStage_outlasts _) (hn.query q) fun p => (hs.query q p).kept
      insert := fun table values =>
        dispatch_outlasts (onStage_outlasts _) (hn.insert table values) fun p => (hs.insert table values p).kept
      update := fun table values condition args =>
        dispatch_outlasts (onStage_outlasts _) (hn.update table values condition args) fun p =>
          (hs.update table values condition args p).kept
      delete := fun table condition args =>
        dispatch_outlasts (onStage_outlasts _) (hn.delete table condition args) fun p =>
          (hs.delete table condition args p).kept }

theorem openHandle_outlasts (ref : HandleRef) : (openHandle ref).Respects Outlasts := by
  refine dispatch_outlasts ?_ Handle.openUp_numbers (Handle.openUp_kept overlooks_seats)
  exact (onStage_outlasts _).bind Lasts.stepwise fun _ => Task.respects_change fun w => unconnected_outlasts rfl rfl rfl

theorem siblings_outlasts (ref : HandleRef) : (siblings ref).Respects Outlasts := by
  refine dispatch_outlasts (onStage_outlasts _) (fun p => ?_) fun p => ?_
  · rw [Handle.siblings_state]
    exact Handle.KeepsNumbers.stepwise.refl p
  · rw [Handle.siblings_state]
    exact (Handle.Kept.stepwise _).refl p

theorem closeHandle_outlasts (ref : HandleRef) (w : Host) : Outlasts w (closeHandle ref w) := by
  unfold closeHandle
  cases hs : w.seat ref with
  | rehearsed o => exact unconnected_outlasts rfl rfl rfl
  | embedded handle =>
    have hseats : (Handle.close library (handle, w.storage, w)).2.2.seats = w.seats :=
      (Handle.close_kept overlooks_seats (handle, w.storage, w)).outside
    exact embedded_outlasts hs (Handle.close_numbers _) hseats
  | vacant => exact Lasts.stepwise.refl w

theorem release_outlasts (ref : HandleRef) (w : Host) : Outlasts w (release ref w) := by
  unfold release
  cases hs : w.seat ref with
  | embedded handle =>
    have hseats : (Handle.release library (handle, w.storage, w)).2.2.seats = w.seats :=
      (Handle.release_kept (handle, w.storage, w)).outside
    have hended := embedded_outlasts hs (Handle.release_numbers (handle, w.storage, w)) hseats
    exact Lasts.stepwise.trans hended (unconnected_outlasts rfl rfl rfl)
  | _ => exact unconnected_outlasts rfl rfl rfl

/-! ## Calls of a provider -/

/-- a new handle takes a new seat -/
theorem seatNew_outlasts {u : Host} {s : Seat} (hseats : u.seats = w.seats)
    (h : ∀ kind, w.Ordered kind → ∃ kind', Grows kind kind' w.storage u.storage ∧ ∀ c, connectionAt s = some c →
      Fits kind' u.storage.next c ∧ w.storage.next ≤ c.id) :
    Outlasts w { u with seats := u.seats ++ [s] } := by
  rintro ⟨kind, hordered⟩
  obtain ⟨kind', hgrows, hhere⟩ := h kind hordered
  refine ⟨⟨kind', hordered.step hgrows ⟨w.seats.length, ""⟩ (fun other hne => ?_) fun c hc => ?_⟩, fun other hknown => ?_⟩
  · have hne : other.id ≠ w.seats.length := hne
    simp only [seat, hseats]
    by_cases hlt : other.id < w.seats.length
    · rw [List.getElem?_append_left hlt]
    · rw [List.getElem?_eq_none (by simp; omega), List.getElem?_eq_none (by omega)]
  · have hlast : connectionAt s = some c := by simpa [seat, hseats] using hc
    obtain ⟨hfits, hfresh⟩ := hhere c hlast
    exact ⟨hfits, .inr hfresh⟩
  · have hknown : other.id < w.seats.length := hknown
    show other.id < (u.seats ++ [s]).length
    simp [hseats]
    omega

theorem openDatabase_outlasts (p : Source) (name : String) (o : OpenOptions) :
    (openDatabase p name o).Respects Outlasts := by
  intro w
  cases p with
  | script =>
    simp only [openDatabase, Task.bind_eq, onStage, Task.within]
    rcases Stage.openDatabase name o w.stage with ⟨e | _, stage⟩
    · exact outlasts_of_same rfl rfl
    · exact seatNew_outlasts rfl fun kind h => ⟨kind, Grows.refl h.numbered, fun c hc => by cases hc⟩
  | embedded p =>
    let q : Depot Connection Storage × Host := (⟨w.storage, w.keepers⟩, w)
    have hseats : (p.openDatabase library name o q).2.2.seats = w.seats :=
      Provider.openDatabase_outside overlooks_seats p name o q
    have hnumbers := fun kind (h : w.storage.Numbered kind) => Provider.openDatabase_numbers (q := q) h p name o
    simp only [openDatabase, Task.bind_eq, onDepot]
    rw [show (⟨w.storage, w.keepers⟩, w) = q from rfl]
    rcases hopen : p.openDatabase library name o q with ⟨e | handle, t, u⟩
    all_goals rw [hopen] at hseats hnumbers
    · exact grown_outlasts hseats fun kind h => (hnumbers kind h).imp fun _ hopened => hopened.1
    · refine seatNew_outlasts hseats fun kind h => ?_
      obtain ⟨kind', hgrows, hhere⟩ := hnumbers kind h.numbered
      exact ⟨kind', hgrows, fun c hc => hhere handle rfl c hc⟩

theorem dropDatabase_outlasts (p : Source) (name : String) : (dropDatabase p name).Respects Outlasts := by
  intro w
  cases p with
  | script => exact onStage_outlasts _ w
  | embedded p =>
    let q : Depot Connection Storage × Host := (⟨w.storage, w.keepers⟩, w)
    exact grown_outlasts (Provider.dropDatabase_outside (L := library) overlooks_seats p name q) fun kind h =>
      ⟨kind, Provider.dropDatabase_numbers (q := q) h p name⟩

theorem listNames_outlasts (p : Source) : (listNames p).Respects Outlasts := by
  intro w
  cases p with
  | script => exact onStage_outlasts _ w
  | embedded p =>
    have hsame := Provider.listNames_state (L := library) p ((⟨w.storage, w.keepers⟩, w) : Depot Connection Storage × Host)
    refine outlasts_of_same ?_ ?_
    all_goals
      simp only [listNames, onDepot]
      rw [hsame]

/-- **The world maintains its handles**, in seats of their own. -/
theorem maintains : backend.Maintains Sound known fun g h => g.id ≠ h.id where
  report _ _ := outlasts_of_same rfl rfl
  openHandle := openHandle_outlasts
  closeHandle := closeHandle_outlasts
  release := release_outlasts
  channel := channel_outlasts
  siblings := siblings_outlasts
  openDatabase := openDatabase_outlasts
  listNames := listNames_outlasts
  dropDatabase := dropDatabase_outlasts
  fresh hopen := by
    obtain ⟨hid, hlength, -⟩ := openDatabase_opened hopen
    refine ⟨by rw [known]; omega, fun g hg => ?_⟩
    have hlt := Nat.lt_of_lt_of_le hg (Nat.le_of_eq hid.symm)
    exact Nat.ne_of_lt hlt

end FluentSql.Host
