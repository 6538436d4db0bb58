import FluentSql.Proofs.FailedMigration
/-!
What the flag of a handle says. Between uses the flag and the connection agree, whatever happens around the handle
(`afterMoves_coupled`): an open handle has a connection, and a closed one has none unless its database is its own. A
database of its own has one connection for good (`Lasting`), which closing and opening leave alone. So what its tables
satisfy before, and the statements of the hooks keep (`Account.Spares`), they satisfy after any number of openings and
closings (`afterMoves_keep`).

Main result: `open_state_discipline`, over all that can happen to a handle and around it.
-/

namespace FluentSql.Embedded

namespace Account

variable {C S T : Type}

/-- what is committed has a property, and so has what an open transaction has made of it -/
def Has (a : Account C S T) (D : T → Prop) (c : C) (s : S) : Prop :=
  D (a.stored c s).tables ∧ ∀ w, a.work c s = some w → D w.tables

/-- statements with a text of a kind keep a property of the tables, whether they succeed or not -/
def Spares (a : Account C S T) (L : Library C S) (Q : String → Prop) (D : T → Prop) : Prop :=
  ∀ {α : Type} (r : Request α) {sql c s}, r.text? = some sql → Q sql → a.live c s → a.Has D c s →
    a.Has D (L.perform r c s).2.1 (L.perform r c s).2.2

end Account

namespace Handle

variable {C S W T : Type} {L : Library C S} {a : Account C S T} {location : Location} {Q : String → Prop} {D : T → Prop}
  {p q r : Handle C × S × W}

/-! ## Databases of their own -/

/-- a handle for itself alone that has a connection goes on with the same one -/
def Lasting (L : Library C S) (p q : Handle C × S × W) : Prop :=
  q.1.location = p.1.location ∧
    (p.1.location = .own → ∀ c, p.1.connection = some c → ∃ d, q.1.connection = some d ∧ Descends L c d)

theorem Lasting.stepwise (L : Library C S) : Stepwise (Lasting (W := W) L) where
  refl _ := ⟨rfl, fun _ c hc => ⟨c, hc, .refl⟩⟩
  trans {p q r} first second := by
    refine ⟨second.1.trans first.1, fun hl c hc => ?_⟩
    obtain ⟨d, hd, hsame⟩ := first.2 hl c hc
    obtain ⟨e, he, hsame'⟩ := second.2 (first.1.trans hl) d hd
    exact ⟨e, he, hsame.trans hsame'⟩

theorem Steers.lasting (h : Steers L p q) : Lasting L p q := ⟨h.location, fun _ => h.connection⟩

section

variable [Reporting W]

theorem close_lasting (p : Handle C × S × W) : Lasting L p (close L p) := by
  refine ⟨close_location p, fun hl c hc => ⟨c, ?_, .refl⟩⟩
  rw [close_of_own hl]
  exact hc

theorem openUp_lasting (p : Handle C × S × W) : Lasting L p (openUp L p).2 := by
  cases ho : p.1.isOpen with
  | true =>
    rw [(openUp_open ho).1]
    exact (Lasting.stepwise L).refl p
  | false =>
    rcases openUp_lifecycle L ho with ⟨e, s, hrun, hnone⟩ | ⟨c, q, r, x, hsteers, hrun, hq, hsame⟩
    · rw [hrun]
      exact ⟨rfl, fun _ c hc => ⟨c, hc, .refl⟩⟩
    · have hraised : Lasting L p (raised q) := by
        refine ⟨by rw [raised, hq], fun _ d hd => ⟨c, ?_, hsame d hd ▸ .refl⟩⟩
        rw [raised, hq]
      have hafter : Lasting L p r := (Lasting.stepwise L).trans hraised hsteers.lasting
      rw [hrun]
      cases x with
      | error e => exact (Lasting.stepwise L).trans hafter (close_lasting r)
      | ok _ => exact hafter

/-! ## What openings keep -/

/-- what is committed in the database of a handle has a property, and so has what an open transaction has made of it -/
def Holds (a : Account C S T) (D : T → Prop) (p : Handle C × S × W) : Prop :=
  D (storedOf a p).tables ∧ ∀ w, workOf a p = some w → D w.tables

omit [Reporting W] in
theorem holds_of_some {c : C} (hc : p.1.connection = some c) : Holds a D p ↔ a.Has D c p.2.1 := by
  unfold Holds Account.Has
  rw [storedOf_of_some hc, workOf_of_some hc]

omit [Reporting W] in
theorem Holds.congr (h : Holds a D p) (hstored : storedOf a q = storedOf a p) (hwork : workOf a q = workOf a p) :
    Holds a D q := by
  unfold Holds
  rw [hstored, hwork]
  exact h

/-- a handle for itself alone stands on a database with a property -/
structure Keeps (a : Account C S T) (D : T → Prop) (p : Handle C × S × W) : Prop where
  stands : Stands a .own p
  holds : Holds a D p

omit [Reporting W] in
/-- what keeps the property when it is performed on a live connection, keeps it on a handle -/
theorem request_keeps {α : Type} (ha : a.Followed L .own) (r : Request α)
    (hr : ∀ c s, a.live c s → a.Has D c s → a.Has D (L.perform r c s).2.1 (L.perform r c s).2.2) (h : Keeps a D p) :
    Keeps a D (request L r p).2 := by
  refine ⟨request_stands ha r h.stands, ?_⟩
  unfold request
  split
  · rename_i c hc hopen
    exact hr c p.2.1 ((standing_of_some hc).1 h.stands.standing) ((holds_of_some hc).1 h.holds)
  · exact h.holds

variable (ha : a.Followed L .own)

include ha

omit [Reporting W] in
/-- the engine's own ways with transactions keep every property of the tables -/
theorem own_keeps {sql : String} (hsql : sql ∈ ownStatements) {c : C} {s : S} (hlive : a.live c s) (h : a.Has D c s) :
    a.Has D (L.perform (.batch sql) c s).2.1 (L.perform (.batch sql) c s).2.2 := by
  rcases hperform : L.perform (.batch sql) c s with ⟨x, c', s'⟩
  simp only [ownStatements, List.mem_cons, List.not_mem_nil, or_false] at hsql
  rcases hsql with rfl | rfl | rfl
  · obtain ⟨hstored, hok, herror⟩ := ha.begins hlive hperform
    refine ⟨by rw [hstored]; exact h.1, fun w hw => ?_⟩
    cases x with
    | ok _ =>
      rw [(hok rfl).2] at hw
      cases hw
      exact h.1
    | error e =>
      rw [herror e rfl] at hw
      exact h.2 w hw
  · obtain ⟨hok, herror⟩ := ha.commits hlive hperform
    cases x with
    | ok _ =>
      obtain ⟨hwork, hnone⟩ := hok rfl
      refine ⟨h.2 _ hwork, fun w hw => ?_⟩
      rw [hnone] at hw
      cases hw
    | error e =>
      obtain ⟨hstored, hwork⟩ := herror e rfl
      refine ⟨by rw [hstored]; exact h.1, fun w hw => ?_⟩
      rcases hwork with hsame | hnone
      · exact h.2 w (hsame.symm.trans hw)
      · rw [hnone] at hw
        cases hw
  · obtain ⟨hstored, hnone⟩ := ha.rollsBack hlive hperform
    refine ⟨by rw [hstored]; exact h.1, fun w hw => ?_⟩
    rw [hnone] at hw
    cases hw

omit [Reporting W] in
theorem readVersion_keeps {c : C} {s : S} (hlive : a.live c s) (h : a.Has D c s) :
    a.Has D (L.perform .readVersion c s).2.1 (L.perform .readVersion c s).2.2 := by
  rcases hperform : L.perform .readVersion c s with ⟨x, c', s'⟩
  obtain ⟨hstored, hwork, -⟩ := ha.readVersion hlive hperform
  refine ⟨by rw [hstored]; exact h.1, fun w hw => ?_⟩
  rcases hwork with hsame | ⟨hnone, -⟩
  · exact h.2 w (hsame.symm.trans hw)
  · rw [hnone] at hw
    cases hw

omit [Reporting W] in
theorem writeVersion_keeps (n : Int) {c : C} {s : S} (hlive : a.live c s) (h : a.Has D c s) :
    a.Has D (L.perform (.writeVersion n) c s).2.1 (L.perform (.writeVersion n) c s).2.2 := by
  rcases hperform : L.perform (.writeVersion n) c s with ⟨x, c', s'⟩
  cases hw : a.work c s with
  | some w =>
    obtain ⟨hstored, hok, herror⟩ := ha.writeInside hlive hw hperform
    refine ⟨by rw [hstored]; exact h.1, fun w' hw' => ?_⟩
    cases x with
    | ok _ =>
      obtain ⟨v, hv, -⟩ := hok rfl
      rw [hv] at hw'
      cases hw'
      exact h.2 w hw
    | error e =>
      rcases herror e rfl with hsame | hnone
      · exact h.2 w' (hw.trans (hsame.symm.trans hw'))
      · rw [hnone] at hw'
        cases hw'
  | none =>
    obtain ⟨hnone, hok, herror⟩ := ha.writeOutside hlive hw hperform
    refine ⟨?_, fun w' hw' => ?_⟩
    · cases x with
      | ok _ =>
        obtain ⟨v, hv, -⟩ := hok rfl
        rw [hv]
        exact h.1
      | error e =>
        rw [herror e rfl]
        exact h.1
    · rw [hnone] at hw'
      cases hw'

/-- **What is done to a database of its own keeps every property of the tables that the statements keep.** -/
theorem keeps_allows (hspares : a.Spares L Q D) :
    Allows L Q fun p q : Handle C × S × W => Keeps a D p → Keeps a D q where
  stepwise := ⟨fun _ h => h, fun first second h => second (first h)⟩
  emit _ _ h := ⟨⟨h.stands.location, h.stands.standing⟩, h.holds⟩
  note _ _ h := ⟨⟨h.stands.location, h.stands.standing⟩, h.holds⟩
  request r _ htext hq _ := request_keeps ha r fun _ _ hlive hhas => hspares r htext hq hlive hhas
  own _ hsql _ := request_keeps ha _ fun _ _ hlive hhas => own_keeps ha hsql hlive hhas
  readVersion _ := request_keeps ha _ fun _ _ hlive hhas => readVersion_keeps ha hlive hhas
  writeVersion n _ := request_keeps ha _ fun _ _ hlive hhas => writeVersion_keeps ha n hlive hhas
  around _ _ h hp :=
    have hq := h ⟨⟨hp.stands.location, hp.stands.standing⟩, hp.holds⟩
    ⟨⟨hq.stands.location, hq.stands.standing⟩, hq.holds⟩

theorem close_keeps (h : Keeps a D p) : Keeps a D (close L p) := by
  obtain ⟨hstands, hstored, hwork, -⟩ := close_stands ha h.stands
  exact ⟨hstands, h.holds.congr (hstored (.inl rfl)) (hwork (.inl rfl))⟩

theorem openUp_keeps (hspares : a.Spares L Q D) (hasks : p.1.hooks.Ask fun s => Q s.text) (h : Keeps a D p) :
    Keeps a D (openUp L p).2 := by
  refine (keeps_allows ha hspares).openUp hasks (fun hp => ?_) (fun _ hp => ?_) (fun _ hp => close_keeps ha hp) h
  · obtain ⟨hstands, hstored, hwork⟩ := connected_stands ha hp.stands
    exact ⟨hstands, hp.holds.congr hstored hwork⟩
  · exact ⟨⟨hp.stands.location, hp.stands.standing⟩, hp.holds⟩

end

/-! ## Everything that can happen -/

/-- a use of a handle, or whatever others do in the meantime: what the engine keeps and the world are different then -/
inductive Move (S W : Type) where
  | use (u : Use)
  | elsewhere (s : S) (w : W)

def Move.take [Reporting W] (L : Library C S) : Move S W → Handle C × S × W → Handle C × S × W
  | use u, p => u.take L p
  | elsewhere s w, p => (p.1, s, w)

/-- the state after all that happened -/
def afterMoves [Reporting W] (L : Library C S) (moves : List (Move S W)) (p : Handle C × S × W) : Handle C × S × W :=
  moves.foldl (fun p m => m.take L p) p

/-- all uses are of a kind, and so is what others do -/
def Along [Reporting W] (L : Library C S) (K : Use → Prop) (E : Handle C × S × W → S → Prop) :
    List (Move S W) → Handle C × S × W → Prop
  | [], _ => True
  | .use u :: rest, p => K u ∧ Along L K E rest (u.take L p)
  | .elsewhere s w :: rest, p => E p s ∧ Along L K E rest (p.1, s, w)

/-- others leave the database to the handle -/
def LeftTo (a : Account C S T) (p : Handle C × S × W) (s : S) : Prop := Standing a (p.1, s, p.2.2)

/-- others leave the database to the handle, and as it is -/
structure Respected (a : Account C S T) (p : Handle C × S × W) (s : S) : Prop where
  left : LeftTo a p s
  stored : storedOf a (p.1, s, p.2.2) = storedOf a p
  work : workOf a (p.1, s, p.2.2) = workOf a p

/-- opening and closing, and statements with a text of a kind, by hooks or not -/
def Use.Within (Q : String → Prop) : Use → Prop
  | opened o => o.hooks.Ask fun s => Q s.text
  | asked s => Q s.text
  | closed => True

variable [Reporting W]

theorem Use.take_lasting (u : Use) (p : Handle C × S × W) : Lasting L p (u.take L p) := by
  cases u with
  | opened o =>
    have hoptions : Lasting L p (Handle.withOpenOptions o p) := ⟨rfl, fun _ c hc => ⟨c, hc, .refl⟩⟩
    exact (Lasting.stepwise L).trans hoptions (openUp_lasting _)
  | asked s => exact (ask_respects steers_allows s p).lasting
  | closed => exact close_lasting p

theorem Move.take_coupled (m : Move S W) (hp : Coupled p) : Coupled (m.take L p) := by
  cases m with
  | use u => exact u.take_coupled hp
  | elsewhere s w => exact ⟨hp.live, hp.dropped⟩

theorem Move.take_lasting (m : Move S W) (p : Handle C × S × W) : Lasting L p (m.take L p) := by
  cases m with
  | use u => exact u.take_lasting p
  | elsewhere s w => exact ⟨rfl, fun _ c hc => ⟨c, hc, .refl⟩⟩

/-- **The flag and the connection agree, whatever happens.** -/
theorem afterMoves_coupled (moves : List (Move S W)) :
    ∀ {p : Handle C × S × W}, Coupled p → Coupled (afterMoves L moves p) := by
  induction moves with
  | nil => exact fun hp => hp
  | cons m rest ih => exact fun hp => ih (m.take_coupled hp)

theorem afterMoves_lasting (moves : List (Move S W)) (p : Handle C × S × W) : Lasting L p (afterMoves L moves p) := by
  induction moves generalizing p with
  | nil => exact (Lasting.stepwise L).refl p
  | cons m rest ih => exact (Lasting.stepwise L).trans (m.take_lasting p) (ih (m.take L p))

/-- **A handle stands on its database**, as long as others leave that one to it. -/
theorem afterMoves_stands (ha : a.Followed L location) {K : Use → Prop} (moves : List (Move S W)) :
    ∀ {p : Handle C × S × W}, Along L K (LeftTo a) moves p → Stands a location p →
      Stands a location (afterMoves L moves p) := by
  induction moves with
  | nil => exact fun _ hp => hp
  | cons m rest ih =>
    intro p halong hp
    cases m with
    | use u => exact ih halong.2 (u.take_stands ha hp)
    | elsewhere s w => exact ih halong.2 ⟨hp.location, halong.1⟩

theorem Use.take_keeps (ha : a.Followed L .own) (hspares : a.Spares L Q D) {u : Use} (hu : u.Within Q)
    (h : Keeps a D p) : Keeps a D (u.take L p) := by
  cases u with
  | opened o => exact openUp_keeps ha hspares hu ⟨h.stands.withOpenOptions o, h.holds⟩
  | asked s =>
    have hallows := keeps_allows (W := W) ha hspares
    exact hallows.channel.ask hallows.stepwise (s := s) hu p h
  | closed => exact close_keeps ha h

/-- **What is kept in a database of its own survives openings and closings**, as far as the statements keep it. -/
theorem afterMoves_keep (ha : a.Followed L .own) (hspares : a.Spares L Q D) (moves : List (Move S W)) :
    ∀ {p : Handle C × S × W}, Along L (Use.Within Q) (Respected a) moves p → Keeps a D p →
      Keeps a D (afterMoves L moves p) := by
  induction moves with
  | nil => exact fun _ hp => hp
  | cons m rest ih =>
    intro p halong hp
    cases m with
    | use u => exact ih halong.2 (Use.take_keeps ha hspares halong.1 hp)
    | elsewhere s w =>
      exact ih halong.2 ⟨⟨hp.stands.location, halong.1.left⟩, hp.holds.congr halong.1.stored halong.1.work⟩

/-- **The discipline of the flag.** Whatever is done with a handle at a location of any kind, and whatever others do
in the meantime: an open handle has a connection; a handle that does not open is closed; the connection to a file or
to a shared database is there exactly while the handle is open, and the one to a database of its own stays the same
one for good; and a closed handle refuses every statement and changes neither itself nor what the engine keeps. As
long as others leave the database to the handle, the connection is live; and what the tables of a database of its own
satisfy is kept by any number of openings and closings, as far as the statements of the hooks keep it. -/
theorem open_state_discipline (L : Library C S) (name : String) (location : Location) (log : StatementLog) (s : S)
    (w : W) (moves : List (Move S W)) :
    let p := afterMoves L moves (fresh name location log s w)
    (p.1.isOpen = true → p.1.connection.isSome = true) ∧
    (∀ o e, p.1.isOpen = false → (openUp L (withOpenOptions o p)).1 = .error e →
      (openUp L (withOpenOptions o p)).2.1.isOpen = false) ∧
    (location ≠ .own → (p.1.connection.isSome = true ↔ p.1.isOpen = true)) ∧
    (location = .own → ∀ c, p.1.connection = some c → ∀ more, ∃ d,
      (afterMoves L more p).1.connection = some d ∧ Descends L c d) ∧
    (p.1.isOpen = false → ∀ q, ∃ v, (channel L).ask q p = (.error (q.refusal p.1.name), p.1, p.2.1, v)) ∧
    ∀ (T : Type) (a : Account C S T), a.Followed L location → a.ready s →
      Along L (fun _ => True) (LeftTo a) moves (fresh name location log s w) →
      (∀ c, p.1.connection = some c → a.live c p.2.1) ∧
      (location = .own → ∀ Q D, a.Spares L Q D → Holds a D p → ∀ more, Along L (Use.Within Q) (Respected a) more p →
        Holds a D (afterMoves L more p)) := by
  intro p
  have hcoupled : Coupled p := afterMoves_coupled moves (fresh_coupled name location log s w)
  have hlocation : p.1.location = location :=
    (afterMoves_lasting (L := L) moves (fresh name location log s w)).1
  refine ⟨hcoupled.live, fun o e hclosed herror => ?_, fun hl => ⟨fun hsome => ?_, hcoupled.live⟩, fun hl c hc more => ?_,
    fun hclosed q => ask_closed L hclosed q, fun T a ha hready halong => ?_⟩
  · rw [openUp_flag (W := W) overlooks_nothing, herror]
    exact hclosed
  · cases ho : p.1.isOpen with
    | true => rfl
    | false =>
      rw [hcoupled.dropped ho fun he => hl (hlocation.symm.trans he)] at hsome
      cases hsome
  · exact (afterMoves_lasting more p).2 (hlocation.trans hl) c hc
  · have hstands : Stands a location p := afterMoves_stands ha moves halong ⟨rfl, hready⟩
    refine ⟨fun c hc => (standing_of_some hc).1 hstands.standing, ?_⟩
    rintro rfl Q D hspares hholds more hmore
    exact (afterMoves_keep ha hspares more hmore ⟨hstands, hholds⟩).holds

open Engine Storage

/-- texts in which the engine here finds nothing but reading -/
def Reads (sql : String) : Prop := ∀ cmd ∈ Grammar.readable sql, ∃ r, cmd = .data (.read r)

/-- reading keeps every property of the tables -/
theorem reading_spares (D : List StoredTable → Prop) : privateMemory.Spares library Reads D := by
  intro α r sql c s htext hreads hlive hhas
  obtain ⟨n, v, h⟩ := hlive
  have hcontrols : ¬ privateMemory.controls sql := by
    rintro ⟨k, hk⟩
    obtain ⟨_, hr⟩ := hreads _ hk
    cases hr
  have hkeeps : ∀ d, Command.data d ∈ Grammar.readable sql → Connection.Keeps (fun db => D db.tables) d := by
    intro d hd
    obtain ⟨_, hr⟩ := hreads _ hd
    cases hr
    exact ⟨fun _ _ h => h, fun db args reply h hreply => Database.apply_of_reading (by
      simp only [Demand.of?]
      split
      · rfl
      · rfl) hreply ▸ h⟩
  obtain ⟨hstored, hwork⟩ := hhas
  rw [h.stored] at hstored
  rw [h.work] at hwork
  rcases hrun : library.perform r c s with ⟨x, c', s'⟩
  obtain ⟨v', hanswer, -, hafter⟩ := h.perform r hrun
  unfold Account.Has
  rw [hafter.stored, hafter.work]
  cases ht : c.transaction with
  | none =>
    obtain ⟨hnone, hkept⟩ := h.sole.statement_outside htext (calm_commands hcontrols) ht hstored hkeeps
    rw [hanswer] at hnone hkept
    refine ⟨hkept, fun w hw => ?_⟩
    rw [Connection.work?_outside hnone] at hw
    cases hw
  | some t =>
    have hsome : c.transaction.isSome = true := by rw [ht]; rfl
    obtain ⟨hstill, hdb, hkept⟩ := h.sole.statement_inside htext (calm_commands hcontrols) hsome
      (hwork _ (Connection.work?_inside hsome v)) hkeeps
    rw [hanswer] at hstill hdb hkept
    refine ⟨?_, fun w hw => ?_⟩
    · rw [hdb]
      exact hstored
    · rw [Connection.work?_inside hstill] at hw
      cases hw
      exact hkept

/-- a note is taken and the handle is closed -/
def noteMoves : List (Move Storage Notebook) := noteTaken.map .use

/-- the handle of the note; not to be evaluated but by the kernel -/
@[irreducible]
def shutNotes : Handle Connection × Storage × Notebook := afterMoves library noteMoves ownNotes

/-- the notes are read after opening -/
def readingHooks : Hooks where
  onCreate := none
  onUpgrade := none
  onOpen := some (.execute "SELECT body FROM notes" (Hook.orFail fun _ => .done))

/-- openings, of which the second one is refused -/
def laterMoves : List (Move Storage Notebook) :=
  [.use (.opened ⟨3, readingHooks⟩), .use .closed, .use (.opened ⟨2, readingHooks⟩), .use (.opened ⟨3, readingHooks⟩),
    .use .closed]

theorem readingHooks_read : readingHooks.Ask fun s => Reads s.text := by
  have hreads : Reads "SELECT body FROM notes" := by
    have hall : ((Grammar.readable "SELECT body FROM notes").all fun cmd => match cmd with
        | .data (.read _) => true
        | _ => false) = true := by decide +kernel
    intro cmd hcmd
    have hcmd := List.all_eq_true.1 hall cmd hcmd
    split at hcmd
    · exact ⟨_, rfl⟩
    · cases hcmd
  refine ⟨fun k hk => (by cases hk), fun k current requested hk => (by cases hk), fun k hk => ?_⟩
  cases hk
  refine ⟨hreads, fun x => ?_⟩
  cases x with
  | error e => trivial
  | ok a => trivial

/-- the closed notes refuse to be thrown away, and the note is still there after openings and closings -/
theorem shutNotes_survive :
    (∃ v, (channel library).ask (.execute "DELETE FROM notes") shutNotes =
      (.error (.notOpen shutNotes.1.name), shutNotes.1, shutNotes.2.1, v)) ∧
    (storedOf privateMemory (afterMoves library laterMoves shutNotes)).tables =
      (storedOf privateMemory shutNotes).tables ∧
    ((storedOf privateMemory shutNotes).tables.map fun t => t.rows.length) = [1] := by
  have h := open_state_discipline library "notes.db" .own .standard Storage.empty (⟨[]⟩ : Notebook) noteMoves
  have hnotes : shutNotes = afterMoves library noteMoves ownNotes := by
    unfold shutNotes
    rfl
  unfold ownNotes at hnotes
  rw [← hnotes] at h
  obtain ⟨-, -, -, -, hrefuses, hdata⟩ := h
  have hidle : workOf privateMemory shutNotes = none := Option.isNone_iff_eq_none.1 (by decide +kernel)
  obtain ⟨-, hsurvives⟩ := hdata _ privateMemory privateMemory_followed empty_counted
    ⟨trivial, trivial, trivial, trivial⟩
  have hkept := hsurvives rfl Reads _ (reading_spares fun tables => tables = (storedOf privateMemory shutNotes).tables)
    ⟨rfl, fun w hw => by rw [hidle] at hw; cases hw⟩ laterMoves
    ⟨readingHooks_read, trivial, readingHooks_read, readingHooks_read, trivial, trivial⟩
  exact ⟨hrefuses (by decide +kernel) (.execute "DELETE FROM notes"), hkept.1, by decide +kernel⟩

end Handle

end FluentSql.Embedded
