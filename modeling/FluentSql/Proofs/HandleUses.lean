import FluentSql.Proofs.Accounts
/-!
Handles in use. The flag and the connection are two fields, and opening, its way back after a failure and closing
change them in different orders; between these steps they agree (`Coupled`): an open handle has a connection, and a
closed one has none unless its database is its own. Only requests change a connection that is kept (`Steers`).
Whatever a handle is used for, it stands on its database, where an account tells what the engine does (`Stands`).
-/

namespace FluentSql

/-- what a closed handle of a name answers to a statement; one that sets nothing is refused before the handle is looked
at -/
def Statement.refusal (name : String) : Statement → DbError
  | .update table values _ _ => if values.isEmpty then .validation (.emptyUpdate table) else .notOpen name
  | _ => .notOpen name

namespace Embedded.Handle

variable {C S W T α : Type} {L : Library C S} {p q r : Handle C × S × W}

/-! ## Closed handles -/

section

variable [Reporting W]

/-- what is refused after a report is refused -/
theorem reported_refused {e : DbError} {t : Act C S W α} (sql : String) (parameters : Nat)
    (ht : ∀ w, t (p.1, p.2.1, w) = (.error e, p.1, p.2.1, w)) :
    ∃ w, (do logged sql parameters; t) p = (.error e, p.1, p.2.1, w) := by
  obtain ⟨w, hrun⟩ := reported_run sql parameters t p
  exact ⟨w, hrun.trans (ht w)⟩

/-- **A closed handle refuses every statement**, and changes neither itself nor what the engine keeps. -/
theorem ask_closed (L : Library C S) (hclosed : p.1.isOpen = false) (s : Statement) :
    ∃ w, (channel L).ask s p = (.error (s.refusal p.1.name), p.1, p.2.1, w) := by
  have hthen : ∀ {β γ : Type} {t : Act C S W β} {e : DbError} {q : Handle C × S × W} {next : β → Act C S W γ},
      t q = (.error e, q) → (t >>= next) q = (.error e, q) := fun ht => by
    rw [Task.bind_eq, ht]
  have hrefused : ∀ {β : Type} {t : Act C S W β} {e : DbError} {w : W} {next : β → Act C S W StatementReply},
      t p = (.error e, p.1, p.2.1, w) → (t >>= next) p = (.error e, p.1, p.2.1, w) := fun ht => by
    rw [Task.bind_eq, ht]
  have hrequest : ∀ {β : Type} (r : Request β) (w : W),
      request L r (p.1, p.2.1, w) = (.error (.notOpen p.1.name), p.1, p.2.1, w) := fun r w =>
    request_closed (p := (p.1, p.2.1, w)) r hclosed
  cases s with
  | execute sql =>
    obtain ⟨w, hrun⟩ := reported_refused sql 0 (hrequest (.batch sql))
    exact ⟨w, hrefused hrun⟩
  | query q =>
    obtain ⟨w, hrun⟩ := reported_refused (SqlText.select q) q.args.length
      (hrequest (.query (SqlText.select q) (q.args.map .text)))
    exact ⟨w, hrefused hrun⟩
  | insert table values =>
    obtain ⟨w, hrun⟩ := reported_refused (SqlText.insert table values) values.size fun w =>
      hthen (hrequest (.change (SqlText.insert table values) values.values) w)
    exact ⟨w, hrefused hrun⟩
  | update table values condition args =>
    simp only [Statement.refusal]
    cases hempty : values.isEmpty with
    | true =>
      have hrun : (update L table values condition args : Act C S W Nat) p =
          (.error (.validation (.emptyUpdate table)), p) := by
        rw [update, if_pos hempty]
        rfl
      exact ⟨p.2.2, hrefused hrun⟩
    | false =>
      obtain ⟨w, hrun⟩ := reported_refused (SqlText.update table values condition)
        (values.values ++ args.map Value.text).length
        (hrequest (.change (SqlText.update table values condition) (values.values ++ args.map .text)))
      have hupdate : (update L table values condition args : Act C S W Nat) p =
          (.error (.notOpen p.1.name), p.1, p.2.1, w) := by
        rw [update, if_neg (by simp [hempty])]
        exact hrun
      exact ⟨w, hrefused hupdate⟩
  | delete table condition args =>
    obtain ⟨w, hrun⟩ := reported_refused (SqlText.delete table condition) args.length
      (hrequest (.change (SqlText.delete table condition) (args.map .text)))
    exact ⟨w, hrefused hrun⟩

end

/-! ## Closing -/

section

variable [Reporting W]

theorem close_location (p : Handle C × S × W) : (close L p).1.location = p.1.location := by
  unfold close
  split
  · rfl
  · rfl
  · dsimp only
    split
    · rfl
    · rfl

/-- a database of its own keeps the connection -/
theorem close_of_own (hl : p.1.location = .own) : close L p = ({ p.1 with isOpen := false }, p.2) := by
  unfold close
  rw [hl]

theorem close_of_none (hnone : p.1.connection = none) : close L p = ({ p.1 with isOpen := false }, p.2) := by
  obtain ⟨⟨name, location, connection, isOpen, version, hooks, log⟩, s, w⟩ := p
  cases hnone
  cases location with
  | own => rfl
  | file path => rfl
  | shared address => rfl

/-- the connection of any other ends -/
theorem close_of_some {c : C} (hl : p.1.location ≠ .own) (hc : p.1.connection = some c) :
    ∃ w, close L p = ({ p.1 with isOpen := false, connection := none }, (L.close c p.2.1).2, w) := by
  obtain ⟨⟨name, location, connection, isOpen, version, hooks, log⟩, s, w⟩ := p
  cases hc
  unfold close
  dsimp only at hl ⊢
  cases location with
  | own => exact absurd rfl hl
  | file path =>
    dsimp only
    split
    · exact ⟨_, rfl⟩
    · exact ⟨_, rfl⟩
  | shared address =>
    dsimp only
    split
    · exact ⟨_, rfl⟩
    · exact ⟨_, rfl⟩

theorem close_disconnects (hl : p.1.location ≠ .own) : (close L p).1.connection = none := by
  cases hconnection : p.1.connection with
  | none =>
    rw [close_of_none hconnection]
    exact hconnection
  | some c =>
    obtain ⟨w, hclose⟩ := close_of_some (L := L) hl hconnection
    rw [hclose]

end

/-! ## The flag and the connection -/

/-- an open handle has a connection; a closed one has none, unless its database is its own -/
structure Coupled (p : Handle C × S × W) : Prop where
  live : p.1.isOpen = true → p.1.connection.isSome = true
  dropped : p.1.isOpen = false → p.1.location ≠ .own → p.1.connection = none

/-- requests lead from one state of a connection to another -/
inductive Descends (L : Library C S) (c : C) : C → Prop
  | refl : Descends L c c
  | request {β : Type} {d : C} (r : Request β) (s : S) : Descends L c d → Descends L c (L.perform r d s).2.1

theorem Descends.trans {c d e : C} (first : Descends L c d) (second : Descends L d e) : Descends L c e := by
  induction second with
  | refl => exact first
  | request r s _ ih => exact .request r s ih

/-- the same flag, the same location, and the same connection if there is one, as far as requests have led it -/
structure Steers (L : Library C S) (p q : Handle C × S × W) : Prop where
  isOpen : q.1.isOpen = p.1.isOpen
  location : q.1.location = p.1.location
  connection : ∀ c, p.1.connection = some c → ∃ d, q.1.connection = some d ∧ Descends L c d
  unconnected : p.1.connection = none → q.1.connection = none

theorem Steers.stepwise : Stepwise (Steers (W := W) L) where
  refl _ := ⟨rfl, rfl, fun c hc => ⟨c, hc, .refl⟩, id⟩
  trans first second := by
    refine ⟨second.isOpen.trans first.isOpen, second.location.trans first.location, fun c hc => ?_,
      fun hnone => second.unconnected (first.unconnected hnone)⟩
    obtain ⟨d, hd, hsame⟩ := first.connection c hc
    obtain ⟨e, he, hsame'⟩ := second.connection d hd
    exact ⟨e, he, hsame.trans hsame'⟩

theorem request_steers (r : Request α) : (request L r : Act C S W α).Respects (Steers L) := by
  intro p
  unfold request
  split
  · rename_i c hc hopen
    refine ⟨rfl, rfl, fun d hd => ?_, fun hnone => ?_⟩
    · rw [hc] at hd
      cases hd
      exact ⟨_, rfl, .request r p.2.1 .refl⟩
    · rw [hc] at hnone
      cases hnone
  · exact Steers.stepwise.refl p

theorem steers_allows [Reporting W] : Allows L (fun _ => True) (Steers (W := W) L) where
  stepwise := Steers.stepwise
  emit _ _ := ⟨rfl, rfl, fun c hc => ⟨c, hc, .refl⟩, id⟩
  note _ _ := ⟨rfl, rfl, fun c hc => ⟨c, hc, .refl⟩, id⟩
  request r _ _ _ := request_steers r
  own _ _ := request_steers _
  readVersion := request_steers _
  writeVersion _ := request_steers _
  around _ _ h := ⟨h.isOpen, h.location, h.connection, h.unconnected⟩

theorem Steers.coupled (h : Steers L p q) (hp : Coupled p) : Coupled q where
  live hopen := by
    obtain ⟨c, hc⟩ := Option.isSome_iff_exists.1 (hp.live (h.isOpen.symm.trans hopen))
    obtain ⟨d, hd, -⟩ := h.connection c hc
    rw [hd]
    rfl
  dropped hclosed hl := h.unconnected (hp.dropped (h.isOpen.symm.trans hclosed) (h.location ▸ hl))

variable [Reporting W]

/-- closing couples whatever there was before -/
theorem close_coupled (p : Handle C × S × W) : Coupled (close L p) where
  live hopen := by
    rw [close_closes p] at hopen
    cases hopen
  dropped _ hl := close_disconnects (close_location (L := L) p ▸ hl)

omit [Reporting W] in
/-- connecting either leaves a connection behind or the handle as it was, without one -/
theorem connected_cases (L : Library C S) (p : Handle C × S × W) :
    (∃ q c, connected L p = (.ok (), q) ∧ q.1 = { p.1 with connection := some c } ∧
      ∀ d, p.1.connection = some d → c = d) ∨
    ∃ e s, connected L p = (.error e, p.1, s, p.2.2) ∧ p.1.connection = none := by
  cases hc : p.1.connection with
  | some c =>
    refine .inl ⟨p, c, connected_of_some hc, ?_, fun d hd => Option.some.inj hd⟩
    rw [← hc]
  | none =>
    rcases hconnect : connect L p.1.location p.2.1 with ⟨e | c, s⟩
    · exact .inr ⟨e, s, connected_of_error hc hconnect, rfl⟩
    · exact .inl ⟨_, c, connected_of_ok hc hconnect, rfl, fun d hd => by cases hd⟩

/-- an opening of a closed handle runs the lifecycle on the connection, or does not get that far -/
theorem openUp_lifecycle (L : Library C S) (hclosed : p.1.isOpen = false) :
    (∃ e s, openUp L p = (.error e, p.1, s, p.2.2) ∧ p.1.connection = none) ∨
    ∃ c q r x, Steers L (raised q) r ∧ openUp L p = orClosed L (x, r) ∧ q.1 = { p.1 with connection := some c } ∧
      ∀ d, p.1.connection = some d → c = d := by
  rw [openUp_eq, hclosed]
  simp only [Bool.false_eq_true, if_false]
  rw [start_eq]
  rcases connected_cases L p with ⟨q, c, hc, hq, hsame⟩ | ⟨e, s, hc, hnone⟩
  · rw [hc]
    exact .inr ⟨c, q, _, _, steers_allows.runLifecycle (p := raised q) (Hooks.ask_any _), rfl, hq, hsame⟩
  · rw [hc]
    exact .inl ⟨e, s, rfl, hnone⟩

theorem openUp_coupled (hp : Coupled p) : Coupled (openUp L p).2 := by
  cases ho : p.1.isOpen with
  | true =>
    rw [(openUp_open ho).1]
    exact hp
  | false =>
    rcases openUp_lifecycle L ho with ⟨e, s, hrun, hnone⟩ | ⟨c, q, r, x, hsteers, hrun, hq, -⟩
    · rw [hrun]
      exact ⟨hp.live, hp.dropped⟩
    · rw [hrun]
      cases x with
      | error e => exact close_coupled r
      | ok _ =>
        have hraised : Coupled (raised q) := by
          refine ⟨fun _ => ?_, fun hclosed => by cases hclosed⟩
          show q.1.connection.isSome = true
          rw [hq]
          rfl
        exact hsteers.coupled hraised

/-! ## On the database -/

variable {a : Account C S T} {location : Location}

/-- a handle of a location that stands on its database -/
structure Stands (a : Account C S T) (location : Location) (p : Handle C × S × W) : Prop where
  location : p.1.location = location
  standing : Standing a p

section

variable (ha : a.Followed L location)

include ha

omit [Reporting W] in
/-- preparing a location leaves the database as it is -/
theorem prepare_ready {s t : S} {x : Except IoFault Unit} (hready : a.ready s) (h : prepare L location s = (x, t)) :
    a.ready t ∧ a.found t = a.found s := by
  rcases prepare_cases L location s with hsame | ⟨dir, hmade⟩
  · rw [h] at hsame
    cases hsame
    exact ⟨hready, rfl⟩
  · have hprepared := ha.prepared dir s hready
    rw [← hmade, h] at hprepared
    exact hprepared

omit [Reporting W] in
/-- connecting leads to the database and does nothing to it, also where it fails -/
theorem connected_stands (h : Stands a location p) :
    Stands a location (connected L p).2 ∧ storedOf a (connected L p).2 = storedOf a p ∧
      workOf a (connected L p).2 = workOf a p := by
  cases hc : p.1.connection with
  | some c =>
    rw [connected_of_some hc]
    exact ⟨h, rfl, rfl⟩
  | none =>
    have hready := (standing_of_none hc).1 h.standing
    rw [storedOf_of_none hc, workOf_of_none hc]
    rcases hconnect : connect L p.1.location p.2.1 with ⟨e | c, t⟩
    · have hreal := connected_of_error hc hconnect
      rw [hreal, storedOf_of_none (p := (p.1, t, p.2.2)) hc, workOf_of_none (p := (p.1, t, p.2.2)) hc]
      rw [h.location] at hconnect
      have hafter : a.ready t ∧ a.found t = a.found p.2.1 := by
        rcases connect_refused hconnect with ⟨why, hprepare⟩ | ⟨s', why, hprepare, hopen⟩
        · exact prepare_ready ha hready hprepare
        · obtain ⟨hready', hfound⟩ := prepare_ready ha hready hprepare
          obtain ⟨hafter, hsame⟩ := ha.refused hready' hopen
          exact ⟨hafter, hsame.trans hfound⟩
      exact ⟨⟨h.location, (standing_of_none (p := (p.1, t, p.2.2)) hc).2 hafter.1⟩, hafter.2, rfl⟩
    · rw [connected_of_ok hc hconnect]
      rw [h.location] at hconnect
      obtain ⟨s', hprepare, hopen⟩ := connect_made hconnect
      obtain ⟨hready', hfound⟩ := prepare_ready ha hready hprepare
      obtain ⟨hlive, hwork, hstored⟩ := ha.opened hready' hopen
      exact ⟨⟨h.location, hlive⟩, hstored.trans hfound, hwork⟩

/-- closing leaves the database as it was committed, if it goes on; an open transaction ends with the connection -/
theorem close_stands (h : Stands a location p) :
    Stands a location (close L p) ∧
      (location = .own ∨ a.lasts → storedOf a (close L p) = storedOf a p) ∧
      (location = .own ∨ p.1.connection = none → workOf a (close L p) = workOf a p) ∧
      (location ≠ .own → workOf a (close L p) = none) := by
  by_cases hl : location = .own
  · rw [close_of_own (L := L) (h.location.trans hl)]
    exact ⟨⟨h.location, h.standing⟩, fun _ => rfl, fun _ => rfl, fun hne => absurd hl hne⟩
  · cases hc : p.1.connection with
    | none =>
      rw [close_of_none (L := L) hc]
      exact ⟨⟨h.location, h.standing⟩, fun _ => rfl, fun _ => rfl, fun _ => workOf_of_none hc⟩
    | some c =>
      obtain ⟨w, hclose⟩ := close_of_some (L := L) (fun he => hl (h.location.symm.trans he)) hc
      obtain ⟨hready, hfound⟩ := ha.closed ((standing_of_some hc).1 h.standing)
      rw [hclose, storedOf_of_some hc]
      refine ⟨⟨h.location, hready⟩, fun hlasts => hfound (hlasts.resolve_left hl), fun hor => ?_, fun _ => rfl⟩
      rcases hor with hown | hnone
      · exact absurd hown hl
      · cases hnone

omit [Reporting W] in
theorem request_stands (r : Request α) (h : Stands a location p) : Stands a location (request L r p).2 := by
  unfold request
  split
  · rename_i c hc hopen
    exact ⟨h.location, ha.live r ((standing_of_some hc).1 h.standing)⟩
  · exact h

theorem stands_allows :
    Allows L (fun _ => True) fun p q : Handle C × S × W => Stands a location p → Stands a location q where
  stepwise := ⟨fun _ h => h, fun first second h => second (first h)⟩
  emit _ _ h := ⟨h.location, h.standing⟩
  note _ _ h := ⟨h.location, h.standing⟩
  request r _ _ _ _ := request_stands ha r
  own _ _ _ := request_stands ha _
  readVersion _ := request_stands ha _
  writeVersion _ _ := request_stands ha _
  around _ _ h hp :=
    have hq := h ⟨hp.location, hp.standing⟩
    ⟨hq.location, hq.standing⟩

theorem openUp_stands (h : Stands a location p) : Stands a location (openUp L p).2 :=
  (stands_allows ha).openUp (Hooks.ask_any _) (fun hp => (connected_stands ha hp).1)
    (fun _ hp => ⟨hp.location, hp.standing⟩) (fun _ hp => (close_stands ha hp).1) h

end

/-! ## Uses -/

/-- what can be done with a handle: open it with some options, ask it for a statement, or close it -/
inductive Use where
  | opened (o : OpenOptions)
  | asked (s : Statement)
  | closed

/-- the handle with options -/
def withOpenOptions {W : Type} (o : OpenOptions) (p : Handle C × S × W) : Handle C × S × W := (p.1.withOptions o, p.2)

def Use.take (L : Library C S) : Use → Handle C × S × W → Handle C × S × W
  | opened o, p => (openUp L (withOpenOptions o p)).2
  | asked s, p => ((channel L).ask s p).2
  | closed, p => close L p

/-- the state after any uses -/
def afterUses (L : Library C S) (uses : List Use) (p : Handle C × S × W) : Handle C × S × W :=
  uses.foldl (fun p u => u.take L p) p

/-- a new handle -/
def fresh {W : Type} (name : String) (location : Location) (log : StatementLog) (s : S) (w : W) : Handle C × S × W :=
  ((atLocation name location).withStatementLog log, s, w)

omit [Reporting W] in
theorem fresh_coupled (name : String) (location : Location) (log : StatementLog) (s : S) (w : W) :
    Coupled (fresh (C := C) name location log s w) := ⟨fun hopen => (by cases hopen), fun _ _ => rfl⟩

omit [Reporting W] in
theorem Coupled.withOpenOptions (hp : Coupled p) (o : OpenOptions) : Coupled (withOpenOptions o p) :=
  ⟨hp.live, hp.dropped⟩

omit [Reporting W] in
theorem Stands.withOpenOptions (hp : Stands a location p) (o : OpenOptions) :
    Stands a location (withOpenOptions o p) := ⟨hp.location, hp.standing⟩

theorem ask_respects {R : Handle C × S × W → Handle C × S × W → Prop} (hR : Allows L (fun _ => True) R)
    (s : Statement) : ((channel L).ask s : Act C S W StatementReply).Respects R :=
  hR.channel.ask hR.stepwise (s := s) trivial

theorem Use.take_coupled (u : Use) (hp : Coupled p) : Coupled (u.take L p) := by
  cases u with
  | opened o => exact openUp_coupled (hp.withOpenOptions o)
  | asked s => exact (ask_respects steers_allows s p).coupled hp
  | closed => exact close_coupled p

theorem Use.take_stands (ha : a.Followed L location) (u : Use) (hp : Stands a location p) :
    Stands a location (u.take L p) := by
  cases u with
  | opened o => exact openUp_stands ha (hp.withOpenOptions o)
  | asked s => exact ask_respects (stands_allows ha) s p hp
  | closed => exact (close_stands ha hp).1

theorem afterUses_coupled (uses : List Use) : ∀ {p : Handle C × S × W}, Coupled p → Coupled (afterUses L uses p) := by
  induction uses with
  | nil => exact fun hp => hp
  | cons u rest ih => exact fun hp => ih (u.take_coupled hp)

/-- **A handle stands on its database, whatever it is used for.** -/
theorem afterUses_stands (ha : a.Followed L location) (uses : List Use) :
    ∀ {p : Handle C × S × W}, Stands a location p → Stands a location (afterUses L uses p) := by
  induction uses with
  | nil => exact fun hp => hp
  | cons u rest ih => exact fun hp => ih (u.take_stands ha hp)

end Embedded.Handle

end FluentSql
