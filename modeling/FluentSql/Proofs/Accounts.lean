import FluentSql.Proofs.OpeningCourse
/-!
What is known of the database at a location. The engine is not part of this library, so what it does to a database is
said by an account: what a connection finds there, what is committed, and what an open transaction of the connection
has made of it (`Account`). The laws are those of transactions as the engine documents them (`Account.Followed`): a
transaction begins with what is committed and ends by committing its work or by forgetting it, a statement that does
not control transactions commits by itself outside of one and works on its copy inside, and the version is stored with
the tables.

A handle then always stands on its database (`Standing`), whatever it is asked for.
-/

namespace FluentSql.Embedded

/-- what is stored with a database -/
structure Content (T : Type) where
  tables : T
  version : Int

/-- an account of the database at a location -/
structure Account (C S T : Type) where
  /-- nobody is at work on the database; a connection can be made to it -/
  ready : S → Prop
  /-- what a new connection finds -/
  found : S → Content T
  /-- the connection leads to the database, and nobody else is at work on it -/
  live : C → S → Prop
  /-- what is committed -/
  stored : C → S → Content T
  /-- what the open transaction of a connection has made of it -/
  work : C → S → Option (Content T)
  /-- the database goes on when its connection ends -/
  lasts : Prop
  /-- the tables of a new database -/
  empty : T
  /-- the texts that begin or end transactions -/
  controls : String → Prop
  /-- the texts that write the version -/
  revises : String → Prop

namespace Account

variable {C S T : Type}

/-- what a connection sees: the work of its transaction, or what is committed -/
def seen (a : Account C S T) (c : C) (s : S) : Content T := (a.work c s).getD (a.stored c s)

/-- a library does to the database at a location what an account says -/
structure Followed (a : Account C S T) (L : Library C S) (location : Location) : Prop where
  /-- directories have nothing to do with what is stored -/
  prepared : ∀ dir s, a.ready s →
    a.ready (L.makeDirectories dir s).2 ∧ a.found (L.makeDirectories dir s).2 = a.found s
  opened : ∀ {s c t}, a.ready s → L.openAt location s = (.ok c, t) →
    a.live c t ∧ a.work c t = none ∧ a.stored c t = a.found s
  refused : ∀ {s e t}, a.ready s → L.openAt location s = (.error e, t) → a.ready t ∧ a.found t = a.found s
  /-- a database that goes on is found as it was committed -/
  closed : ∀ {c s}, a.live c s →
    a.ready (L.close c s).2 ∧ (a.lasts → a.found (L.close c s).2 = a.stored c s)
  /-- a database that does not go on is new for whoever connects -/
  passing : ¬ a.lasts → ∀ {s}, a.ready s → a.found s = ⟨a.empty, 0⟩
  live : ∀ {α : Type} (r : Request α) {c s}, a.live c s →
    a.live (L.perform r c s).2.1 (L.perform r c s).2.2
  /-- inside a transaction a statement that does not control it works on its copy; the engine may give the
  transaction up on an error -/
  inside : ∀ {α : Type} (r : Request α) {sql c s}, a.live c s → r.text? = some sql → ¬ a.controls sql →
    (a.work c s).isSome = true →
    a.stored (L.perform r c s).2.1 (L.perform r c s).2.2 = a.stored c s ∧
      (a.work (L.perform r c s).2.1 (L.perform r c s).2.2 = none → ∃ e, (L.perform r c s).1 = .error e)
  /-- outside of one it leaves none behind -/
  outside : ∀ {α : Type} (r : Request α) {sql c s}, a.live c s → r.text? = some sql → ¬ a.controls sql →
    a.work c s = none → a.work (L.perform r c s).2.1 (L.perform r c s).2.2 = none
  /-- the version stays what it is, where it is not written -/
  unrevised : ∀ {α : Type} (r : Request α) {sql c s}, a.live c s → r.text? = some sql → ¬ a.controls sql →
    ¬ a.revises sql →
    (∀ w w', a.work c s = some w → a.work (L.perform r c s).2.1 (L.perform r c s).2.2 = some w' →
      w'.version = w.version) ∧
      (a.work c s = none →
        (a.stored (L.perform r c s).2.1 (L.perform r c s).2.2).version = (a.stored c s).version)
  readVersion : ∀ {c s x c' s'}, a.live c s → L.perform .readVersion c s = (x, c', s') →
    a.stored c' s' = a.stored c s ∧ (a.work c' s' = a.work c s ∨ a.work c' s' = none ∧ ∃ e, x = .error e) ∧
      ∀ k, x = .ok k → k = (a.seen c s).version
  /-- the engine stores a positive version as it is, up to the greatest -/
  writeInside : ∀ {c s n x c' s' w}, a.live c s → a.work c s = some w →
    L.perform (.writeVersion n) c s = (x, c', s') →
    a.stored c' s' = a.stored c s ∧
      (x = .ok () → ∃ v, a.work c' s' = some { w with version := v } ∧ (1 ≤ n → n ≤ greatestVersion → v = n)) ∧
      ∀ e, x = .error e → a.work c' s' = some w ∨ a.work c' s' = none
  writeOutside : ∀ {c s n x c' s'}, a.live c s → a.work c s = none →
    L.perform (.writeVersion n) c s = (x, c', s') →
    a.work c' s' = none ∧
      (x = .ok () → ∃ v, a.stored c' s' = { a.stored c s with version := v } ∧ (1 ≤ n → n ≤ greatestVersion → v = n)) ∧
      ∀ e, x = .error e → a.stored c' s' = a.stored c s
  begins : ∀ {c s x c' s'}, a.live c s → L.perform (.batch "BEGIN") c s = (x, c', s') →
    a.stored c' s' = a.stored c s ∧
      (x = .ok () → a.work c s = none ∧ a.work c' s' = some (a.stored c s)) ∧
      ∀ e, x = .error e → a.work c' s' = a.work c s
  commits : ∀ {c s x c' s'}, a.live c s → L.perform (.batch "COMMIT") c s = (x, c', s') →
    (x = .ok () → a.work c s = some (a.stored c' s') ∧ a.work c' s' = none) ∧
      ∀ e, x = .error e → a.stored c' s' = a.stored c s ∧ (a.work c' s' = a.work c s ∨ a.work c' s' = none)
  /-- after a rollback there is no transaction, also where there was none to roll back -/
  rollsBack : ∀ {c s x c' s'}, a.live c s → L.perform (.batch "ROLLBACK") c s = (x, c', s') →
    a.stored c' s' = a.stored c s ∧ a.work c' s' = none

/-- the engine gives up no transaction by itself, as it may for an error -/
def Steadfast (a : Account C S T) (L : Library C S) : Prop :=
  ∀ {α : Type} (r : Request α) {sql c s}, a.live c s → r.text? = some sql → ¬ a.controls sql →
    (a.work c s).isSome = true → (a.work (L.perform r c s).2.1 (L.perform r c s).2.2).isSome = true

end Account

/-! ## Handles on their databases -/

namespace Handle

variable {C S W T α : Type} {L : Library C S} {a : Account C S T} {location : Location}
  {p q r u : Handle C × S × W} {c : C} {e : DbError}

/-- the connection of a handle is live; without one, the database is ready -/
def Standing (a : Account C S T) (p : Handle C × S × W) : Prop :=
  p.1.connection.elim (a.ready p.2.1) fun c => a.live c p.2.1

/-- what is committed in the database of a handle -/
def storedOf (a : Account C S T) (p : Handle C × S × W) : Content T :=
  p.1.connection.elim (a.found p.2.1) fun c => a.stored c p.2.1

/-- what an open transaction has made of it -/
def workOf (a : Account C S T) (p : Handle C × S × W) : Option (Content T) :=
  p.1.connection.bind fun c => a.work c p.2.1

/-- what the handle sees of it -/
def seenOf (a : Account C S T) (p : Handle C × S × W) : Content T := (workOf a p).getD (storedOf a p)

theorem engineOutcome_eq_ok {x : Except EngineFault α} {b : α} : engineOutcome x = .ok b ↔ x = .ok b := by
  cases x with
  | error e => simp [engineOutcome]
  | ok c => simp [engineOutcome]

theorem engineOutcome_eq_error {x : Except EngineFault α} :
    engineOutcome x = .error e ↔ ∃ why, x = .error why ∧ e = .engine why := by
  cases x with
  | error why => simp [engineOutcome, eq_comm]
  | ok c => simp [engineOutcome]

section

variable (hc : p.1.connection = some c)

include hc

theorem standing_of_some : Standing a p ↔ a.live c p.2.1 := by
  unfold Standing
  rw [hc]
  rfl

theorem storedOf_of_some : storedOf a p = a.stored c p.2.1 := by
  unfold storedOf
  rw [hc]
  rfl

theorem workOf_of_some : workOf a p = a.work c p.2.1 := by
  unfold workOf
  rw [hc]
  rfl

theorem seenOf_of_some : seenOf a p = a.seen c p.2.1 := by
  unfold seenOf Account.seen
  rw [workOf_of_some hc, storedOf_of_some hc]

end

section

variable (hnone : p.1.connection = none)

include hnone

theorem standing_of_none : Standing a p ↔ a.ready p.2.1 := by
  unfold Standing
  rw [hnone]
  rfl

theorem storedOf_of_none : storedOf a p = a.found p.2.1 := by
  unfold storedOf
  rw [hnone]
  rfl

theorem workOf_of_none : workOf a p = none := by
  unfold workOf
  rw [hnone]
  rfl

end

/-! ## Requests of an open handle -/

variable (ha : a.Followed L location)

/-- a handle that is open, connected and standing -/
structure Working (a : Account C S T) (p : Handle C × S × W) : Prop where
  standing : Standing a p
  connected : p.1.connection.isSome = true
  isOpen : p.1.isOpen = true

theorem Working.live (h : Working a p) (hc : p.1.connection = some c) : a.live c p.2.1 :=
  (standing_of_some hc).1 h.standing

section

include ha

/-- what a request does, where the account tells what the engine does -/
theorem Working.request (h : Working a p) (r : Request α) :
    ∃ c, p.1.connection = some c ∧ a.live c p.2.1 ∧ ∃ x c' s', L.perform r c p.2.1 = (x, c', s') ∧
      Handle.request L r p = (engineOutcome x, { p.1 with connection := some c' }, s', p.2.2) ∧
      Working a ({ p.1 with connection := some c' }, s', p.2.2) := by
  obtain ⟨c, hc⟩ := Option.isSome_iff_exists.1 h.connected
  have hlive := h.live hc
  have hafter := ha.live r hlive
  exact ⟨c, hc, hlive, _, _, _, rfl, request_live r hc h.isOpen, hafter, rfl, h.isOpen⟩

theorem Working.readVersion {x : Except DbError Int} (h : Working a p) (hrun : storedVersion L p = (x, q)) :
    Working a q ∧ storedOf a q = storedOf a p ∧ (workOf a q = workOf a p ∨ workOf a q = none ∧ ∃ e, x = .error e) ∧
      ∀ k, x = .ok k → k = (seenOf a p).version := by
  obtain ⟨c, hc, hlive, y, c', s', hperform, heq, hafter⟩ := h.request ha .readVersion
  rw [show Handle.request L .readVersion p = (x, q) from hrun] at heq
  cases heq
  obtain ⟨hstored, hwork, hread⟩ := ha.readVersion hlive hperform
  rw [storedOf_of_some hc, workOf_of_some hc, seenOf_of_some hc]
  refine ⟨hafter, hstored, ?_, fun k hk => hread k (engineOutcome_eq_ok.1 hk)⟩
  rcases hwork with hsame | ⟨hnone, e, rfl⟩
  · exact .inl hsame
  · exact .inr ⟨hnone, _, rfl⟩

theorem Working.writeVersion {n : Int} {x : Except DbError Unit} (h : Working a p)
    (hrun : Handle.request L (.writeVersion n) p = (x, q)) :
    Working a q ∧
      (∀ w, workOf a p = some w → storedOf a q = storedOf a p ∧
        (x = .ok () → ∃ v, workOf a q = some { w with version := v } ∧ (1 ≤ n → n ≤ greatestVersion → v = n)) ∧
        ∀ e, x = .error e → workOf a q = some w ∨ workOf a q = none) ∧
      (workOf a p = none → workOf a q = none ∧
        (x = .ok () → ∃ v, storedOf a q = { storedOf a p with version := v } ∧ (1 ≤ n → n ≤ greatestVersion → v = n)) ∧
        ∀ e, x = .error e → storedOf a q = storedOf a p) := by
  obtain ⟨c, hc, hlive, y, c', s', hperform, heq, hafter⟩ := h.request ha (.writeVersion n)
  rw [hrun] at heq
  cases heq
  rw [storedOf_of_some hc, workOf_of_some hc]
  refine ⟨hafter, fun w hw => ?_, fun hw => ?_⟩
  · obtain ⟨hstored, hok, herror⟩ := ha.writeInside hlive hw hperform
    refine ⟨hstored, fun hx => hok (engineOutcome_eq_ok.1 hx), fun e hx => ?_⟩
    obtain ⟨why, hy, _⟩ := engineOutcome_eq_error.1 hx
    exact herror why hy
  · obtain ⟨hwork, hok, herror⟩ := ha.writeOutside hlive hw hperform
    refine ⟨hwork, fun hx => hok (engineOutcome_eq_ok.1 hx), fun e hx => ?_⟩
    obtain ⟨why, hy, _⟩ := engineOutcome_eq_error.1 hx
    exact herror why hy

end

/-! ## Statements of an open handle -/

variable [Reporting W]

section

include ha

/-- what the engine does with a text that an open handle executes -/
theorem Working.execute {sql : String} {x : Except DbError Unit} (h : Working a p) (hrun : execute L sql p = (x, q)) :
    Working a q ∧ ∃ c y c' s', p.1.connection = some c ∧ a.live c p.2.1 ∧
      L.perform (.batch sql) c p.2.1 = (y, c', s') ∧ x = engineOutcome y ∧ q.1.connection = some c' ∧ q.2.1 = s' := by
  obtain ⟨w, hexecute⟩ := reported_run sql 0 (Handle.request L (.batch sql)) p
  have h' : Working a (p.1, p.2.1, w) := ⟨h.standing, h.connected, h.isOpen⟩
  obtain ⟨c, hc, hlive, y, c', s', hperform, heq, hafter⟩ := h'.request ha (.batch sql)
  rw [← hexecute, show (do logged sql 0; Handle.request L (.batch sql) : Act C S W Unit) p = (x, q) from hrun] at heq
  cases heq
  exact ⟨hafter, c, y, c', s', hc, hlive, hperform, rfl, rfl, rfl⟩

theorem Working.begin {x : Except DbError Unit} (h : Working a p) (hrun : Handle.execute L "BEGIN" p = (x, q)) :
    Working a q ∧ storedOf a q = storedOf a p ∧
      (x = .ok () → workOf a p = none ∧ workOf a q = some (storedOf a p)) ∧
      ∀ e, x = .error e → workOf a q = workOf a p := by
  obtain ⟨hafter, c, y, c', s', hc, hlive, hperform, hx, hc', hs'⟩ := h.execute ha hrun
  obtain ⟨hstored, hok, herror⟩ := ha.begins hlive hperform
  rw [storedOf_of_some hc', storedOf_of_some hc, workOf_of_some hc, workOf_of_some hc', hs']
  refine ⟨hafter, hstored, fun hanswer => ?_, fun e hanswer => ?_⟩
  · exact hok (engineOutcome_eq_ok.1 (hx.symm.trans hanswer))
  · obtain ⟨why, hy, _⟩ := engineOutcome_eq_error.1 (hx.symm.trans hanswer)
    exact herror why hy

theorem Working.commit {x : Except DbError Unit} (h : Working a p) (hrun : Handle.execute L "COMMIT" p = (x, q)) :
    Working a q ∧ (x = .ok () → workOf a p = some (storedOf a q) ∧ workOf a q = none) ∧
      ∀ e, x = .error e → storedOf a q = storedOf a p ∧ (workOf a q = workOf a p ∨ workOf a q = none) := by
  obtain ⟨hafter, c, y, c', s', hc, hlive, hperform, hx, hc', hs'⟩ := h.execute ha hrun
  obtain ⟨hok, herror⟩ := ha.commits hlive hperform
  rw [storedOf_of_some hc', storedOf_of_some hc, workOf_of_some hc, workOf_of_some hc', hs']
  refine ⟨hafter, fun hanswer => ?_, fun e hanswer => ?_⟩
  · exact hok (engineOutcome_eq_ok.1 (hx.symm.trans hanswer))
  · obtain ⟨why, hy, _⟩ := engineOutcome_eq_error.1 (hx.symm.trans hanswer)
    exact herror why hy

theorem Working.rollback {x : Except DbError Unit} (h : Working a p)
    (hrun : Handle.execute L "ROLLBACK" p = (x, q)) :
    Working a q ∧ storedOf a q = storedOf a p ∧ workOf a q = none := by
  obtain ⟨hafter, c, y, c', s', hc, hlive, hperform, -, hc', hs'⟩ := h.execute ha hrun
  obtain ⟨hstored, hwork⟩ := ha.rollsBack hlive hperform
  rw [storedOf_of_some hc', storedOf_of_some hc, workOf_of_some hc', hs']
  exact ⟨hafter, hstored, hwork⟩

end

end Handle

end FluentSql.Embedded
