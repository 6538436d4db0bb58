import FluentSql.Proofs.RegistryOperations
/-!
Which session of a registry owns which handle. In a world that maintains its handles no handle ever belongs to two
sessions (`Owned`), as long as none comes in from outside that some session has already (`Operation.Fair`): one operation
keeps that (`Operation.perform_owned`), and so does a history (`FairRun.after_owned`).

Handles come in from outside with sessions that are made or inserted, and where one is bound. A history in which sessions
get their handles from their own providers is fair by itself (`Owned.fairRun`).
-/

namespace FluentSql.Registry

variable {V H P α : Type}

/-! ## Owners -/

/-- the handles of sessions are known to a sound world, and those of different contexts are apart -/
structure Owned (sound : V → Prop) (known : H → V → Prop) (apart : H → H → Prop) (p : Registry H P × V) : Prop where
  sound : sound p.2
  keyed : p.1.Keyed
  known : ∀ id h, p.1.handle? id = some h → known h p.2
  apart : ∀ i j g h, i ≠ j → p.1.handle? i = some g → p.1.handle? j = some h → apart g h

/-- a handle that the world knows and no session has -/
structure Foreign (known : H → V → Prop) (apart : H → H → Prop) (p : Registry H P × V) (k : H) : Prop where
  known : known k p.2
  apart : ∀ id g, p.1.handle? id = some g → apart g k

theorem find_of_mem {id : Nat} {s : Session H P} {l : List (Nat × Session H P)} (hl : (l.map Prod.fst).Nodup)
    (h : (id, s) ∈ l) : find id l = some s := by
  induction l with
  | nil => cases h
  | cons e rest ih =>
    obtain ⟨hnot, hrest⟩ := List.nodup_cons.1 hl
    rcases List.mem_cons.1 h with rfl | hmem
    · simp [find]
    · have hne : e.1 ≠ id := fun heq => hnot (heq ▸ List.mem_map_of_mem (f := Prod.fst) hmem)
      simp [find, hne, ih hrest hmem]

theorem handle?_set_self (r : Registry H P) (id : Nat) (s : Session H P) : (r.set id s).handle? id = s.handle := by
  rw [handle?, get?_set_self, Option.bind_some]

section

variable {sound : V → Prop} {known : H → V → Prop} {apart : H → H → Prop} {p q : Registry H P × V} {id : Nat}

theorem owned_empty {v : V} (h : sound v) : Owned sound known apart ((empty : Registry H P), v) :=
  ⟨h, keyed_empty, fun _ _ hk => (by cases hk), fun _ _ _ _ _ hg => (by cases hg)⟩

/-- the handles of all sessions, in a row -/
theorem Owned.pairwise (h : Owned sound known apart p) : p.1.handles.Pairwise apart := by
  have hkeys : p.1.sessions.Pairwise fun e f => e.1 ≠ f.1 := List.pairwise_map.1 h.keyed
  refine List.pairwise_filterMap.2 (hkeys.imp_of_mem fun {e f} he hf hne g hg k hk => ?_)
  have hfind : ∀ e ∈ p.1.sessions, p.1.handle? e.1 = e.2.handle := fun e he => by
    rw [handle?, get?, find_of_mem h.keyed he, Option.bind_some]
  exact h.apart e.1 f.1 g k hne ((hfind e he).trans hg) ((hfind f hf).trans hk)

variable (hsymm : ∀ {g h}, apart g h → apart h g)

include hsymm

/-- **One context at a time**: its session keeps the handle that it has, or gets one that no other session has. -/
theorem Owned.moved (h : Owned sound known apart p) (hlocal : Local id p.1 q.1) (hlasts : Lasts sound known p.2 q.2)
    (hhere : ∀ k, q.1.handle? id = some k → p.1.handle? id = some k ∨
      known k q.2 ∧ ∀ j g, j ≠ id → p.1.handle? j = some g → apart g k) : Owned sound known apart q := by
  obtain ⟨hsound, hknown⟩ := hlasts h.sound
  have helsewhere : ∀ {j k}, j ≠ id → q.1.handle? j = some k → p.1.handle? j = some k := fun hj hk => by
    rw [handle?, hlocal.elsewhere hj] at hk
    exact hk
  have hnew : ∀ {j g k}, j ≠ id → q.1.handle? j = some g → q.1.handle? id = some k → apart g k := fun hj hg hk => by
    rcases hhere _ hk with hold | ⟨-, hapart⟩
    · exact h.apart _ _ _ _ hj (helsewhere hj hg) hold
    · exact hapart _ _ hj (helsewhere hj hg)
  refine ⟨hsound, hlocal.keyed h.keyed, fun j k hk => ?_, fun i j g k hij hg hk => ?_⟩
  · by_cases hj : j = id
    · subst hj
      rcases hhere k hk with hold | ⟨hk, -⟩
      · exact hknown k (h.known j k hold)
      · exact hk
    · exact hknown k (h.known j k (helsewhere hj hk))
  · by_cases hi : i = id
    · subst hi
      exact hsymm (hnew (Ne.symm hij) hk hg)
    · by_cases hj : j = id
      · subst hj
        exact hnew hi hg hk
      · exact h.apart i j g k hij (helsewhere hi hg) (helsewhere hj hk)

/-- a session is registered that has a handle of its own, or the one that the session before it had -/
theorem Owned.set (h : Owned sound known apart p) {s : Session H P} {v : V} (hlasts : Lasts sound known p.2 v)
    (hs : ∀ k, s.handle = some k → p.1.handle? id = some k ∨ Foreign known apart (p.1, v) k) :
    Owned sound known apart (p.1.set id s, v) := by
  refine h.moved hsymm (local_set p.1 id s) hlasts fun k hk => ?_
  rw [handle?_set_self] at hk
  exact (hs k hk).imp_right fun hk => ⟨hk.known, fun j g _ hg => hk.apart j g hg⟩

/-- a session is no longer registered -/
theorem Owned.dropped (h : Owned sound known apart p) {v : V} (hlasts : Lasts sound known p.2 v) :
    Owned sound known apart (⟨drop id p.1.sessions⟩, v) := by
  refine h.moved hsymm (local_drop p.1 id) hlasts fun k hk => ?_
  have hgone : (⟨drop id p.1.sessions⟩ : Registry H P).get? id = none := h.keyed.find_drop id
  rw [handle?, hgone] at hk
  cases hk

/-- nothing happens to the sessions -/
theorem Owned.outlasted (h : Owned sound known apart p) {v : V} (hlasts : Lasts sound known p.2 v) :
    Owned sound known apart (p.1, v) :=
  h.moved hsymm ((Local.stepwise (V := V) 0).refl (p.1, v)) hlasts fun _ hk => .inl hk

/-- whatever is done on a session, it keeps its handle or gets a new one -/
theorem Owned.onSession (h : Owned sound known apart p) {action : Task (Session H P × V) α}
    (haction : action.Respects (Session.Heir sound known apart)) :
    Owned sound known apart (onSession id action p).2 := by
  unfold Registry.onSession
  cases hs : p.1.get? id with
  | none => exact h
  | some s =>
    have hheir := haction (s, p.2)
    refine h.set hsymm hheir.lasts fun k hk => (hheir.handle h.sound k hk).imp (fun hold => ?_) fun hnew => ?_
    · rw [handle?, hs]
      exact hold
    · exact ⟨hnew.1, fun j g hg => hnew.2 g (h.known j g hg)⟩

end

/-! ## Fair operations -/

section

variable [Reporting V] (sound : V → Prop) (known : H → V → Prop) (apart : H → H → Prop)

/-- whatever comes in from outside belongs to no session: what a make function brings along, what is bound, and what is
inserted -/
structure Operation.Fair (op : Operation V H P) (p : Registry H P × V) : Prop where
  makes : ∀ id make, op.context? = some id → op.make? = some make → p.1.get? id = none →
    ∀ x v, make (Reporting.emit (created id) p.2) = (x, v) → Lasts sound known p.2 v ∧
      ∀ s k, x = .ok s → s.handle = some k → Foreign known apart (p.1, v) k
  binds : ∀ id k, op = .within id (.bind k) → Foreign known apart p k
  inserts : ∀ id s k, op = .insert id s → s.handle = some k → Foreign known apart p k

/-- every operation of a history is fair when it comes to it -/
def FairRun (b : Backend V H P) : (Nat → Drain H P) → List (Operation V H P) → Registry H P × V → Prop
  | _, [], _ => True
  | drains, op :: ops, p =>
    op.Fair sound known apart p ∧ FairRun b (fun n => drains (n + 1)) ops (op.perform b (drains 0) p).2

end

section

variable [Reporting V] {b : Backend V H P} {sound : V → Prop} {known : H → V → Prop} {apart : H → H → Prop}
  (hb : b.Maintains sound known apart)

include hb

theorem letGo_lasts (h : H) (v : V) : Lasts sound known v (b.letGo h v) := by
  unfold Backend.letGo
  split
  · exact Session.closed_lasts hb h v
  · exact hb.release h v

theorem letGoAll_lasts (hs : List H) (v : V) : Lasts sound known v (b.letGoAll hs v) := by
  induction hs generalizing v with
  | nil => exact Lasts.stepwise.refl v
  | cons h hs ih => exact Lasts.stepwise.trans (letGo_lasts hb h v) (ih _)

variable (hsymm : ∀ {g h}, apart g h → apart h g) {p : Registry H P × V}

include hsymm

omit hb in
/-- making a session -/
theorem Owned.ensure (h : Owned sound known apart p) {op : Operation V H P} (hfair : op.Fair sound known apart p)
    {id : Nat} {make : Task V (Session H P)} (hid : op.context? = some id) (hmake : op.make? = some make) :
    Owned sound known apart (ensure id make p).2 := by
  cases hs : p.1.get? id with
  | some s =>
    rw [ensure_of_some hs]
    exact h
  | none =>
    rw [ensure_of_none hs]
    rcases hrun : make (Reporting.emit (created id) p.2) with ⟨x, v⟩
    obtain ⟨hlasts, hforeign⟩ := hfair.makes id make hid hmake hs x v hrun
    cases x with
    | error e => exact h.outlasted hsymm hlasts
    | ok s => exact h.set hsymm hlasts fun k hk => .inr (hforeign s k rfl hk)

/-- **No handle belongs to two sessions**, whatever is asked for. -/
theorem Operation.perform_owned (d : Drain H P) {op : Operation V H P} (h : Owned sound known apart p)
    (hfair : op.Fair sound known apart p) : Owned sound known apart (op.perform b d p).2 := by
  have hstays : Lasts sound known p.2 p.2 := Lasts.stepwise.refl p.2
  cases op with
  | getOrCreate id make =>
    rw [perform, Task.dropAnswer_eq]
    exact h.ensure hsymm hfair rfl rfl
  | sessionFor id dbName make =>
    have hmade := h.ensure hsymm hfair rfl rfl
    rw [perform, sessionFor_eq]
    generalize Registry.ensure id make p = r at hmade
    obtain ⟨e | made, q⟩ := r
    · exact hmade
    · dsimp only
      rw [Task.dropAnswer_eq]
      exact hmade.onSession hsymm ((Session.Operation.setDb dbName).perform_heir hb fun _ heq => by cases heq)
  | get id => exact h
  | within id op =>
    rw [perform, Task.dropAnswer_eq]
    by_cases hbind : ∃ k, op = .bind k
    · obtain ⟨k, rfl⟩ := hbind
      simp only [Registry.onSession]
      cases hs : p.1.get? id with
      | none => exact h
      | some s =>
        obtain ⟨hlasts, hhandle⟩ := Session.bind_lasts hb k (s, p.2)
        have hk := hfair.binds id k rfl
        refine h.set hsymm hlasts fun g hg => .inr ?_
        obtain rfl : k = g := Option.some.inj (hhandle.symm.trans hg)
        exact ⟨(hlasts h.sound).2 k hk.known, hk.apart⟩
    · exact h.onSession hsymm (op.perform_heir hb fun k heq => hbind ⟨k, heq⟩)
  | insert id s =>
    exact h.set hsymm hstays fun k hk => .inr (hfair.inserts id s k rfl hk)
  | remove id => exact h.dropped hsymm hstays
  | teardown id =>
    simp only [perform, Task.dropAnswer_eq, Registry.teardown]
    cases p.1.get? id with
    | none => exact h
    | some s =>
      refine h.dropped hsymm ?_
      rw [destroyed_eq]
      cases s.handle with
      | none => exact hstays
      | some k => exact letGo_lasts hb k p.2
  | clear =>
    rw [perform, clearIn_eq]
    exact owned_empty (letGoAll_lasts hb _ p.2 h.sound).1

/-- **Ownership lasts over every fair history.** -/
theorem FairRun.after_owned {drains : Nat → Drain H P} {pre rest : List (Operation V H P)}
    (hfair : FairRun sound known apart b drains (pre ++ rest) p) (h : Owned sound known apart p) :
    Owned sound known apart (after b drains pre p) := by
  induction pre generalizing drains p with
  | nil => exact h
  | cons op pre ih => exact ih hfair.2 (op.perform_owned hb hsymm (drains 0) h hfair.1)

end

/-! ## Histories that are fair by themselves -/

section

variable [Reporting V] {b : Backend V H P} {sound : V → Prop} {known : H → V → Prop} {apart : H → H → Prop}

/-- a handle comes in from outside with a make function only, and then it is a new one -/
structure Operation.Selfmade (sound : V → Prop) (known : H → V → Prop) (apart : H → H → Prop) (op : Operation V H P) :
    Prop where
  makes : ∀ make, op.make? = some make → make.Respects (Lasts sound known) ∧ ∀ v s v' k, make v = (.ok s, v') →
    s.handle = some k → known k v' ∧ ∀ g, known g v → apart g k
  binds : ∀ id k, op ≠ .within id (.bind k)
  inserts : ∀ id s, op = .insert id s → s.handle = none

theorem Operation.Selfmade.fair (hb : b.Maintains sound known apart) {op : Operation V H P}
    (hop : op.Selfmade sound known apart) {p : Registry H P × V} (h : Owned sound known apart p) :
    op.Fair sound known apart p where
  makes id make _ hmake _ x v hrun := by
    obtain ⟨hlasts, hfresh⟩ := hop.makes make hmake
    have hreported := hb.report (created id) p.2
    have hmade := hlasts (Reporting.emit (created id) p.2)
    rw [hrun] at hmade
    refine ⟨Lasts.stepwise.trans hreported hmade, fun s k hx hk => ?_⟩
    subst hx
    obtain ⟨hknown, hapart⟩ := hfresh _ s v k hrun hk
    exact ⟨hknown, fun j g hg => hapart g ((hreported h.sound).2 g (h.known j g hg))⟩
  binds id k heq := absurd heq (hop.binds id k)
  inserts id s k heq hk := by
    rw [hop.inserts id s heq] at hk
    cases hk

/-- **Sessions that get their handles from their providers are fair.** -/
theorem Owned.fairRun (hb : b.Maintains sound known apart) (hsymm : ∀ {g h}, apart g h → apart h g)
    (drains : Nat → Drain H P) {ops : List (Operation V H P)} (hops : ∀ op ∈ ops, op.Selfmade sound known apart)
    {p : Registry H P × V} (h : Owned sound known apart p) : FairRun sound known apart b drains ops p := by
  induction ops generalizing drains p with
  | nil => trivial
  | cons op ops ih =>
    have hfair := (hops op List.mem_cons_self).fair hb h
    exact ⟨hfair, ih _ (fun o ho => hops o (List.mem_cons_of_mem op ho)) (op.perform_owned hb hsymm (drains 0) h hfair)⟩

end

end FluentSql.Registry
