import FluentSql.Proofs.ProviderRuns
import FluentSql.Proofs.Surveys
/-!
Who is connected to the databases of a provider in memory. The names that the provider keeps and the handles that it has
opened have one connection each, and there are no others but those that were there before (`Provider.Balanced`): a deed
takes connections and gives them back, so the balance is kept by every run (`Balanced.after`). What a deed does, it does
under the key of its name; everything under other keys is as it was (`Provider.Untouched`).
-/

namespace FluentSql.Embedded

open Handle

variable {C S W X T : Type} {L : Library C S} {v : Survey C S X T} {number : Nat} {name key : String}

namespace Depot

/-- how many names of a key are kept -/
def keepersOf (number : Nat) (key : String) (d : Depot C S) : Nat :=
  d.keepers.countP fun k => k.1.1 == number && Provider.keyOf k.1.2 == key

/-- who keeps the names of a key -/
def keeping (number : Nat) (key : String) (d : Depot C S) : List ((Nat × String) × C) :=
  d.keepers.filter fun k => k.1.1 == number && Provider.keyOf k.1.2 == key

/-- a name that is kept stands in the list, where everything before it is another one -/
theorem keeper?_split {d : Depot C S} {c : C} (h : d.keeper? number name = some c) :
    ∃ before behind, d.keepers = before ++ ((number, name), c) :: behind ∧ ∀ k ∈ before, k.1 ≠ (number, name) := by
  unfold keeper? at h
  obtain ⟨k, hk, rfl⟩ := Option.map_eq_some_iff.1 h
  obtain ⟨hname, before, behind, hsplit, hbefore⟩ := List.find?_eq_some_iff_append.1 hk
  obtain ⟨other, c⟩ := k
  have hname : other = (number, name) := eq_of_beq hname
  subst hname
  exact ⟨before, behind, hsplit, fun k hk => by simpa using hbefore k hk⟩

/-- a name that is listed is one that is kept -/
theorem mem_keptNames {d : Depot C S} : name ∈ d.keptNames number ↔ ∃ c, ((number, name), c) ∈ d.keepers := by
  unfold keptNames
  rw [List.mem_mergeSort]
  simp only [List.mem_map, List.mem_filter, beq_iff_eq]
  constructor
  · rintro ⟨⟨⟨_, _⟩, c⟩, ⟨hk, rfl⟩, rfl⟩
    exact ⟨c, hk⟩
  · rintro ⟨c, hk⟩
    exact ⟨_, ⟨hk, rfl⟩, rfl⟩

theorem keeper?_none {d : Depot C S} : d.keeper? number name = none ↔ ∀ k ∈ d.keepers, k.1 ≠ (number, name) := by
  unfold keeper?
  rw [Option.map_eq_none_iff, List.find?_eq_none]
  simp

end Depot

/-! ## Balance -/

namespace Provider

/-- how many handles of a key are connected -/
def connectedTo (key : String) (handles : List (String × Handle C)) : Nat :=
  handles.countP fun x => keyOf x.1 == key && x.2.connection.isSome

theorem connectedTo_split (key : String) (before behind : List (String × Handle C)) (h : Handle C) :
    connectedTo key (before ++ (name, h) :: behind) =
      connectedTo key (before ++ behind) + if keyOf name = key then h.connection.isSome.toNat else 0 := by
  unfold connectedTo
  rw [List.countP_append, List.countP_append, List.countP_cons]
  by_cases hkey : keyOf name = key
  · cases h.connection with
    | none => simp [hkey]
    | some c =>
      simp [hkey]
      omega
  · simp [hkey]

/-- a handle is where the key of its name leads, and has a connection exactly while it is open -/
structure Lodged (v : Survey C S X T) (number : Nat) (x : String × Handle C) : Prop where
  located : x.2.location = room number (keyOf x.1)
  leads : ∀ c, x.2.connection = some c → v.leads c (room number (keyOf x.1))
  connected : x.2.connection.isSome = x.2.isOpen

/-- all connections under the keys of a provider are accounted for, besides those that were there before -/
structure Balanced (v : Survey C S X T) (number : Nat) (before : String → Nat) (e : Holdings C S W) : Prop where
  keepers : ∀ k ∈ e.depot.keepers, k.1.1 = number → v.leads k.2 (room number (keyOf k.1.2))
  once : e.depot.keepers.Pairwise fun k m => k.1.1 = number → k.1 ≠ m.1
  lodged : ∀ x ∈ e.handles, Lodged v number x
  counted : ∀ key, IsKey key → v.holders (v.kept (room number key) e.depot.engine) =
    before key + e.depot.keepersOf number key + connectedTo key e.handles

/-- everything under a key is as it was -/
structure Untouched (v : Survey C S X T) (number : Nat) (key : String) (e e' : Holdings C S W) : Prop where
  kept : v.kept (room number key) e'.depot.engine = v.kept (room number key) e.depot.engine
  keepers : e'.depot.keeping number key = e.depot.keeping number key
  handles : (e'.handles.filter fun x => keyOf x.1 == key) = e.handles.filter fun x => keyOf x.1 == key

/-- a balance is kept, and only what is under the key of a name is touched -/
structure Settles (v : Survey C S X T) (number : Nat) (before : String → Nat) (name : String) (e e' : Holdings C S W) :
    Prop where
  balanced : Balanced v number before e'
  untouched : ∀ key, IsKey key → key ≠ keyOf name → Untouched v number key e e'

variable {before : String → Nat} {e e' : Holdings C S W} {l m : List (String × Handle C)} {d : Depot C S}
  {p q : Handle C × S × W}

theorem Lodged.coupled {x : String × Handle C} (h : Lodged v number x) (s : S) (w : W) : Coupled (x.2, s, w) where
  live hopen := h.connected.trans hopen
  dropped hclosed _ := by
    have hnone := h.connected.trans hclosed
    simpa using hnone

theorem Untouched.refl (v : Survey C S X T) (number : Nat) (key : String) (e : Holdings C S W) :
    Untouched v number key e e := ⟨rfl, rfl, rfl⟩

theorem Balanced.settled (h : Balanced v number before e) (name : String) : Settles v number before name e e :=
  ⟨h, fun key _ _ => Untouched.refl v number key e⟩

theorem Settles.trans {e'' : Holdings C S W} (first : Settles v number before name e e')
    (second : Settles v number before name e' e'') : Settles v number before name e e'' :=
  ⟨second.balanced, fun key hkey hne =>
    have h := first.untouched key hkey hne
    have h' := second.untouched key hkey hne
    ⟨h'.kept.trans h.kept, h'.keepers.trans h.keepers, h'.handles.trans h.handles⟩⟩

/-! ## A handle at work -/

/-- a handle of a name at work beside the others, all of which are accounted for -/
structure AtWork (v : Survey C S X T) (number : Nat) (before : String → Nat) (name : String)
    (others : List (String × Handle C)) (d : Depot C S) (p : Handle C × S × W) : Prop where
  keepers : ∀ k ∈ d.keepers, k.1.1 = number → v.leads k.2 (room number (keyOf k.1.2))
  once : d.keepers.Pairwise fun k m => k.1.1 = number → k.1 ≠ m.1
  lodged : ∀ x ∈ others, Lodged v number x
  sits : Sits v (room number (keyOf name)) p
  counts : Counts v (room number (keyOf name))
    (before (keyOf name) + d.keepersOf number (keyOf name) + connectedTo (keyOf name) others) p
  coupled : Coupled p
  counted : ∀ key, IsKey key → key ≠ keyOf name → v.holders (v.kept (room number key) p.2.1) =
    before key + d.keepersOf number key + connectedTo key others

theorem Balanced.atWork {h : Handle C} (hb : Balanced v number before e) (hsplit : e.handles = l ++ (name, h) :: m) :
    AtWork v number before name (l ++ m) e.depot (e.facing h) := by
  have hmem : ∀ x ∈ l ++ m, x ∈ e.handles := by
    intro x hx
    rw [hsplit]
    rcases List.mem_append.1 hx with hl | hm
    · exact List.mem_append_left _ hl
    · exact List.mem_append_right _ (List.mem_cons_of_mem _ hm)
  have hh := hb.lodged (name, h) (by rw [hsplit]; simp)
  refine ⟨hb.keepers, hb.once, fun x hx => hb.lodged x (hmem x hx), ⟨hh.located, hh.leads⟩, fun _ => ?_,
    hh.coupled _ _, fun key hkey hne => ?_⟩
  · have hcounted := hb.counted (keyOf name) (isKey_keyOf name)
    rw [hsplit, connectedTo_split, if_pos rfl] at hcounted
    exact hcounted.trans (Nat.add_assoc _ _ _).symm
  · have hcounted := hb.counted key hkey
    rw [hsplit, connectedTo_split, if_neg fun heq => hne heq.symm] at hcounted
    exact hcounted

/-- a new handle has no connection yet -/
theorem Balanced.newcomer (hb : Balanced v number before e) (log : StatementLog) (name : String) (o : OpenOptions)
    (w : W) : AtWork v number before name e.handles e.depot
      (newHandle ⟨.memory number, log⟩ name o, e.depot.engine, w) where
  keepers := hb.keepers
  once := hb.once
  lodged := hb.lodged
  sits := ⟨rfl, fun c hc => by cases hc⟩
  counts _ := hb.counted _ (isKey_keyOf name)
  coupled := ⟨fun hopen => (by cases hopen), fun _ _ => rfl⟩
  counted key hkey _ := hb.counted key hkey

/-- the handle is put among the others -/
theorem AtWork.seated (h : AtWork v number before name (l ++ m) d p) :
    Balanced v number before ⟨l ++ (name, p.1) :: m, { d with engine := p.2.1 }, p.2.2⟩ where
  keepers := h.keepers
  once := h.once
  lodged x hx := by
    rcases List.mem_append.1 hx with hl | hm
    · exact h.lodged x (List.mem_append_left _ hl)
    · rcases List.mem_cons.1 hm with rfl | hm
      · refine ⟨h.sits.located, h.sits.leads, ?_⟩
        cases hopen : p.1.isOpen with
        | true => exact h.coupled.live hopen
        | false =>
          have hnone := h.coupled.dropped hopen (h.sits.located ▸ (room_isPlace number name).ne_own)
          show p.1.connection.isSome = false
          rw [hnone]
          rfl
      · exact h.lodged x (List.mem_append_right _ hm)
  counted key hkey := by
    dsimp only
    rw [connectedTo_split]
    by_cases hname : keyOf name = key
    · subst hname
      rw [if_pos rfl, ← Nat.add_assoc]
      exact h.counts (room_isPlace number name)
    · rw [if_neg hname]
      exact h.counted key hkey fun heq => hname heq.symm

/-- a handle without a connection is of no account -/
theorem AtWork.discarded (h : AtWork v number before name l d p) (hnone : p.1.connection = none) :
    Balanced v number before ⟨l, { d with engine := p.2.1 }, p.2.2⟩ where
  keepers := h.keepers
  once := h.once
  lodged := h.lodged
  counted key hkey := by
    by_cases hname : keyOf name = key
    · subst hname
      have hcounted := h.counts (room_isPlace number name)
      rw [hnone] at hcounted
      exact hcounted
    · exact h.counted key hkey fun heq => hname heq.symm

section

variable (hv : v.Followed L)

include hv

/-- what spares other locations spares other keys -/
theorem spares_key {s t : S} (h : v.Spares (room number (keyOf name)) s t) (hkey : IsKey key) (hne : key ≠ keyOf name) :
    v.kept (room number key) t = v.kept (room number key) s :=
  h _ (hv.keys number (isKey_keyOf name) hkey fun heq => hne heq.symm)

theorem AtWork.after (h : AtWork v number before name l d p) (hminds : Minds v (room number (keyOf name)) p q)
    (hcoupled : Coupled q) : AtWork v number before name l d q where
  keepers := h.keepers
  once := h.once
  lodged := h.lodged
  sits := (hminds h.sits).1
  counts := (hminds h.sits).2.2 _ h.counts
  coupled := hcoupled
  counted key hkey hne := by
    rw [spares_key hv (hminds h.sits).2.1 hkey hne]
    exact h.counted key hkey hne

/-! ## Deeds -/

/-- what a handle does at its place settles -/
theorem Balanced.atPlace (h : Balanced v number before e) {f : Handle C × S × W → Reply × Handle C × S × W}
    (hminds : ∀ p, Minds v (room number (keyOf name)) p (f p).2) (hcoupled : ∀ p, Coupled p → Coupled (f p).2)
    (place : Nat) : Settles v number before name e (Provider.atPlace name place f e).2 := by
  unfold Provider.atPlace
  cases hseat : seatOf name e.handles place with
  | none => exact h.settled name
  | some k =>
    dsimp only
    obtain ⟨l, m, hsplit, hset⟩ := seatOf_split hseat
    have hwork := h.atWork hsplit
    have hafter := hwork.after hv (hminds _) (hcoupled _ hwork.coupled)
    have hspares := (hminds _ hwork.sits).2.1
    refine ⟨?_, fun key hkey hne => ⟨spares_key hv hspares hkey hne, rfl, ?_⟩⟩
    · unfold Holdings.seated
      rw [hset]
      exact hafter.seated
    · exact reseat_filter_other (fun n => keyOf n == key) (by simpa using fun heq => hne heq.symm) _ _ _

end

/-- a name that is kept is kept on; any other is connected to once -/
theorem acquire_cases (L : Library C S) (number : Nat) (log : StatementLog) (name : String) (q : Depot C S × W) :
    (∃ c, q.1.keeper? number name = some c ∧ acquire L ⟨.memory number, log⟩ name q = (.ok (), q)) ∨
    q.1.keeper? number name = none ∧ ∃ x s, L.openAt (room number (keyOf name)) q.1.engine = (x, s) ∧
      acquire L ⟨.memory number, log⟩ name q = match x with
        | .ok c => (.ok (), ⟨s, q.1.keepers ++ [((number, name), c)]⟩, q.2)
        | .error e => (.error (.engine e), { q.1 with engine := s }, q.2) := by
  unfold acquire
  dsimp only
  cases hkeeper : q.1.keeper? number name with
  | some c => exact .inl ⟨c, rfl, rfl⟩
  | none =>
    rcases hopen : L.openAddress (Location.address number (keyOf name)) q.1.engine with ⟨e | c, s⟩
    · exact .inr ⟨rfl, .error e, s, hopen, rfl⟩
    · exact .inr ⟨rfl, .ok c, s, hopen, rfl⟩

/-- keeping a name adds it to the names that are kept, and no other -/
theorem acquire_keptNames (L : Library C S) (number : Nat) (log : StatementLog) (name : String) (q : Depot C S × W) :
    let x := acquire L ⟨.memory number, log⟩ name q
    (∀ n ∈ q.1.keptNames number, n ∈ x.2.1.keptNames number) ∧
      (∀ n ∈ x.2.1.keptNames number, n ∈ q.1.keptNames number ∨ n = name) ∧
      (x.1 = .ok () → name ∈ x.2.1.keptNames number) := by
  intro x
  rcases acquire_cases L number log name q with ⟨c, hkeeper, hrun⟩ | ⟨-, y, s, -, hrun⟩
  · obtain ⟨l, m, hsplit, -⟩ := Depot.keeper?_split hkeeper
    rw [show x = _ from hrun]
    exact ⟨fun _ hn => hn, fun _ hn => .inl hn, fun _ => Depot.mem_keptNames.2 ⟨c, by rw [hsplit]; simp⟩⟩
  · rw [show x = _ from hrun]
    cases y with
    | error e => exact ⟨fun _ hn => hn, fun _ hn => .inl hn, fun hok => by cases hok⟩
    | ok c =>
      refine ⟨fun n hn => ?_, fun n hn => ?_, fun _ => Depot.mem_keptNames.2 ⟨c, by simp⟩⟩
      · obtain ⟨d, hd⟩ := Depot.mem_keptNames.1 hn
        exact Depot.mem_keptNames.2 ⟨d, List.mem_append_left _ hd⟩
      · obtain ⟨d, hd⟩ := Depot.mem_keptNames.1 hn
        rcases List.mem_append.1 hd with hold | hnew
        · exact .inl (Depot.mem_keptNames.2 ⟨d, hold⟩)
        · rw [List.mem_singleton] at hnew
          cases hnew
          exact .inr rfl

/-- a name that was acquired is kept -/
theorem acquired_keeper {log : StatementLog} {q r : Depot C S × W}
    (h : acquire L ⟨.memory number, log⟩ name q = (.ok (), r)) : ∃ c, ((number, name), c) ∈ r.1.keepers := by
  have henter := (acquire_keptNames L number log name q).2.2
  rw [h] at henter
  exact Depot.mem_keptNames.1 (henter rfl)

section

variable (hv : v.Followed L)

include hv

omit hv in
theorem keepersOf_append (d : Depot C S) (s : S) (c : C) (key : String) :
    (⟨s, d.keepers ++ [((number, name), c)]⟩ : Depot C S).keepersOf number key =
      d.keepersOf number key + if keyOf name = key then 1 else 0 := by
  unfold Depot.keepersOf
  rw [List.countP_append]
  simp [List.countP_cons]

/-- keeping a name spares other databases, and leaves alone what is committed in its own -/
theorem acquire_kept (p : Provider) (name : String) (q : Depot C S × W) :
    v.Spares (p.locationOf name) q.1.engine (Provider.acquire L p name q).2.1.engine ∧
      ((p.locationOf name).IsPlace →
        v.stored (v.kept (p.locationOf name) (Provider.acquire L p name q).2.1.engine) =
            v.stored (v.kept (p.locationOf name) q.1.engine) ∧
          (v.calm (v.kept (p.locationOf name) q.1.engine) →
            v.calm (v.kept (p.locationOf name) (Provider.acquire L p name q).2.1.engine))) := by
  obtain ⟨shelf, log⟩ := p
  cases shelf with
  | directory dir => exact ⟨v.spares_refl _ _, fun _ => ⟨rfl, id⟩⟩
  | memory number =>
    rcases acquire_cases L number log name q with ⟨c, -, hrun⟩ | ⟨-, x, s, hopen, hrun⟩
    · rw [hrun]
      exact ⟨v.spares_refl _ _, fun _ => ⟨rfl, id⟩⟩
    · have hspares := (hv.opened (room_isPlace number name).ne_own hopen).1
      obtain ⟨-, hstored, hcalm, -⟩ := hv.joined (room_isPlace number name) hopen
      rw [hrun]
      cases x with
      | ok c => exact ⟨hspares, fun _ => ⟨hstored, hcalm⟩⟩
      | error e => exact ⟨hspares, fun _ => ⟨hstored, hcalm⟩⟩

/-- keeping a name settles -/
theorem Balanced.acquire (h : Balanced v number before e) (log : StatementLog) (name : String) :
    Settles v number before name e ⟨e.handles, (Provider.acquire L ⟨.memory number, log⟩ name (e.depot, e.outside)).2.1,
      (Provider.acquire L ⟨.memory number, log⟩ name (e.depot, e.outside)).2.2⟩ := by
  rcases acquire_cases L number log name (e.depot, e.outside) with ⟨c, -, hrun⟩ | ⟨hnew, x, s, hopen, hrun⟩
  · rw [hrun]
    exact h.settled name
  · obtain ⟨hspares, hleads⟩ := hv.opened (room_isPlace number name).ne_own hopen
    obtain ⟨hholders, -⟩ := hv.joined (room_isPlace number name) hopen
    have hother : ∀ key, IsKey key → key ≠ keyOf name →
        v.kept (room number key) s = v.kept (room number key) e.depot.engine := fun key hkey hne =>
      spares_key hv hspares hkey hne
    rw [hrun]
    cases x with
    | error why =>
      refine ⟨⟨h.keepers, h.once, h.lodged, fun key hkey => ?_⟩, fun key hkey hne => ⟨hother key hkey hne, rfl, rfl⟩⟩
      by_cases hname : key = keyOf name
      · subst hname
        exact hholders.trans (h.counted _ hkey)
      · show v.holders (v.kept (room number key) s) = _
        rw [hother key hkey hname]
        exact h.counted key hkey
    | ok c =>
      refine ⟨⟨fun k hk hnumber => ?_, ?_, h.lodged, fun key hkey => ?_⟩, fun key hkey hne =>
        ⟨hother key hkey hne, ?_, rfl⟩⟩
      · rcases List.mem_append.1 hk with hk | hk
        · exact h.keepers k hk hnumber
        · rw [List.mem_singleton.1 hk]
          exact hleads c rfl
      · refine List.pairwise_append.2 ⟨h.once, List.pairwise_singleton _ _, fun k hk m hm _ => ?_⟩
        rw [List.mem_singleton.1 hm]
        exact Depot.keeper?_none.1 hnew k hk
      · dsimp only
        rw [keepersOf_append]
        by_cases hname : key = keyOf name
        · subst hname
          have hcounted := h.counted _ hkey
          have hone : (Except.ok c : Except EngineFault C).toBool.toNat = 1 := rfl
          rw [if_pos rfl, hholders, hcounted, hone]
          omega
        · rw [if_neg fun heq => hname heq.symm, hother key hkey hname]
          exact h.counted key hkey
      · unfold Depot.keeping
        rw [List.filter_append]
        have hne' : keyOf name ≠ key := fun heq => hne heq.symm
        simp [hne']

/-- who keeps a name is connected to its database -/
theorem Balanced.held (h : Balanced v number before e) {log : StatementLog} {r : Depot C S × W}
    (hacquire : Provider.acquire L ⟨.memory number, log⟩ name (e.depot, e.outside) = (.ok (), r)) :
    1 ≤ v.holders (v.kept (room number (keyOf name)) r.1.engine) := by
  have hcounted := (h.acquire hv log name).balanced.counted (keyOf name) (isKey_keyOf name)
  rw [hacquire] at hcounted
  have hkept : 0 < r.1.keepersOf number (keyOf name) := by
    obtain ⟨c, hc⟩ := acquired_keeper hacquire
    exact List.countP_pos_iff.2 ⟨_, hc, by simp⟩
  dsimp only at hcounted
  omega

variable [Reporting W]

/-- an opening settles, whether it succeeds or fails -/
theorem Balanced.opened (h : Balanced v number before e) (log : StatementLog) (name : String) (o : OpenOptions)
    (hasks : o.hooks.Ask fun s => ¬ v.reaches s.text) :
    Settles v number before name e (Provider.perform L ⟨.memory number, log⟩ (.opened name o) e).2 := by
  unfold Provider.perform
  dsimp only
  rw [openDatabase_eq]
  by_cases hblank : Text.blank name = true
  · rw [if_pos hblank]
    exact h.settled name
  · rw [if_neg hblank]
    have hacquired := h.acquire hv log name
    rcases hrun : Provider.acquire L ⟨.memory number, log⟩ name (e.depot, e.outside) with ⟨why | _, r⟩
    · rw [hrun] at hacquired
      exact hacquired
    · rw [hrun] at hacquired
      refine hacquired.trans ?_
      have hnew := hacquired.balanced.newcomer log name o (Reporting.emit (opening name o.version) r.2)
      have hminds := openUp_minds hv (room_isPlace number name).ne_own
        (p := (newHandle ⟨.memory number, log⟩ name o, r.1.engine, Reporting.emit (opening name o.version) r.2)) hasks
      have hafter := hnew.after hv hminds (openUp_coupled hnew.coupled)
      have hspares := (hminds hnew.sits).2.1
      have hflag := openUp_flag (L := L) (overlooks_nothing (W := W))
        (newHandle ⟨.memory number, log⟩ name o, r.1.engine, Reporting.emit (opening name o.version) r.2)
      dsimp only at hafter hspares hflag ⊢
      rcases hopen : openUp L (newHandle ⟨.memory number, log⟩ name o, r.1.engine,
        Reporting.emit (opening name o.version) r.2) with ⟨x, q⟩
      rw [hopen] at hafter hspares hflag
      cases x with
      | error why =>
        have hnone : q.1.connection = none :=
          hafter.coupled.dropped hflag (hafter.sits.located ▸ (room_isPlace number name).ne_own)
        exact ⟨hafter.discarded hnone, fun key hkey hne => ⟨spares_key hv hspares hkey hne, rfl, rfl⟩⟩
      | ok _ =>
        refine ⟨?_, fun key hkey hne => ⟨spares_key hv hspares hkey hne, rfl, ?_⟩⟩
        · have hseated := AtWork.seated (l := e.handles) (m := []) (by rw [List.append_nil]; exact hafter)
          exact hseated
        · have hne' : keyOf name ≠ key := fun heq => hne heq.symm
          show ((e.handles ++ [(name, q.1)]).filter fun x => keyOf x.1 == key) = _
          rw [List.filter_append]
          simp [hne']

/-- a name that is let go gives its connection back -/
theorem Balanced.dropped (h : Balanced v number before e) (log : StatementLog) (name : String) :
    Settles v number before name e (Provider.perform L ⟨.memory number, log⟩ (.dropped name) e).2 := by
  unfold Provider.perform dropDatabase letGo
  dsimp only
  cases hkeeper : e.depot.keeper? number name with
  | none => exact h.settled name
  | some c =>
    obtain ⟨l, m, hsplit, hl⟩ := Depot.keeper?_split hkeeper
    have honce := h.once
    rw [hsplit, List.pairwise_append] at honce
    have hm : ∀ k ∈ m, k.1 ≠ (number, name) := fun k hk heq =>
      (List.pairwise_cons.1 honce.2.1).1 k hk rfl heq.symm
    have hrest : (e.depot.keepers.filter fun k => k.1 != (number, name)) = l ++ m := by
      rw [hsplit, List.filter_append, List.filter_cons_of_neg (by simp), List.filter_eq_self.2, List.filter_eq_self.2]
      · exact fun k hk => by simpa using hm k hk
      · exact fun k hk => by simpa using hl k hk
    have hleads : v.leads c (room number (keyOf name)) := h.keepers ((number, name), c) (by rw [hsplit]; simp) rfl
    have hspares := hv.closed e.depot.engine hleads
    have hleft := hv.left e.depot.engine (room_isPlace number name) hleads
    have hother : ∀ key, IsKey key → key ≠ keyOf name →
        v.kept (room number key) (L.close c e.depot.engine).2 = v.kept (room number key) e.depot.engine :=
      fun key hkey hne => spares_key hv hspares hkey hne
    have hcount : ∀ (s : S) key, e.depot.keepersOf number key =
        (⟨s, l ++ m⟩ : Depot C S).keepersOf number key + if keyOf name = key then 1 else 0 := by
      intro s key
      unfold Depot.keepersOf
      rw [hsplit, List.countP_append, List.countP_append, List.countP_cons]
      simp only [beq_self_eq_true, Bool.true_and, beq_iff_eq]
      omega
    rw [hrest]
    refine ⟨⟨fun k hk hnumber => h.keepers k ?_ hnumber, ?_, h.lodged, fun key hkey => ?_⟩, fun key hkey hne =>
      ⟨hother key hkey hne, ?_, rfl⟩⟩
    · rw [hsplit]
      rcases List.mem_append.1 hk with hk | hk
      · exact List.mem_append_left _ hk
      · exact List.mem_append_right _ (List.mem_cons_of_mem _ hk)
    · exact List.pairwise_append.2 ⟨honce.1, (List.pairwise_cons.1 honce.2.1).2, fun k hk n hn =>
        honce.2.2 k hk n (List.mem_cons_of_mem _ hn)⟩
    · have hcounted := h.counted key hkey
      rw [hcount (L.close c e.depot.engine).2 key] at hcounted
      by_cases hname : key = keyOf name
      · subst hname
        rw [if_pos rfl] at hcounted
        dsimp only
        rw [hleft, hcounted]
        omega
      · rw [if_neg fun heq => hname heq.symm] at hcounted
        dsimp only
        rw [hother key hkey hname]
        exact hcounted
    · have hne' : keyOf name ≠ key := fun heq => hne heq.symm
      unfold Depot.keeping
      rw [hsplit]
      simp [hne']

/-- **A deed keeps the balance, and touches only what is under the key of its name.** -/
theorem Balanced.perform (h : Balanced v number before e) (log : StatementLog) {d : Deed}
    (hasks : d.Asks fun sql => ¬ v.reaches sql) :
    Settles v number before d.name e (Provider.perform L ⟨.memory number, log⟩ d e).2 := by
  cases d with
  | opened name o => exact h.opened hv log name o hasks
  | asked name place s =>
    exact h.atPlace hv (fun p => ask_minds hv hasks p) (fun p hp => (ask_respects steers_allows s p).coupled hp) place
  | closed name place =>
    exact h.atPlace hv (fun p => close_minds hv (room_isPlace number name).ne_own p) (fun p _ => close_coupled p) place
  | dropped name => exact h.dropped hv log name

theorem Balanced.after (log : StatementLog) {deeds : List Deed} (hasks : ∀ d ∈ deeds, d.Asks fun sql => ¬ v.reaches sql)
    (h : Balanced v number before e) : Balanced v number before (Provider.after L ⟨.memory number, log⟩ deeds e) := by
  induction deeds generalizing e with
  | nil => exact h
  | cons d rest ih =>
    exact ih (fun d' hd' => hasks d' (List.mem_cons_of_mem d hd')) (h.perform hv log (hasks d List.mem_cons_self)).balanced

end

/-- before anything is opened, all connections were there before -/
theorem balanced_none {d : Depot C S} (w : W) (hnames : ∀ k ∈ d.keepers, k.1.1 ≠ number)
    (hbefore : ∀ key, IsKey key → v.holders (v.kept (room number key) d.engine) = before key) :
    Balanced v number before (Holdings.none d w) where
  keepers k hk hnumber := absurd hnumber (hnames k hk)
  once := List.pairwise_of_forall_mem_list fun k hk _ _ hnumber => absurd hnumber (hnames k hk)
  lodged x hx := by cases hx
  counted key hkey := by
    have hnone : d.keepersOf number key = 0 := List.countP_eq_zero.2 fun k hk hboth => by
      have hboth : k.1.1 = number ∧ keyOf k.1.2 = key := by simpa using hboth
      exact hnames k hk hboth.1
    show _ = before key + d.keepersOf number key + 0
    rw [hnone]
    exact hbefore key hkey

end Provider

end FluentSql.Embedded
