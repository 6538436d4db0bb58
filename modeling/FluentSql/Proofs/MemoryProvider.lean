import FluentSql.Proofs.Agreement
import FluentSql.Proofs.Cabinet
import FluentSql.Proofs.KeptNames
import FluentSql.Proofs.OpeningCourse
/-!
Databases in memory, apart by their keys. What the engine answers on a connection is determined by what it keeps at
the address of the connection (`Survey.Determined`), so a run of all deeds and the run of those under one key go side
by side (`Provider.SideBySide`): a deed under the key is answered alike in both (`SideBySide.own`), and a deed under
another one does not matter (`SideBySide.foreign`). When no name of a key is kept and no handle of it is open, nobody
is connected (`Provider.Vacant`), and the next opening does what the first one did. Both make up `memory_provider`.
-/

namespace FluentSql.Embedded

variable {C S W X T : Type} {L : Library C S} {v : Survey C S X T} {number : Nat} {key name : String} {empty : T}

/-- the deed opens a database under the key -/
def Deed.OpensUnder (key : String) : Deed → Prop
  | opened name _ => Provider.keyOf name = key
  | _ => False

/-! ## Twins -/

namespace Handle

/-- the same handle, with the same of its database in two states -/
structure Twin (v : Survey C S X T) (number : Nat) (key : String) (p q : Handle C × S × W) : Prop where
  handle : q.1 = p.1
  located : p.1.location = room number key
  leads : ∀ c, p.1.connection = some c → v.leads c (room number key)
  kept : v.kept (room number key) p.2.1 = v.kept (room number key) q.2.1

section

variable {α : Type} (hv : v.Followed L) (hd : v.Determined L number empty) (hkey : IsKey key)

include hv hd hkey

theorem request_twin (r : Request α) (hstays : v.Stays r) :
    (request L r : Act C S W α).Agrees (Twin v number key) (request L r) := by
  rintro ⟨_, s, w⟩ ⟨h, t, w'⟩ ⟨rfl, hlocated, hleads, hkept⟩
  unfold request
  dsimp only at hlocated hleads hkept ⊢
  split
  · rename_i c hc _
    obtain ⟨hanswer, hafter, hsame⟩ := hd.performed r hkey (hleads c hc) hstays hkept
    refine ⟨congrArg engineOutcome hanswer, ?_, hlocated, fun d hd => ?_, hsame⟩
    · dsimp only
      rw [hafter]
    · cases hd
      exact (hv.performed r s (hleads c hc) hstays).1
  · exact ⟨rfl, rfl, hlocated, hleads, hkept⟩

omit hv in
theorem lastId_twin : (lastId L : Act C S W Int64).Agrees (Twin v number key) (lastId L) := by
  rintro ⟨_, s, w⟩ ⟨h, t, w'⟩ ⟨rfl, hlocated, hleads, hkept⟩
  unfold lastId
  dsimp only at hlocated hleads hkept ⊢
  split
  · rename_i c hc _
    exact ⟨congrArg Except.ok (hd.lastId hkey (hleads c hc) hkept), rfl, hlocated, hleads, hkept⟩
  · exact ⟨rfl, rfl, hlocated, hleads, hkept⟩

theorem connected_twin : (connected L : Act C S W Unit).Agrees (Twin v number key) (connected L) := by
  rintro ⟨_, s, w⟩ ⟨h, t, w'⟩ ⟨rfl, hlocated, hleads, hkept⟩
  cases hc : h.connection with
  | some c =>
    rw [connected_of_some (p := (h, s, w)) hc, connected_of_some (p := (h, t, w')) hc]
    exact ⟨rfl, rfl, hlocated, hleads, hkept⟩
  | none =>
    obtain ⟨hanswer, hsame⟩ := hd.opened hkey hkept
    rcases hs : L.openAt (room number key) s with ⟨x, s'⟩
    rcases ht : L.openAt (room number key) t with ⟨y, t'⟩
    have hleads' := (hv.opened (Location.IsPlace.shared number hkey).ne_own hs).2
    rw [hs, ht] at hanswer hsame
    dsimp only at hanswer hlocated hkept
    subst hanswer
    have hplain : ∀ {u u'}, L.openAt (room number key) u = (x, u') →
        connect L h.location u = (engineOutcome x, u') := by
      intro u u' hu
      rw [hlocated]
      show (engineOutcome (L.openAt (room number key) u).1, (L.openAt (room number key) u).2) = _
      rw [hu]
    cases x with
    | error e =>
      rw [connected_of_error (p := (h, s, w)) hc (hplain hs), connected_of_error (p := (h, t, w')) hc (hplain ht)]
      exact ⟨rfl, rfl, hlocated, hleads, hsame⟩
    | ok c =>
      rw [connected_of_ok (p := (h, s, w)) hc (hplain hs), connected_of_ok (p := (h, t, w')) hc (hplain ht)]
      refine ⟨rfl, rfl, hlocated, fun d hd => ?_, hsame⟩
      cases hd
      exact hleads' c rfl

variable [Reporting W]

omit hv in
theorem close_twin {p q : Handle C × S × W} (h : Twin v number key p q) :
    Twin v number key (close L p) (close L q) := by
  have hl : p.1.location ≠ .own := h.located ▸ (Location.IsPlace.shared number hkey).ne_own
  cases hc : p.1.connection with
  | none =>
    rw [close_of_none hc, close_of_none (h.handle ▸ hc)]
    exact ⟨congrArg (fun k : Handle C => { k with isOpen := false }) h.handle, h.located, h.leads, h.kept⟩
  | some c =>
    obtain ⟨w, hp⟩ := close_of_some (L := L) hl hc
    obtain ⟨w', hq⟩ := close_of_some (L := L) (p := q) (h.handle ▸ hl) (h.handle ▸ hc)
    rw [hp, hq]
    refine ⟨?_, h.located, fun d hd => (by cases hd), (hd.closed hkey (h.leads c hc) h.kept).2⟩
    dsimp only
    rw [h.handle]

theorem corresponds_twin :
    Corresponds L (fun sql => ¬ v.reaches sql) (Twin (W := W) v number key) where
  handle p q h := by rw [h.handle]
  emit _ _ _ h := ⟨h.handle, h.located, h.leads, h.kept⟩
  note _ _ _ h := ⟨h.handle, h.located, h.leads, h.kept⟩
  given hooks p q h := ⟨congrArg (fun k : Handle C => { k with hooks := hooks }) h.handle, h.located, h.leads, h.kept⟩
  own sql hsql := hv.own sql hsql
  request r hstays := request_twin hv hd hkey r hstays
  lastId := lastId_twin hd hkey

/-- **Twins open alike, and stay twins.** -/
theorem openUp_twin {p q : Handle C × S × W} (h : Twin v number key p q)
    (hasks : p.1.hooks.Ask fun s => ¬ v.reaches s.text) :
    (openUp L p).1 = (openUp L q).1 ∧ Twin v number key (openUp L p).2 (openUp L q).2 :=
  (corresponds_twin hv hd hkey).openUp h hasks (fun _ => connected_twin hv hd hkey p q h)
    (fun _ _ h => ⟨congrArg (fun k : Handle C => { k with isOpen := true }) h.handle, h.located, h.leads, h.kept⟩)
    fun _ _ h => close_twin hd hkey h

theorem ask_twin {s : Statement} (hs : ¬ v.reaches s.text) :
    ((channel L).ask s : Act C S W StatementReply).Agrees (Twin v number key) ((channel L).ask s) :=
  (corresponds_twin hv hd hkey).channel.ask hs

end

end Handle

namespace Provider

open Handle

/-- who keeps a name is found among those who keep the names of its key -/
theorem keeper?_keeping (d : Depot C S) (number : Nat) (name : String) :
    d.keeper? number name =
      ((d.keeping number (keyOf name)).find? fun k => k.1 == (number, name)).map Prod.snd := by
  unfold Depot.keeper? Depot.keeping
  rw [List.find?_filter]
  congr 2
  funext k
  by_cases hk : k.1 = (number, name)
  · simp [hk]
  · simp [hk]

section

variable [Reporting W] (hv : v.Followed L) (hd : v.Determined L number empty) {d d' : Depot C S} (w w' : W)

include hv hd

omit [Reporting W] hv in
/-- keeping a name is answered alike where the same is kept -/
theorem acquire_alike (log : StatementLog) (name : String)
    (hkept : v.kept (room number (keyOf name)) d.engine = v.kept (room number (keyOf name)) d'.engine)
    (hkeeping : d.keeping number (keyOf name) = d'.keeping number (keyOf name)) :
    let x := Provider.acquire L ⟨.memory number, log⟩ name (d, w)
    let y := Provider.acquire L ⟨.memory number, log⟩ name (d', w')
    x.1 = y.1 ∧ v.kept (room number (keyOf name)) x.2.1.engine = v.kept (room number (keyOf name)) y.2.1.engine ∧
      x.2.1.keeping number (keyOf name) = y.2.1.keeping number (keyOf name) := by
  intro x y
  have hkeeper : d.keeper? number name = d'.keeper? number name := by
    rw [keeper?_keeping, keeper?_keeping, hkeeping]
  obtain ⟨hanswer, hsame⟩ := hd.opened (isKey_keyOf name) hkept
  rcases acquire_cases L number log name (d, w) with ⟨c, hc, hrun⟩ | ⟨hnone, answer, s, hopen, hrun⟩
  · rcases acquire_cases L number log name (d', w') with ⟨c', _, hrun'⟩ | ⟨hnone, _⟩
    · refine ⟨?_, ?_⟩
      · rw [show x = _ from hrun, show y = _ from hrun']
      · rw [show x = _ from hrun, show y = _ from hrun']
        exact ⟨hkept, hkeeping⟩
    · rw [hkeeper.symm.trans hc] at hnone
      cases hnone
  · rcases acquire_cases L number log name (d', w') with ⟨c', hc, _⟩ | ⟨_, answer', s', hopen', hrun'⟩
    · rw [hkeeper.trans hc] at hnone
      cases hnone
    · rw [hopen, hopen'] at hanswer hsame
      dsimp only at hanswer hsame
      subst hanswer
      rw [show x = _ from hrun, show y = _ from hrun']
      cases answer with
      | error e => exact ⟨rfl, hsame, hkeeping⟩
      | ok c =>
        refine ⟨rfl, hsame, ?_⟩
        unfold Depot.keeping at hkeeping ⊢
        dsimp only
        rw [List.filter_append, List.filter_append, hkeeping]

/-- **A name opens alike where the same is kept.** -/
theorem openDatabase_alike (log : StatementLog) (name : String) (o : OpenOptions)
    (hasks : o.hooks.Ask fun s => ¬ v.reaches s.text)
    (hkept : v.kept (room number (keyOf name)) d.engine = v.kept (room number (keyOf name)) d'.engine)
    (hkeeping : d.keeping number (keyOf name) = d'.keeping number (keyOf name)) :
    let x := openDatabase L ⟨.memory number, log⟩ name o (d, w)
    let y := openDatabase L ⟨.memory number, log⟩ name o (d', w')
    x.1 = y.1 ∧ v.kept (room number (keyOf name)) x.2.1.engine = v.kept (room number (keyOf name)) y.2.1.engine ∧
      x.2.1.keeping number (keyOf name) = y.2.1.keeping number (keyOf name) := by
  intro x y
  obtain ⟨hanswer, hsame, hafter⟩ := acquire_alike hd w w' log name hkept hkeeping
  have hx : x = _ := openDatabase_eq (L := L) ⟨.memory number, log⟩ name o (d, w)
  have hy : y = _ := openDatabase_eq (L := L) ⟨.memory number, log⟩ name o (d', w')
  rw [hx, hy]
  by_cases hblank : Text.blank name = true
  · rw [if_pos hblank, if_pos hblank]
    exact ⟨rfl, hkept, hkeeping⟩
  · rw [if_neg hblank, if_neg hblank]
    rcases hrun : Provider.acquire L ⟨.memory number, log⟩ name (d, w) with ⟨answer, r⟩
    rcases hrun' : Provider.acquire L ⟨.memory number, log⟩ name (d', w') with ⟨answer', r'⟩
    rw [hrun, hrun'] at hanswer hsame hafter
    dsimp only at hanswer hsame hafter
    subst hanswer
    cases answer with
    | error e => exact ⟨rfl, hsame, hafter⟩
    | ok _ =>
      have htwin : Twin v number (keyOf name)
          (newHandle ⟨.memory number, log⟩ name o, r.1.engine, Reporting.emit (opening name o.version) r.2)
          (newHandle ⟨.memory number, log⟩ name o, r'.1.engine, Reporting.emit (opening name o.version) r'.2) :=
        ⟨rfl, rfl, fun c hc => (by cases hc), hsame⟩
      obtain ⟨hopened, hend⟩ := openUp_twin hv hd (isKey_keyOf name) htwin hasks
      dsimp only
      rw [hopened, hend.handle]
      exact ⟨rfl, hend.kept, hafter⟩

end

/-! ## Side by side -/

/-- two runs, of which the first has only the deeds under the key: what is under the key is the same in both -/
structure SideBySide (v : Survey C S X T) (number : Nat) (key : String) (e e' : Holdings C S W) : Prop where
  kept : v.kept (room number key) e.depot.engine = v.kept (room number key) e'.depot.engine
  keeping : e.depot.keeping number key = e'.depot.keeping number key
  handles : (e'.handles.filter fun x => keyOf x.1 == key) = e.handles

section

variable {before : String → Nat} {e e' : Holdings C S W}

/-- twins at the same place do the same -/
theorem SideBySide.atPlace (h : SideBySide v number (keyOf name) e e') (hfull : Balanced v number before e')
    {f : Handle C × S × W → Reply × Handle C × S × W}
    (hf : ∀ p q, Twin v number (keyOf name) p q → (f p).1 = (f q).1 ∧ Twin v number (keyOf name) (f p).2 (f q).2)
    (place : Nat) : (Provider.atPlace name place f e).1 = (Provider.atPlace name place f e').1 ∧
      SideBySide v number (keyOf name) (Provider.atPlace name place f e).2 (Provider.atPlace name place f e').2 := by
  have hown : (keyOf name == keyOf name) = true := BEq.rfl
  have hplace : seatOf name e'.handles place = seatOf name e.handles place := by
    rw [← seatOf_filter (fun n => keyOf n == keyOf name) hown e'.handles place, h.handles]
  unfold Provider.atPlace
  rw [hplace]
  cases hseat : seatOf name e.handles place with
  | none => exact ⟨rfl, h⟩
  | some k =>
    dsimp only
    have hk := hfull.lodged (name, k) (mem_of_seatOf (hplace.trans hseat))
    obtain ⟨hanswer, hafter⟩ := hf (e.facing k) (e'.facing k) ⟨rfl, hk.located, hk.leads, h.kept⟩
    refine ⟨hanswer, hafter.kept, h.keeping, ?_⟩
    show (reseat name _ e'.handles place).filter _ = reseat name _ e.handles place
    rw [reseat_filter (fun n => keyOf n == keyOf name) hown, h.handles, hafter.handle]

variable [Reporting W] (hv : v.Followed L) (hd : v.Determined L number empty)

include hv hd

theorem SideBySide.opened (h : SideBySide v number (keyOf name) e e') (log : StatementLog) (o : OpenOptions)
    (hasks : o.hooks.Ask fun s => ¬ v.reaches s.text) :
    let x := Provider.perform L ⟨.memory number, log⟩ (.opened name o) e
    let y := Provider.perform L ⟨.memory number, log⟩ (.opened name o) e'
    x.1 = y.1 ∧ SideBySide v number (keyOf name) x.2 y.2 := by
  obtain ⟨hanswer, hsame, hafter⟩ := openDatabase_alike hv hd e.outside e'.outside log name o hasks h.kept
    h.keeping
  unfold Provider.perform
  dsimp only
  rcases hrun : openDatabase L ⟨.memory number, log⟩ name o (e.depot, e.outside) with ⟨answer, d, w⟩
  rcases hrun' : openDatabase L ⟨.memory number, log⟩ name o (e'.depot, e'.outside) with ⟨answer', d', w'⟩
  rw [hrun, hrun'] at hanswer hsame hafter
  dsimp only at hanswer hsame hafter
  subst hanswer
  cases answer with
  | error why => exact ⟨rfl, hsame, hafter, h.handles⟩
  | ok k =>
    refine ⟨rfl, hsame, hafter, ?_⟩
    dsimp only
    rw [List.filter_append, h.handles]
    simp

omit hv in
theorem SideBySide.dropped (h : SideBySide v number (keyOf name) e e') (hfull : Balanced v number before e')
    (log : StatementLog) :
    let x := Provider.perform L ⟨.memory number, log⟩ (.dropped name) e
    let y := Provider.perform L ⟨.memory number, log⟩ (.dropped name) e'
    x.1 = y.1 ∧ SideBySide v number (keyOf name) x.2 y.2 := by
  have hkeeper : e.depot.keeper? number name = e'.depot.keeper? number name := by
    rw [keeper?_keeping, keeper?_keeping, h.keeping]
  unfold Provider.perform dropDatabase letGo
  dsimp only
  rw [hkeeper]
  cases hfound : e'.depot.keeper? number name with
  | none => exact ⟨rfl, h⟩
  | some c =>
    obtain ⟨l, m, hsplit, -⟩ := Depot.keeper?_split hfound
    have hleads : v.leads c (room number (keyOf name)) := hfull.keepers ((number, name), c) (by rw [hsplit]; simp) rfl
    refine ⟨rfl, (hd.closed (isKey_keyOf name) hleads h.kept).2, ?_, h.handles⟩
    have hswap : ∀ keepers : List ((Nat × String) × C),
        ((keepers.filter fun k => k.1 != (number, name)).filter fun k =>
            k.1.1 == number && keyOf k.1.2 == keyOf name) =
          (keepers.filter fun k => k.1.1 == number && keyOf k.1.2 == keyOf name).filter fun k =>
            k.1 != (number, name) := fun keepers => by
      rw [List.filter_filter, List.filter_filter]
      exact List.filter_congr fun k _ => Bool.and_comm _ _
    have hkeeping := h.keeping
    unfold Depot.keeping at hkeeping ⊢
    dsimp only
    rw [hswap, hswap, hkeeping]

/-- **A deed under the key is answered alike** in both runs. -/
theorem SideBySide.own (h : SideBySide v number key e e') (hfull : Balanced v number before e') (log : StatementLog)
    {d : Deed} (hasks : d.Asks fun sql => ¬ v.reaches sql) (hkey : keyOf d.name = key) :
    let x := Provider.perform L ⟨.memory number, log⟩ d e
    let y := Provider.perform L ⟨.memory number, log⟩ d e'
    x.1 = y.1 ∧ SideBySide v number key x.2 y.2 := by
  subst hkey
  cases d with
  | opened name o => exact h.opened hv hd log o hasks
  | asked name place s =>
    refine h.atPlace hfull (fun p q hpq => ?_) place
    obtain ⟨hanswer, hafter⟩ := ask_twin hv hd (isKey_keyOf name) hasks p q hpq
    exact ⟨congrArg Reply.answered hanswer, hafter⟩
  | closed name place =>
    have hclosed : ∀ p q : Handle C × S × W, Twin v number (keyOf name) p q →
        Reply.closed = Reply.closed ∧ Twin v number (keyOf name) (close L p) (close L q) :=
      fun p q hpq => ⟨rfl, close_twin hd (isKey_keyOf name) hpq⟩
    exact h.atPlace hfull (f := fun q => (.closed, close L q)) hclosed place
  | dropped name => exact h.dropped hd hfull log

omit hd in
/-- **A deed under another key does not matter.** -/
theorem SideBySide.foreign (h : SideBySide v number key e e') (hfull : Balanced v number before e') (log : StatementLog)
    {d : Deed} (hasks : d.Asks fun sql => ¬ v.reaches sql) (hkey : IsKey key) (hne : keyOf d.name ≠ key) :
    SideBySide v number key e (Provider.perform L ⟨.memory number, log⟩ d e').2 := by
  have huntouched := (hfull.perform hv log hasks).untouched key hkey fun heq => hne heq.symm
  exact ⟨h.kept.trans huntouched.kept.symm, h.keeping.trans huntouched.keepers.symm, huntouched.handles.trans h.handles⟩

/-- **Deeds under other keys do not matter**, in runs of any length. -/
theorem SideBySide.after (log : StatementLog) (hkey : IsKey key) (deeds : List Deed) :
    ∀ {e e' : Holdings C S W}, (∀ d ∈ deeds, d.Asks fun sql => ¬ v.reaches sql) → SideBySide v number key e e' →
      Balanced v number before e' →
      let p : Provider := ⟨.memory number, log⟩
      let own := deeds.filter fun d => keyOf d.name == key
      ((p.replies L deeds e').filter fun r => keyOf r.1 == key) = p.replies L own e ∧
        SideBySide v number key (p.after L own e) (p.after L deeds e') := by
  induction deeds with
  | nil => exact fun _ h _ => ⟨rfl, h⟩
  | cons d rest ih =>
    intro e e' hasks h hfull p own
    have hd' := hasks d List.mem_cons_self
    have hrest : ∀ d' ∈ rest, d'.Asks fun sql => ¬ v.reaches sql := fun d' hd' =>
      hasks d' (List.mem_cons_of_mem d hd')
    have hfull' := (hfull.perform hv log hd').balanced
    by_cases hname : keyOf d.name = key
    · obtain ⟨hanswer, hafter⟩ := h.own hv hd hfull log hd' hname
      obtain ⟨hreplies, hend⟩ := ih hrest hafter hfull'
      have hown : own = d :: rest.filter fun d => keyOf d.name == key := by
        simp [own, hname]
      rw [hown]
      refine ⟨?_, hend⟩
      simp only [Provider.replies, List.filter_cons, hname, BEq.rfl, if_true]
      rw [hreplies, hanswer]
    · obtain ⟨hreplies, hend⟩ := ih hrest (h.foreign hv hfull log hd' hkey hname) hfull'
      have hown : own = rest.filter fun d => keyOf d.name == key := by
        simp [own, hname]
      rw [hown]
      refine ⟨?_, hend⟩
      simp only [Provider.replies, List.filter_cons, beq_iff_eq, hname, if_false]
      exact hreplies

end

/-! ## Vacant keys -/

/-- no name of the key is kept, and no handle of it is open -/
structure Vacant (v : Survey C S X T) (number : Nat) (key : String) (e : Holdings C S W) : Prop where
  balanced : Balanced v number (fun _ => 0) e
  unkept : e.depot.keeping number key = []
  shut : ∀ x ∈ e.handles, keyOf x.1 = key → x.2.isOpen = false

section

variable {e : Holdings C S W}

/-- nobody is connected under a vacant key -/
theorem Vacant.holders (h : Vacant v number key e) (hkey : IsKey key) :
    v.holders (v.kept (room number key) e.depot.engine) = 0 := by
  have hkeepers : e.depot.keepersOf number key = 0 := by
    have hlength := congrArg List.length h.unkept
    unfold Depot.keeping at hlength
    rwa [← List.countP_eq_length_filter] at hlength
  have hconnected : connectedTo key e.handles = 0 := by
    refine List.countP_eq_zero.2 fun x hx hboth => ?_
    have hkey' : keyOf x.1 = key ∧ x.2.connection.isSome = true := by simpa using hboth
    have hopen := (h.balanced.lodged x hx).connected.symm.trans hkey'.2
    rw [h.shut x hx hkey'.1] at hopen
    cases hopen
  rw [h.balanced.counted key hkey, hkeepers, hconnected]

/-- handles under a vacant key stay shut -/
theorem Vacant.atPlace (h : Vacant v number key e) (hname : keyOf name = key) (place : Nat)
    {f : Handle C × S × W → Reply × Handle C × S × W} (hf : ∀ p, p.1.isOpen = false → (f p).2.1.isOpen = false) :
    (Provider.atPlace name place f e).2.depot.keeping number key = [] ∧
      ∀ x ∈ (Provider.atPlace name place f e).2.handles, keyOf x.1 = key → x.2.isOpen = false := by
  unfold Provider.atPlace
  cases hseat : seatOf name e.handles place with
  | none => exact ⟨h.unkept, h.shut⟩
  | some k =>
    have hk : k.isOpen = false := h.shut (name, k) (mem_of_seatOf hseat) hname
    exact ⟨h.unkept, forall_reseat (P := fun x => keyOf x.1 = key → x.2.isOpen = false) h.shut hseat fun _ =>
      hf (e.facing k) hk⟩

variable [Reporting W] (hv : v.Followed L)

include hv

/-- only an opening under the key ends the vacancy -/
theorem Vacant.perform (h : Vacant v number key e) (hkey : IsKey key) (log : StatementLog) {d : Deed}
    (hasks : d.Asks fun sql => ¬ v.reaches sql) (hd : ¬ d.OpensUnder key) :
    Vacant v number key (Provider.perform L ⟨.memory number, log⟩ d e).2 := by
  have hsettled := h.balanced.perform hv log hasks
  by_cases hname : keyOf d.name = key
  · cases d with
    | opened n o => exact absurd hname hd
    | asked n place s =>
      obtain ⟨hunkept, hshut⟩ := h.atPlace hname place (f := fun q => (.answered ((channel L).ask s q).1,
        ((channel L).ask s q).2)) fun p hp => ((ask_respects (steers_allows (L := L)) s p).isOpen).trans hp
      exact ⟨hsettled.balanced, hunkept, hshut⟩
    | closed n place =>
      obtain ⟨hunkept, hshut⟩ := h.atPlace hname place (f := fun q => (.closed, close L q)) fun p _ =>
        close_closes (L := L) p
      exact ⟨hsettled.balanced, hunkept, hshut⟩
    | dropped n =>
      have hnone : e.depot.keeper? number n = none := by
        rw [keeper?_keeping, show keyOf n = key from hname, h.unkept]
        rfl
      have hsame : (Provider.perform L ⟨.memory number, log⟩ (.dropped n) e).2 = e := by
        unfold Provider.perform dropDatabase letGo
        dsimp only
        rw [hnone]
      rw [hsame]
      exact h
  · have huntouched := hsettled.untouched key hkey fun heq => hname heq.symm
    refine ⟨hsettled.balanced, huntouched.keepers.trans h.unkept, fun x hx hxkey => ?_⟩
    have hown : x ∈ (Provider.perform L ⟨.memory number, log⟩ d e).2.handles.filter fun x => keyOf x.1 == key :=
      List.mem_filter.2 ⟨hx, beq_iff_eq.2 hxkey⟩
    rw [huntouched.handles, List.mem_filter] at hown
    exact h.shut x hown.1 hxkey

theorem Vacant.after (log : StatementLog) (hkey : IsKey key) {deeds : List Deed}
    (hasks : ∀ d ∈ deeds, d.Asks fun sql => ¬ v.reaches sql) (hdeeds : ∀ d ∈ deeds, ¬ d.OpensUnder key)
    (h : Vacant v number key e) : Vacant v number key (Provider.after L ⟨.memory number, log⟩ deeds e) := by
  induction deeds generalizing e with
  | nil => exact h
  | cons d rest ih =>
    exact ih (fun d' hd' => hasks d' (List.mem_cons_of_mem d hd')) (fun d' hd' => hdeeds d' (List.mem_cons_of_mem d hd'))
      (h.perform hv hkey log (hasks d List.mem_cons_self) (hdeeds d List.mem_cons_self))

/-- **Under a vacant key the next opening finds a new database.** -/
theorem Vacant.opens_new (h : Vacant v number (keyOf name) e) (hd : v.Determined L number empty) (log : StatementLog)
    (o : OpenOptions) {k : Int} {r : Handle C × S × W}
    (hreach : Reaches L ((⟨.memory number, log⟩ : Provider).beginning name o
      (Provider.acquire L ⟨.memory number, log⟩ name (e.depot, e.outside)).2) k r) :
    k = 0 ∧ v.stored (v.kept (room number (keyOf name)) r.2.1) = ⟨empty, 0⟩ := by
  have hplace := room_isPlace number name
  obtain ⟨hcalm, hstored⟩ := hd.fresh (isKey_keyOf name) (h.holders (isKey_keyOf name))
  obtain ⟨hacquired, hcalm'⟩ := (acquire_kept hv ⟨.memory number, log⟩ name (e.depot, e.outside)).2 hplace
  have hnew := hacquired.trans hstored
  obtain ⟨hsame, -, hversion⟩ := reach_kept hv hplace rfl rfl hreach
  exact ⟨(hversion (hcalm' hcalm)).trans (congrArg Content.version hnew), hsame.trans hnew⟩

end

theorem keeping_none {d : Depot C S} (hnames : ∀ k ∈ d.keepers, k.1.1 ≠ number) (key : String) :
    d.keeping number key = [] := by
  unfold Depot.keeping
  rw [List.filter_eq_nil_iff]
  intro k hk hboth
  have hboth : k.1.1 = number ∧ keyOf k.1.2 = key := by simpa using hboth
  exact hnames k hk hboth.1

/-- a key that only one name is kept of is vacant without that name -/
theorem dropped_keeping [Reporting W] {e : Holdings C S W} (log : StatementLog)
    (honly : ∀ other ∈ e.depot.keptNames number, keyOf other = key → other = name) :
    (Provider.perform L ⟨.memory number, log⟩ (.dropped name) e).2.depot.keeping number key = [] := by
  have hnone : ∀ {keepers : List ((Nat × String) × C)},
      (∀ k ∈ keepers, k ∈ e.depot.keepers ∧ k.1 ≠ (number, name)) →
      (keepers.filter fun k => k.1.1 == number && keyOf k.1.2 == key) = [] := by
    intro keepers hall
    rw [List.filter_eq_nil_iff]
    rintro ⟨⟨other, n⟩, c⟩ hk hboth
    have hboth : other = number ∧ keyOf n = key := by simpa using hboth
    obtain ⟨rfl, hn⟩ := hboth
    obtain ⟨hmem, hne⟩ := hall _ hk
    exact hne (by rw [honly n (Depot.mem_keptNames.2 ⟨c, hmem⟩) hn])
  unfold Provider.perform dropDatabase letGo Depot.keeping
  dsimp only
  cases hkeeper : e.depot.keeper? number name with
  | none => exact hnone fun k hk => ⟨hk, Depot.keeper?_none.1 hkeeper k hk⟩
  | some c => exact hnone fun k hk => by simpa using hk

/-- **Databases in memory are apart, key by key.** Whatever is done by other names, deeds under a key are answered as
if they were all there is, and leave the same database, as long as no statement reaches another one. After a name was
dropped that was the last one of its key, while no handle of the key was open, the next opening under the key is
answered as the first one was, and the database that it finds is new. -/
theorem memory_provider [Reporting W] (hv : v.Followed L) (hd : v.Determined L number empty) (log : StatementLog)
    (d : Depot C S) (w : W) (hnames : ∀ k ∈ d.keepers, k.1.1 ≠ number)
    (hnobody : ∀ key, IsKey key → v.holders (v.kept (room number key) d.engine) = 0) (deeds : List Deed)
    (hasks : ∀ x ∈ deeds, x.Asks fun sql => ¬ v.reaches sql) (key : String) (hkey : IsKey key) :
    let p : Provider := ⟨.memory number, log⟩
    let start := Holdings.none d w
    let e := p.after L deeds start
    let own := deeds.filter fun x => keyOf x.name == key
    ((p.replies L deeds start).filter fun r => keyOf r.1 == key) = p.replies L own start ∧
      v.kept (room number key) e.depot.engine = v.kept (room number key) (p.after L own start).depot.engine ∧
      ∀ name, keyOf name = key →
        (∀ x ∈ e.handles, keyOf x.1 = key → x.2.isOpen = false) →
        (∀ other ∈ e.depot.keptNames number, keyOf other = key → other = name) →
        ∀ later : List Deed, (∀ x ∈ later, x.Asks fun sql => ¬ v.reaches sql) → (∀ x ∈ later, ¬ x.OpensUnder key) →
          ∀ next, keyOf next = key → ∀ o : OpenOptions, (o.hooks.Ask fun s => ¬ v.reaches s.text) →
            let e' := p.after L later (p.perform L (.dropped name) e).2
            (p.openDatabase L next o (e'.depot, e'.outside)).1 = (p.openDatabase L next o (d, w)).1 ∧
              ∀ k r, Reaches L (p.beginning next o (p.acquire L next (e'.depot, e'.outside)).2) k r →
                k = 0 ∧ v.stored (v.kept (room number key) r.2.1) = ⟨empty, 0⟩ := by
  intro p start e own
  have hbalanced : Balanced v number (fun _ => 0) start := balanced_none w hnames hnobody
  have hbeside : SideBySide v number key start start := ⟨rfl, rfl, rfl⟩
  obtain ⟨hreplies, hend⟩ := hbeside.after hv hd log hkey deeds hasks hbalanced
  refine ⟨hreplies, hend.kept.symm, ?_⟩
  intro name hname hshut honly later hlater hfew next hnext o ho e'
  subst hnext
  have hdropped := (hbalanced.after hv log hasks).perform hv log (d := .dropped name) trivial
  have hvacant : Vacant v number (keyOf next) (p.perform L (.dropped name) e).2 :=
    ⟨hdropped.balanced, dropped_keeping log honly, hshut⟩
  have hlater' := hvacant.after hv log hkey hlater hfew
  have hsame := hd.gone hkey (hlater'.holders hkey) (hnobody _ hkey)
  have hkeepers : e'.depot.keeping number (keyOf next) = d.keeping number (keyOf next) :=
    hlater'.unkept.trans (keeping_none hnames _).symm
  exact ⟨(openDatabase_alike hv hd _ _ log next o ho hsame hkeepers).1, fun k r => hlater'.opens_new hv hd log o⟩

/-- a table is made in one database, whose handle is then closed, while another one is open -/
def closedNotes : List Deed :=
  [.opened "notes" ⟨2, Hooks.none⟩, .opened "log" ⟨1, Hooks.none⟩, .asked "notes" 0 (.execute "CREATE TABLE t (x)"),
    .closed "notes" 0]

/-- what is left afterwards; not to be evaluated but by the kernel -/
@[irreducible]
def closedNotesLeft : Holdings (Location × Engine.Connection) Cabinet Notebook :=
  (⟨.memory 0, .standard⟩ : Provider).after Cabinet.library closedNotes (Holdings.none Cabinet.emptyDepot ⟨[]⟩)

theorem closedNotes_left :
    (⟨.memory 0, .standard⟩ : Provider).after Cabinet.library closedNotes (Holdings.none Cabinet.emptyDepot ⟨[]⟩) =
      closedNotesLeft := by
  unfold closedNotesLeft
  rfl

theorem closedNotes_asks : ∀ x ∈ closedNotes, x.Asks fun sql => ¬ Cabinet.survey.reaches sql := by
  intro x hx
  simp only [closedNotes, List.mem_cons, List.not_mem_nil, or_false] at hx
  rcases hx with rfl | rfl | rfl | rfl
  · exact Hooks.none_asks _
  · exact Hooks.none_asks _
  · exact not_false
  · trivial

theorem closedNotes_forgotten :
    let p : Provider := ⟨.memory 0, .standard⟩
    let v := Cabinet.survey
    let o : OpenOptions := ⟨2, Hooks.none⟩
    let e' := (p.perform Cabinet.library (.dropped "notes") closedNotesLeft).2
    (v.stored (v.kept (room 0 "notes") closedNotesLeft.depot.engine)).version = 2 ∧
      (p.openDatabase Cabinet.library "notes" o (e'.depot, e'.outside)).1 =
        (p.openDatabase Cabinet.library "notes" o (Cabinet.emptyDepot, (⟨[]⟩ : Notebook))).1 ∧
      ∃ r, Reaches Cabinet.library
        (p.beginning "notes" o (p.acquire Cabinet.library "notes" (e'.depot, e'.outside)).2) 0 r ∧
          v.stored (v.kept (room 0 "notes") r.2.1) = ⟨[], 0⟩ := by
  intro p v o e'
  have hversion : (v.stored (v.kept (room 0 "notes") closedNotesLeft.depot.engine)).version = 2 := by decide +kernel
  have hshut : ∀ x ∈ closedNotesLeft.handles, keyOf x.1 = "notes" → x.2.isOpen = false := by decide +kernel
  have hkept : ∀ k ∈ closedNotesLeft.depot.keepers, keyOf k.1.2 = "notes" → k.1.2 = "notes" := by decide +kernel
  have honly : ∀ other ∈ closedNotesLeft.depot.keptNames 0, keyOf other = "notes" → other = "notes" :=
    fun other hlisted =>
    have ⟨c, hc⟩ := Depot.mem_keptNames.1 hlisted
    hkept ((0, other), c) hc
  have hkey : keyOf "notes" = "notes" := by decide +kernel
  have hforgotten := (memory_provider Cabinet.survey_followed (Cabinet.survey_determined 0) .standard Cabinet.emptyDepot
    (⟨[]⟩ : Notebook) (fun k hk => by cases hk) (fun key _ => rfl) closedNotes closedNotes_asks "notes"
    (hkey ▸ isKey_keyOf "notes")).2.2 "notes" hkey
  have hreach := reaches_of_answers (L := Cabinet.library)
    (p := p.beginning "notes" o (p.acquire Cabinet.library "notes" (e'.depot, e'.outside)).2) (k := 0)
    (by decide +kernel) (by decide +kernel)
  rw [closedNotes_left] at hforgotten
  obtain ⟨hsame, hnew⟩ := hforgotten hshut honly [] (fun x hx => by cases hx) (fun x hx => by cases hx) "notes" hkey o
    (Hooks.none_asks _)
  exact ⟨hversion, hsame, _, hreach, (hnew 0 _ hreach).2⟩

/-- two names with the same key stand for one database: its version, which only the one name was given, refuses an
opening of the other -/
theorem names_sharing_key :
    let p : Provider := ⟨.memory 0, .standard⟩
    let L := Storage.library
    let start := Holdings.none ⟨Storage.empty, []⟩ (⟨[]⟩ : Notebook)
    let deeds : List Deed := [.opened "a b" ⟨3, Hooks.none⟩, .opened "a_b" ⟨1, Hooks.none⟩]
    let replies := (p.replies L deeds start).filter fun r => r.1 == "a_b"
    let alone := p.replies L (deeds.filter fun d => d.name == "a_b") start
    ("a b" ≠ "a_b" ∧ Text.blank "a b" = false ∧ Text.blank "a_b" = false) ∧
      replies.map (fun r => r.2.isRefusal) = [true] ∧ alone.map (fun r => r.2.isRefusal) = [false] ∧
      replies ≠ alone := by
  intro p L start deeds replies alone
  have hrefused : replies.map (fun r => r.2.isRefusal) = [true] := by decide +kernel
  have hopened : alone.map (fun r => r.2.isRefusal) = [false] := by decide +kernel
  refine ⟨⟨by decide, by decide, by decide⟩, hrefused, hopened, fun hsame => ?_⟩
  rw [hsame, hopened] at hrefused
  cases hrefused

end Provider

end FluentSql.Embedded
