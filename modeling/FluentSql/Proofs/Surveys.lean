import FluentSql.Proofs.Accounts
import FluentSql.Proofs.FileNames
import FluentSql.Proofs.HandleUses
import FluentSql.Proofs.OpeningCourse
/-!
What is known of all databases at once. A survey says what is kept of the database at each location: what is committed
there, how many connections there are, and which locations have to do with each other (`Survey`). Its laws are those
that the engine documents for databases that share nothing (`Survey.Followed`): a connection changes what is kept at
its own location, and nothing at locations that this one does not touch, as long as its statements reach no other
database; every opening makes one connection, and every end of one takes it away; and what is committed changes with a
commit only.

So whatever is done with a handle, other locations are spared, and the connections at its own are counted
(`Handle.Minds`).
-/

namespace FluentSql.Embedded

open Text.Path

/-! ## Places -/

/-- all characters are those that keys keep -/
def IsKey (key : String) : Prop := ∀ c ∈ key.toList, Provider.isKeyChar c = true

theorem isKey_keyOf (name : String) : IsKey (Provider.keyOf name) := by
  intro c hc
  unfold Provider.keyOf at hc
  rw [String.toList_ofList, List.mem_map] at hc
  obtain ⟨d, -, rfl⟩ := hc
  split
  · assumption
  · rfl

/-- where providers have their databases: in a file with an ordinary path, or in memory under a key -/
inductive Location.IsPlace : Location → Prop
  | file {path : String} : IsOrdinary path → IsPlace (.file path)
  | shared (number : Nat) {key : String} : IsKey key → IsPlace (.shared (address number key))

theorem Location.IsPlace.ne_own {location : Location} (h : location.IsPlace) : location ≠ .own := by
  rintro rfl
  cases h

/-- where a provider has the database of a key -/
def room (number : Nat) (key : String) : Location := .shared (Location.address number key)

theorem room_isPlace (number : Nat) (name : String) : (room number (Provider.keyOf name)).IsPlace :=
  .shared number (isKey_keyOf name)

/-! ## Surveys -/

/-- a survey of the databases at all locations -/
structure Survey (C S X T : Type) where
  /-- what is kept of the database at a location, with all that its connections hold -/
  kept : Location → S → X
  /-- what is committed in it -/
  stored : X → Content T
  /-- how many connections there are to it -/
  holders : X → Nat
  /-- nobody has changes there that are not committed -/
  calm : X → Prop
  /-- the connection was made to a location -/
  leads : C → Location → Prop
  /-- no transaction of the connection is open -/
  idle : C → X → Prop
  /-- a transaction of the connection is open -/
  within : C → X → Prop
  /-- what is done at the one location may show at the other -/
  touches : Location → Location → Prop
  /-- the texts that name other databases or files, or ask for what is kept nowhere, such as the time -/
  reaches : String → Prop
  /-- the texts that begin or end transactions -/
  controls : String → Prop

namespace Survey

variable {C S X T : Type}

/-- locations that one does not touch are as they were -/
def Spares (v : Survey C S X T) (location : Location) (s t : S) : Prop :=
  ∀ other, ¬ v.touches location other → v.kept other t = v.kept other s

/-- a request that reaches no other database -/
def Stays {α : Type} (v : Survey C S X T) (r : Request α) : Prop := ∀ sql, r.text? = some sql → ¬ v.reaches sql

def Attached (v : Survey C S X T) (c : C) (x : X) : Prop := v.idle c x ∨ v.within c x

/-- what is committed is as it was, and the connection is there -/
structure Leaves (v : Survey C S X T) (location : Location) (s : S) (c : C) (t : S) : Prop where
  stored : v.stored (v.kept location t) = v.stored (v.kept location s)
  attached : v.Attached c (v.kept location t)

/-- a library does to databases what a survey says -/
structure Followed (v : Survey C S X T) (L : Library C S) : Prop where
  /-- what an opening asks for by itself reaches no other database -/
  own : ∀ sql ∈ Handle.ownStatements, ¬ v.reaches sql
  /-- keys stand for databases of their own -/
  keys : ∀ number {key other}, IsKey key → IsKey other → key ≠ other →
    ¬ v.touches (.shared (Location.address number key)) (.shared (Location.address number other))
  /-- and so do names in a directory, but for the files beside a database -/
  names : ∀ {dir n m}, NamesDirectory dir → Plain n → Plain m → Apart n m →
    ¬ v.touches (.file (join dir n)) (.file (join dir m))
  /-- directories have nothing to do with what is stored -/
  made : ∀ dir s location, v.kept location (L.makeDirectories dir s).2 = v.kept location s
  opened : ∀ {location s x t}, location ≠ .own → L.openAt location s = (x, t) →
    v.Spares location s t ∧ ∀ c, x = .ok c → v.leads c location
  performed : ∀ {α : Type} (r : Request α) {c location} (s), v.leads c location → v.Stays r →
    v.leads (L.perform r c s).2.1 location ∧ v.Spares location s (L.perform r c s).2.2
  closed : ∀ {c location} (s), v.leads c location → v.Spares location s (L.close c s).2
  /-- an opening makes a connection, or none -/
  joined : ∀ {location s x t}, location.IsPlace → L.openAt location s = (x, t) →
    v.holders (v.kept location t) = v.holders (v.kept location s) + x.toBool.toNat ∧
      v.stored (v.kept location t) = v.stored (v.kept location s) ∧
      (v.calm (v.kept location s) → v.calm (v.kept location t)) ∧
      ∀ c, x = .ok c → v.idle c (v.kept location t)
  used : ∀ {α : Type} (r : Request α) {c location} (s), location.IsPlace → v.leads c location → v.Stays r →
    v.holders (v.kept location (L.perform r c s).2.2) = v.holders (v.kept location s)
  left : ∀ {c location} (s), location.IsPlace → v.leads c location →
    v.holders (v.kept location (L.close c s).2) = v.holders (v.kept location s) - 1
  /-- a file goes on when a connection ends, and so does a database in memory as long as somebody else is connected;
  what is not committed is forgotten -/
  ended : ∀ {c location s}, location.IsPlace → v.leads c location → v.Attached c (v.kept location s) →
    ((∃ path, location = .file path) ∨ 2 ≤ v.holders (v.kept location s)) →
    v.stored (v.kept location (L.close c s).2) = v.stored (v.kept location s)
  /-- outside of a transaction the version that is read is the one that is committed, unless others are changing it -/
  read : ∀ {c location s x c' t}, location.IsPlace → v.leads c location → v.idle c (v.kept location s) →
    L.perform .readVersion c s = (x, c', t) →
    v.stored (v.kept location t) = v.stored (v.kept location s) ∧ v.idle c' (v.kept location t) ∧
      ∀ k, x = .ok k → v.calm (v.kept location s) → k = (v.stored (v.kept location s)).version
  begun : ∀ {c location s x c' t}, location.IsPlace → v.leads c location → v.idle c (v.kept location s) →
    L.perform (.batch "BEGIN") c s = (x, c', t) →
    v.Leaves location s c' t ∧ (x = .ok () → v.within c' (v.kept location t))
  /-- a statement that does not control transactions works inside of the one that is open; the engine may give that up
  on an error -/
  inside : ∀ {α : Type} (r : Request α) {sql c location s}, location.IsPlace → v.leads c location →
    v.within c (v.kept location s) → r.text? = some sql → ¬ v.reaches sql → ¬ v.controls sql →
    v.Leaves location s (L.perform r c s).2.1 (L.perform r c s).2.2
  written : ∀ {c location s n x c' t}, location.IsPlace → v.leads c location → v.within c (v.kept location s) →
    L.perform (.writeVersion n) c s = (x, c', t) → v.Leaves location s c' t
  committed : ∀ {c location s e c' t}, location.IsPlace → v.leads c location → v.Attached c (v.kept location s) →
    L.perform (.batch "COMMIT") c s = (.error e, c', t) → v.Leaves location s c' t
  undone : ∀ {c location s x c' t}, location.IsPlace → v.leads c location → v.Attached c (v.kept location s) →
    L.perform (.batch "ROLLBACK") c s = (x, c', t) → v.Leaves location s c' t

/-- the addresses of a provider stand for themselves: what the engine answers at one of them is determined by what it
keeps there, and it keeps nothing of a database that nobody is connected to -/
structure Determined (v : Survey C S X T) (L : Library C S) (number : Nat) (empty : T) : Prop where
  opened : ∀ {key s t}, IsKey key → v.kept (room number key) s = v.kept (room number key) t →
    (L.openAt (room number key) s).1 = (L.openAt (room number key) t).1 ∧
      v.kept (room number key) (L.openAt (room number key) s).2 =
        v.kept (room number key) (L.openAt (room number key) t).2
  performed : ∀ {α : Type} (r : Request α) {key c s t}, IsKey key → v.leads c (room number key) → v.Stays r →
    v.kept (room number key) s = v.kept (room number key) t →
    (L.perform r c s).1 = (L.perform r c t).1 ∧ (L.perform r c s).2.1 = (L.perform r c t).2.1 ∧
      v.kept (room number key) (L.perform r c s).2.2 = v.kept (room number key) (L.perform r c t).2.2
  lastId : ∀ {key c s t}, IsKey key → v.leads c (room number key) →
    v.kept (room number key) s = v.kept (room number key) t → L.lastId c s = L.lastId c t
  closed : ∀ {key c s t}, IsKey key → v.leads c (room number key) →
    v.kept (room number key) s = v.kept (room number key) t →
    (L.close c s).1 = (L.close c t).1 ∧
      v.kept (room number key) (L.close c s).2 = v.kept (room number key) (L.close c t).2
  /-- without connections there is no database, so the next one is new -/
  gone : ∀ {key s t}, IsKey key → v.holders (v.kept (room number key) s) = 0 →
    v.holders (v.kept (room number key) t) = 0 → v.kept (room number key) s = v.kept (room number key) t
  fresh : ∀ {key s}, IsKey key → v.holders (v.kept (room number key) s) = 0 →
    v.calm (v.kept (room number key) s) ∧ v.stored (v.kept (room number key) s) = ⟨empty, 0⟩

theorem spares_refl (v : Survey C S X T) (location : Location) (s : S) : v.Spares location s s := fun _ _ => rfl

theorem Spares.trans {v : Survey C S X T} {location : Location} {s t u : S} (first : v.Spares location s t)
    (second : v.Spares location t u) : v.Spares location s u := fun other hother =>
  (second other hother).trans (first other hother)

end Survey

/-! ## Handles -/

namespace Handle

variable {C S W X T α : Type} {L : Library C S} {v : Survey C S X T} {location : Location} {n : Nat}
  {p q : Handle C × S × W}

/-- a handle at a location, with a connection to it if it has one -/
structure Sits (v : Survey C S X T) (location : Location) (p : Handle C × S × W) : Prop where
  located : p.1.location = location
  leads : ∀ c, p.1.connection = some c → v.leads c location

/-- where a handle is, so many others are connected -/
def Counts (v : Survey C S X T) (location : Location) (others : Nat) (p : Handle C × S × W) : Prop :=
  location.IsPlace → v.holders (v.kept location p.2.1) = others + p.1.connection.isSome.toNat

/-- other locations are spared, and others stay connected where a handle sits -/
def Minds (v : Survey C S X T) (location : Location) (p q : Handle C × S × W) : Prop :=
  Sits v location p → Sits v location q ∧ v.Spares location p.2.1 q.2.1 ∧
    ∀ others, Counts v location others p → Counts v location others q

theorem minds_stepwise (v : Survey C S X T) (location : Location) :
    Stepwise (Minds (C := C) (S := S) (W := W) v location) where
  refl p h := ⟨h, v.spares_refl location p.2.1, fun _ hp => hp⟩
  trans first second h :=
    have ⟨hfirst, hspares, hcounts⟩ := first h
    have ⟨hsecond, hspares', hcounts'⟩ := second hfirst
    ⟨hsecond, hspares.trans hspares', fun others hp => hcounts' others (hcounts others hp)⟩

/-- what changes neither the location nor the connection of a handle, nor what the engine keeps -/
theorem minds_of_same (hlocation : q.1.location = p.1.location) (hconnection : q.1.connection = p.1.connection)
    (hengine : q.2.1 = p.2.1) : Minds v location p q := by
  refine fun h => ⟨⟨hlocation.trans h.located, fun c hc => h.leads c (hconnection.symm.trans hc)⟩, ?_,
    fun others hp => ?_⟩
  · rw [hengine]
    exact v.spares_refl location p.2.1
  · unfold Counts
    rw [hengine, hconnection]
    exact hp

section

variable (hv : v.Followed L)

include hv

theorem request_minds (r : Request α) (hstays : v.Stays r) :
    (request L r : Act C S W α).Respects (Minds v location) := by
  intro p h
  unfold request
  split
  · rename_i c hc _
    have hleads := h.leads c hc
    obtain ⟨hafter, hspares⟩ := hv.performed r p.2.1 hleads hstays
    refine ⟨⟨h.located, fun d hd => ?_⟩, hspares, fun others hcounts hplace => ?_⟩
    · cases hd
      exact hafter
    · have hcounted := hcounts hplace
      rw [hc] at hcounted
      exact (hv.used r p.2.1 hplace hleads hstays).trans hcounted
  · exact ⟨h, v.spares_refl location p.2.1, fun _ hp => hp⟩

variable [Reporting W]

theorem minds_allows : Allows L (fun sql => ¬ v.reaches sql) (Minds (W := W) v location) where
  stepwise := minds_stepwise v location
  emit _ _ := minds_of_same rfl rfl rfl
  note _ _ := minds_of_same rfl rfl rfl
  request r sql htext hsql := request_minds hv r fun other hother => by
    rw [htext] at hother
    cases hother
    exact hsql
  own sql hsql := request_minds hv _ fun other hother => by
    cases hother
    exact hv.own sql hsql
  readVersion := request_minds hv _ fun _ htext => by cases htext
  writeVersion _ := request_minds hv _ fun _ htext => by cases htext
  around p q h hp :=
    have ⟨hq, hspares, hcounts⟩ := h ⟨hp.located, hp.leads⟩
    ⟨⟨hq.located, hq.leads⟩, hspares, hcounts⟩

omit [Reporting W] in
/-- before connecting, nothing is changed that a database knows of -/
theorem prepare_kept {s t : S} {x : Except IoFault Unit} (h : prepare L location s = (x, t)) (other : Location) :
    v.kept other t = v.kept other s := by
  rcases prepare_cases L location s with hsame | ⟨dir, hmade⟩
  · rw [h] at hsame
    cases hsame
    rfl
  · have hkept := hv.made dir s other
    rw [← hmade, h] at hkept
    exact hkept

/-- what connecting does to what is kept -/
theorem connect_kept {s t : S} {x : Except DbError C} (hl : location ≠ .own) (h : connect L location s = (x, t)) :
    v.Spares location s t ∧ (∀ c, x = .ok c → v.leads c location) ∧
      (location.IsPlace → v.holders (v.kept location t) = v.holders (v.kept location s) + x.toBool.toNat ∧
        v.stored (v.kept location t) = v.stored (v.kept location s) ∧
        (v.calm (v.kept location s) → v.calm (v.kept location t)) ∧ ∀ c, x = .ok c → v.idle c (v.kept location t)) := by
  cases x with
  | ok c =>
    obtain ⟨s', hprepare, hopen⟩ := connect_made h
    have hsame := prepare_kept hv hprepare
    obtain ⟨hspares, hleads⟩ := hv.opened hl hopen
    refine ⟨fun other hother => (hspares other hother).trans (hsame other), fun d hd => ?_, fun hplace => ?_⟩
    · cases hd
      exact hleads c rfl
    · obtain ⟨hholders, hstored, hcalm, hidle⟩ := hv.joined hplace hopen
      rw [hsame location] at hholders hstored hcalm
      refine ⟨hholders, hstored, hcalm, fun d hd => ?_⟩
      cases hd
      exact hidle c rfl
  | error e =>
    rcases connect_refused h with ⟨why, hprepare⟩ | ⟨s', why, hprepare, hopen⟩
    · have hsame := prepare_kept hv hprepare
      refine ⟨fun other _ => hsame other, fun c hc => (by cases hc), fun _ => ?_⟩
      rw [hsame location]
      exact ⟨rfl, rfl, id, fun c hc => by cases hc⟩
    · have hsame := prepare_kept hv hprepare
      obtain ⟨hspares, -⟩ := hv.opened hl hopen
      refine ⟨fun other hother => (hspares other hother).trans (hsame other), fun c hc => (by cases hc),
        fun hplace => ?_⟩
      obtain ⟨hholders, hstored, hcalm, -⟩ := hv.joined hplace hopen
      rw [hsame location] at hholders hstored hcalm
      exact ⟨hholders, hstored, hcalm, fun c hc => by cases hc⟩

omit [Reporting W] in
theorem connected_minds (hl : location ≠ .own) (p : Handle C × S × W) : Minds v location p (connected L p).2 := by
  intro h
  cases hc : p.1.connection with
  | some c =>
    rw [connected_of_some hc]
    exact ⟨h, v.spares_refl location p.2.1, fun _ hp => hp⟩
  | none =>
    rcases hconnect : connect L p.1.location p.2.1 with ⟨e | c, t⟩
    · rw [connected_of_error hc hconnect]
      rw [h.located] at hconnect
      obtain ⟨hspares, -, hplaced⟩ := connect_kept hv hl hconnect
      refine ⟨⟨h.located, h.leads⟩, hspares, fun others hcounts hplace => ?_⟩
      exact ((hplaced hplace).1.trans (Nat.add_zero _)).trans (hcounts hplace)
    · rw [connected_of_ok hc hconnect]
      rw [h.located] at hconnect
      obtain ⟨hspares, hleads, hplaced⟩ := connect_kept hv hl hconnect
      refine ⟨⟨h.located, fun d hd => ?_⟩, hspares, fun others hcounts hplace => ?_⟩
      · cases hd
        exact hleads c rfl
      · have hcounted := hcounts hplace
        rw [hc] at hcounted
        exact (hplaced hplace).1.trans (by rw [hcounted]; rfl)

theorem close_minds (hl : location ≠ .own) (p : Handle C × S × W) : Minds v location p (close L p) := by
  intro h
  cases hc : p.1.connection with
  | none =>
    rw [close_of_none hc]
    exact ⟨⟨h.located, h.leads⟩, v.spares_refl location p.2.1, fun _ hp => hp⟩
  | some c =>
    obtain ⟨w, hclose⟩ := close_of_some (L := L) (fun he => hl (h.located.symm.trans he)) hc
    have hleads := h.leads c hc
    rw [hclose]
    refine ⟨⟨h.located, fun d hd => (by cases hd)⟩, hv.closed p.2.1 hleads, fun others hcounts hplace => ?_⟩
    have hcounted := hcounts hplace
    rw [hc] at hcounted
    have hleft := hv.left p.2.1 hplace hleads
    rw [hcounted] at hleft
    exact hleft

/-- **Opening a handle spares other locations**, and others stay connected to its own. -/
theorem openUp_minds (hl : location ≠ .own) {p : Handle C × S × W}
    (hasks : p.1.hooks.Ask fun s => ¬ v.reaches s.text) : Minds v location p (openUp L p).2 :=
  (minds_allows hv).openUp hasks (connected_minds hv hl p) (fun _ => minds_of_same rfl rfl rfl) (close_minds hv hl)

omit [Reporting W] in
/-- **Getting so far that the version is known changes nothing that is committed**; and the version that is read is
the one that is committed, unless somebody is changing it. -/
theorem reach_kept (hplace : location.IsPlace) {k : Int} (hlocated : p.1.location = location)
    (hnone : p.1.connection = none) (hreach : Reaches L p k q) :
    v.stored (v.kept location q.2.1) = v.stored (v.kept location p.2.1) ∧
      (∃ c, q.1.connection = some c ∧ v.leads c location ∧ v.idle c (v.kept location q.2.1)) ∧
      (v.calm (v.kept location p.2.1) → k = (v.stored (v.kept location p.2.1)).version) := by
  obtain ⟨m, hconnected, hread⟩ := hreach
  subst hlocated
  rcases hconnect : connect L p.1.location p.2.1 with ⟨why | c, s⟩
  · rw [connected_of_error hnone hconnect] at hconnected
    cases hconnected
  · rw [connected_of_ok hnone hconnect] at hconnected
    cases hconnected
    obtain ⟨-, hleads, hjoined⟩ := connect_kept hv hplace.ne_own hconnect
    obtain ⟨-, hsame, hcalm, hidle⟩ := hjoined hplace
    have hlead := hleads c rfl
    rcases hperform : L.perform .readVersion c s with ⟨x, c', t⟩
    obtain ⟨hunread, hidle', hversion⟩ := hv.read hplace hlead (hidle c rfl) hperform
    have hlead' := (hv.performed .readVersion s hlead fun _ htext => by cases htext).1
    unfold storedVersion at hread
    rw [request_live .readVersion rfl rfl] at hread
    dsimp only [raised] at hread
    rw [hperform] at hread hlead'
    cases x with
    | error e => cases hread
    | ok n =>
      cases hread
      refine ⟨hunread.trans hsame, ⟨c', rfl, hlead', hidle'⟩, fun hwas => ?_⟩
      rw [hversion _ rfl (hcalm hwas), hsame]

theorem ask_minds {s : Statement} (hs : ¬ v.reaches s.text) :
    ((channel L).ask s : Act C S W StatementReply).Respects (Minds v location) :=
  (minds_allows hv).channel.ask (minds_stepwise v location) hs

end

end Handle

end FluentSql.Embedded
