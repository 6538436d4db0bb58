import FluentSql.Proofs.Agreement
/-!
Which hooks an opening runs. A hook can be made to note first that it runs, and to keep its own notes to itself
(`Hooks.announced`); opening with such hooks in a world that only keeps notes (`Notebook`) makes a list of the hooks
that ran, in order and with the versions they were given (`Handle.hooksRun`). Beside the plain run the announcing one
does the same, and its notebook tells how far it got (`Handle.Announces`); `Handle.openUp_opens` puts the parts
together.
-/

namespace FluentSql

/-! ## Announcing -/

/-- the hook without its notes -/
def Hook.silenced : Hook → Hook
  | done => done
  | fail e => fail e
  | look next => look fun name isOpen => (next name isOpen).silenced
  | note _ next => next.silenced
  | execute sql next => execute sql fun x => (next x).silenced
  | query q next => query q fun x => (next x).silenced
  | insert table values next => insert table values fun x => (next x).silenced
  | update table values condition args next => update table values condition args fun x => (next x).silenced
  | delete table condition args next => delete table condition args fun x => (next x).silenced

/-- the hook with one note at the beginning, about the database and whether it is open -/
def Hook.announced (n : String → Bool → Note) (h : Hook) : Hook :=
  look fun name isOpen => note (n name isOpen) h.silenced

/-- hooks that note that they run, with the versions they are given, and nothing else -/
def Hooks.announced (h : Hooks) : Hooks where
  onCreate := h.onCreate.map (Hook.announced .created)
  onUpgrade := h.onUpgrade.map fun k current requested =>
    (k current requested).announced fun name _ => .upgraded name current requested
  onOpen := h.onOpen.map (Hook.announced .opened)

/-! ## Notebooks -/

/-- a world that keeps notes and nothing else -/
structure Notebook where
  notes : List Note
deriving DecidableEq

instance : Reporting Notebook := ⟨fun _ b => b, fun n b => ⟨b.notes ++ [n]⟩⟩

section

variable {V W : Type} [Reporting V] [Reporting W] {R : V → W → Prop} {c : Channel V} {d : Channel W}
  {isOpen : V → Bool} {isOpen' : W → Bool}

/-- without its notes a hook does what it does with them -/
theorem Hook.silenced_agrees (hc : c.Agrees R d) (hopen : ∀ v w, R v w → isOpen v = isOpen' w)
    (hnote : ∀ n v w, R v w → R v (Reporting.note n w)) (name : String) (hook : Hook) :
    (hook.silenced.run c name isOpen).Agrees R (hook.run d name isOpen') := by
  induction hook with
  | done => exact Task.agrees_pure ()
  | fail e => exact Task.agrees_fail e
  | look next ih =>
    intro v w h
    have hsame := hopen v w h
    simp only [Hook.silenced, Hook.run, hsame]
    exact ih _ _ v w h
  | note n next ih => exact fun v w h => ih _ _ (hnote n v w h)
  | execute sql next ih => exact (hc.execute sql).andThen ih
  | query q next ih => exact (hc.query q).andThen ih
  | insert table values next ih => exact (hc.insert table values).andThen ih
  | update table values condition args next ih => exact (hc.update table values condition args).andThen ih
  | delete table condition args next ih => exact (hc.delete table condition args).andThen ih

end

namespace Embedded.Handle

variable {C S W α : Type} [Reporting W] {L : Library C S}

/-- the same handle and engine, with hooks that announce themselves and an empty notebook -/
def announcing (p : Handle C × S × W) : Handle C × S × Notebook :=
  ({ p.1 with hooks := p.1.hooks.announced }, p.2.1, ⟨[]⟩)

/-- the hooks that opening runs, in order -/
def hooksRun (L : Library C S) (p : Handle C × S × W) : List Note := (openUp L (announcing p)).2.2.2.notes

/-! ## Side by side -/

/-- one handle and one engine but for the hooks, and a notebook with these notes -/
def Announces (l : List Note) (p : Handle C × S × Notebook) (q : Handle C × S × W) : Prop :=
  p = ({ q.1 with hooks := q.1.hooks.announced }, q.2.1, ⟨l⟩)

/-- the same answer, and the same handle and engine with these notes -/
def Matches (l : List Note) (x : Except DbError α × Handle C × S × Notebook)
    (y : Except DbError α × Handle C × S × W) : Prop := x.1 = y.1 ∧ Announces l x.2 y.2

variable {l : List Note}

omit [Reporting W] in
theorem Matches.follow {x : Except DbError α × Handle C × S × Notebook} {answer : Except DbError α}
    {q : Handle C × S × W} (h : Matches l x (answer, q)) : ∃ p, x = (answer, p) ∧ Announces l p q :=
  ⟨x.2, Prod.ext h.1 rfl, h.2⟩

omit [Reporting W] in
theorem announces_request (r : Request α) :
    (request L r : Act C S Notebook α).Agrees (Announces (W := W) l) (request L r) := by
  rintro _ ⟨⟨name, location, connection, isOpen, version, hooks, log⟩, s, w⟩ rfl
  unfold request
  dsimp only
  cases isOpen with
  | false => cases connection with
    | none => exact ⟨rfl, rfl⟩
    | some c => exact ⟨rfl, rfl⟩
  | true => cases connection with
    | none => exact ⟨rfl, rfl⟩
    | some c => exact ⟨rfl, rfl⟩

omit [Reporting W] in
theorem announces_lastId : (lastId L : Act C S Notebook Int64).Agrees (Announces (W := W) l) (lastId L) := by
  rintro _ ⟨⟨name, location, connection, isOpen, version, hooks, log⟩, s, w⟩ rfl
  unfold lastId
  dsimp only
  cases isOpen with
  | false => cases connection with
    | none => exact ⟨rfl, rfl⟩
    | some c => exact ⟨rfl, rfl⟩
  | true => cases connection with
    | none => exact ⟨rfl, rfl⟩
    | some c => exact ⟨rfl, rfl⟩

theorem announces_logged (sql : String) (parameters : Nat) :
    (logged sql parameters : Act C S Notebook Unit).Agrees (Announces (W := W) l) (logged sql parameters) := by
  rintro _ ⟨h, s, w⟩ rfl
  unfold logged
  dsimp only
  split
  · exact ⟨rfl, rfl⟩
  · exact ⟨rfl, rfl⟩

theorem announces_execute (sql : String) :
    (execute L sql : Act C S Notebook Unit).Agrees (Announces (W := W) l) (execute L sql) :=
  (announces_logged sql 0).bind fun _ => announces_request _

theorem announces_channel :
    (channel L : Channel (Handle C × S × Notebook)).Agrees (Announces (W := W) l) (channel L) := by
  have hreported : ∀ {β : Type} (sql : String) (n : Nat) (r : Request β),
      (do logged sql n; request L r : Act C S Notebook β).Agrees (Announces (W := W) l)
        (do logged sql n; request L r) :=
    fun sql n r => (announces_logged sql n).bind fun _ => announces_request r
  refine ⟨announces_execute, fun q => hreported _ _ _, fun table values => ?_, ?_,
    fun table condition args => hreported _ _ _⟩
  · exact (announces_logged _ _).bind fun _ => (announces_request _).bind fun _ => announces_lastId
  · intro table values condition args
    show (Handle.update L table values condition args : Act C S Notebook Nat).Agrees _
      (Handle.update L table values condition args)
    unfold Handle.update
    split
    · exact Task.agrees_fail _
    · exact hreported _ _ _

omit [Reporting W] in
theorem announces_connected : (connected L : Act C S Notebook Unit).Agrees (Announces (W := W) l) (connected L) := by
  rintro _ ⟨⟨name, location, connection, isOpen, version, hooks, log⟩, s, w⟩ rfl
  unfold connected
  dsimp only
  cases connection with
  | some c => exact ⟨rfl, rfl⟩
  | none =>
    dsimp only
    rcases connect L location s with ⟨e | c, t⟩
    · exact ⟨rfl, rfl⟩
    · exact ⟨rfl, rfl⟩

theorem announces_close {p : Handle C × S × Notebook} {q : Handle C × S × W} (h : Announces l p q) :
    Announces l (close L p) (close L q) := by
  obtain ⟨⟨name, location, connection, isOpen, version, hooks, log⟩, s, w⟩ := q
  subst h
  unfold close
  dsimp only
  cases location with
  | own => rfl
  | file path => cases connection with
    | none => rfl
    | some c =>
      dsimp only
      cases (L.close c s).1 with
      | error e => rfl
      | ok _ => rfl
  | shared address => cases connection with
    | none => rfl
    | some c =>
      dsimp only
      cases (L.close c s).1 with
      | error e => rfl
      | ok _ => rfl

omit [Reporting W] in
/-- hooks that announce themselves are given beside the hooks themselves -/
theorem announces_given (hooks : Hooks) {p : Handle C × S × Notebook} {q : Handle C × S × W} (h : Announces l p q) :
    Announces l (given hooks.announced p) (given hooks q) := by
  subst h
  rfl

/-- a hook that announces itself leaves one note and does what it does without it -/
theorem announces_hook (n : String → Bool → Note) (hook : Hook) {p : Handle C × S × Notebook}
    {q : Handle C × S × W} (h : Announces l p q) :
    Matches (l ++ [n q.1.name q.1.isOpen]) (runHook L (hook.announced n) p) (runHook L hook q) := by
  have hopen : ∀ (v : Handle C × S × Notebook) (w : Handle C × S × W),
      Announces (l ++ [n q.1.name q.1.isOpen]) v w → v.1.isOpen = w.1.isOpen := by
    intro v w h
    rw [h]
  subst h
  have hsilent := Hook.silenced_agrees (announces_channel (L := L) (W := W) (l := l ++ [n q.1.name q.1.isOpen]))
    hopen (fun _ _ _ h => h)
  exact hsilent q.1.name hook ({ q.1 with hooks := q.1.hooks.announced }, q.2.1, ⟨l ++ [n q.1.name q.1.isOpen]⟩) q rfl

/-! ## The notes of a lifecycle -/

/-- what the hook of a migration notes, if there is one -/
def migrationNotes (name : String) (hooks : Hooks) (current version : Int) : List Note :=
  if current = 0 then
    if hooks.onCreate.isSome then [.created name true] else []
  else if hooks.onUpgrade.isSome then [.upgraded name current version] else []

/-- what the hook after opening notes, if there is one -/
def openingNotes (name : String) (hooks : Hooks) : List Note :=
  if hooks.onOpen.isSome then [.opened name true] else []

/-- a hook that is announced, and then the new version -/
theorem announces_migrating (n : String → Bool → Note) (hook : Hook) (e : Event) (version : Int)
    {p : Handle C × S × Notebook} {q : Handle C × S × W} (h : Announces l p q) :
    Matches (l ++ [n q.1.name q.1.isOpen])
      ((do report e; runHook L (hook.announced n); request L (.writeVersion version) : Act C S Notebook Unit) p)
      ((do report e; runHook L hook; request L (.writeVersion version) : Act C S W Unit) q) := by
  have hreport : Announces l (p.1, p.2.1, p.2.2) (q.1, q.2.1, Reporting.emit e q.2.2) := h
  have hhook := announces_hook (L := L) n hook hreport
  have hp : (do report e; runHook L (hook.announced n); request L (.writeVersion version) : Act C S Notebook Unit) p =
      (runHook L (hook.announced n) >>= fun _ => request L (.writeVersion version)) (p.1, p.2.1, p.2.2) := rfl
  have hq : (do report e; runHook L hook; request L (.writeVersion version) : Act C S W Unit) q =
      (runHook L hook >>= fun _ => request L (.writeVersion version)) (q.1, q.2.1, Reporting.emit e q.2.2) := rfl
  rw [hp, hq, Task.bind_eq, Task.bind_eq]
  rcases hq' : runHook L hook (q.1, q.2.1, Reporting.emit e q.2.2) with ⟨x, q'⟩
  rw [hq'] at hhook
  obtain ⟨p', hp', hafter⟩ := hhook.follow
  rw [hp']
  cases x with
  | error e => exact ⟨rfl, hafter⟩
  | ok _ => exact announces_request _ _ _ hafter

/-- **A migration notes the hook that it runs**, if there is one, with the versions. -/
theorem announces_migrate {name : String} (hooks : Hooks) (current version : Int) {p : Handle C × S × Notebook}
    {q : Handle C × S × W} (h : Announces l p q) (hname : q.1.name = name) (ho : q.1.isOpen = true) :
    Matches (l ++ migrationNotes name hooks current version) (migrate L name hooks.announced current version p)
      (migrate L name hooks current version q) := by
  have hwrite : Matches l (request L (.writeVersion version) p) (request L (.writeVersion version) q) :=
    announces_request _ p q h
  unfold migrate migrationNotes Hooks.announced
  dsimp only
  split
  · cases hooks.onCreate with
    | none => simpa using hwrite
    | some hook =>
      have hrun := announces_migrating (L := L) .created hook (creating name version) version h
      rw [hname, ho] at hrun
      exact hrun
  · cases hooks.onUpgrade with
    | none => simpa using hwrite
    | some hook =>
      have hrun := announces_migrating (L := L) (fun name _ => .upgraded name current version) (hook current version)
        (upgrading name current version) version h
      rw [hname] at hrun
      exact hrun

theorem announces_afterOpening {name : String} (hooks : Hooks) {p : Handle C × S × Notebook}
    {q : Handle C × S × W} (h : Announces l p q) (hname : q.1.name = name) (ho : q.1.isOpen = true) :
    Matches (l ++ openingNotes name hooks) (afterOpening L hooks.announced p) (afterOpening L hooks q) := by
  unfold afterOpening openingNotes Hooks.announced
  dsimp only
  cases hooks.onOpen with
  | none =>
    refine ⟨rfl, ?_⟩
    show Announces (l ++ []) p q
    rw [List.append_nil]
    exact h
  | some hook =>
    have hrun := announces_hook (L := L) .opened hook h
    rw [hname, ho] at hrun
    exact hrun

end Embedded.Handle

end FluentSql
