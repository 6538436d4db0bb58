import FluentSql.Proofs.HandleUses
/-!
Providers in use. A deed opens a database by its name, asks a handle that was opened for a statement, closes such a
handle, or drops a name; handles are addressed by their name and their place among the handles of that name. A run of
deeds (`Provider.after`) leaves `Holdings`: the handles that were opened and what they stand on.
-/

namespace FluentSql.Embedded

variable {C S W : Type}

/-- the handles that a provider has opened, with their names, the latest last, and what they stand on -/
structure Holdings (C S W : Type) where
  handles : List (String × Handle C)
  depot : Depot C S
  outside : W

/-- what can be done with the databases of a provider -/
inductive Deed where
  | opened (name : String) (o : OpenOptions)
  /-- the handle at a place among those of its name is asked for a statement -/
  | asked (name : String) (place : Nat) (s : Statement)
  | closed (name : String) (place : Nat)
  | dropped (name : String)

/-- what a deed is answered -/
inductive Reply where
  | opened (x : Except DbError Unit)
  | answered (x : Except DbError StatementReply)
  | closed
  | dropped (x : Except DbError Bool)
  /-- there is no handle at the place -/
  | nobody

/-- an opening that has failed -/
def Reply.isRefusal : Reply → Bool
  | opened (.error _) => true
  | _ => false

/-- an answer that is an error -/
def Reply.isError : Reply → Bool
  | opened (.error _) => true
  | answered (.error _) => true
  | dropped (.error _) => true
  | _ => false

namespace Deed

def name : Deed → String
  | opened name _ => name
  | asked name _ _ => name
  | closed name _ => name
  | dropped name => name

/-- the statements of a deed, and those of its hooks, have texts of a kind -/
def Asks (Q : String → Prop) : Deed → Prop
  | opened _ o => o.hooks.Ask fun s => Q s.text
  | asked _ _ s => Q s.text
  | _ => True

end Deed

/-! ## Places -/

/-- the handle at a place among those of a name -/
def seatOf (name : String) : List (String × Handle C) → Nat → Option (Handle C)
  | [], _ => none
  | x :: rest, place =>
    if x.1 = name then match place with
      | 0 => some x.2
      | place + 1 => seatOf name rest place
    else seatOf name rest place

/-- another handle takes the place -/
def reseat (name : String) (h : Handle C) : List (String × Handle C) → Nat → List (String × Handle C)
  | [], _ => []
  | x :: rest, place =>
    if x.1 = name then match place with
      | 0 => (name, h) :: rest
      | place + 1 => x :: reseat name h rest place
    else x :: reseat name h rest place

section

variable {name : String} {h k : Handle C} {l : List (String × Handle C)} {place : Nat}

/-- a handle that is found stands somewhere in the list, and only it is replaced -/
theorem seatOf_split (hseat : seatOf name l place = some h) :
    ∃ before behind, l = before ++ (name, h) :: behind ∧
      ∀ k, reseat name k l place = before ++ (name, k) :: behind := by
  induction l generalizing place with
  | nil => cases hseat
  | cons x rest ih =>
    simp only [seatOf, reseat] at hseat ⊢
    by_cases hx : x.1 = name
    · rw [if_pos hx] at hseat
      cases place with
      | zero =>
        cases hseat
        refine ⟨[], rest, ?_, fun k => by simp [hx]⟩
        simp [← hx]
      | succ place =>
        obtain ⟨before, behind, hl, hset⟩ := ih hseat
        exact ⟨x :: before, behind, by rw [hl]; rfl, fun k => by simp [hx, hset]⟩
    · rw [if_neg hx] at hseat
      obtain ⟨before, behind, hl, hset⟩ := ih hseat
      exact ⟨x :: before, behind, by rw [hl]; rfl, fun k => by simp [hx, hset]⟩

/-- what holds of all handles, and of the one that takes a place, holds of all handles afterwards -/
theorem forall_reseat {P : String × Handle C → Prop} (hall : ∀ x ∈ l, P x) (hseat : seatOf name l place = some h)
    (hk : P (name, k)) : ∀ x ∈ reseat name k l place, P x := by
  obtain ⟨before, behind, hl, hset⟩ := seatOf_split hseat
  intro x hx
  rw [hset k, List.mem_append, List.mem_cons] at hx
  rcases hx with hx | rfl | hx
  · exact hall x (by rw [hl]; simp [hx])
  · exact hk
  · exact hall x (by rw [hl]; simp [hx])

theorem mem_of_seatOf (hseat : seatOf name l place = some h) : (name, h) ∈ l := by
  obtain ⟨before, behind, hl, _⟩ := seatOf_split hseat
  rw [hl]
  simp

variable (keeps : String → Bool)

/-- leaving out other names leaves the places as they are -/
theorem seatOf_filter (hname : keeps name = true) (l : List (String × Handle C)) (place : Nat) :
    seatOf name (l.filter fun x => keeps x.1) place = seatOf name l place := by
  induction l generalizing place with
  | nil => rfl
  | cons x rest ih =>
    by_cases hx : x.1 = name
    · cases place with
      | zero => simp [seatOf, hx, hname]
      | succ place => simp [seatOf, hx, hname, ih place]
    · by_cases hkeeps : keeps x.1 = true
      · simp [seatOf, hx, hkeeps, ih place]
      · simp [seatOf, hx, hkeeps, ih place]

theorem reseat_filter (hname : keeps name = true) (k : Handle C) (l : List (String × Handle C)) (place : Nat) :
    (reseat name k l place).filter (fun x => keeps x.1) = reseat name k (l.filter fun x => keeps x.1) place := by
  induction l generalizing place with
  | nil => rfl
  | cons x rest ih =>
    by_cases hx : x.1 = name
    · cases place with
      | zero => simp [reseat, hx, hname]
      | succ place => simp [reseat, hx, hname, ih place]
    · by_cases hkeeps : keeps x.1 = true
      · simp [reseat, hx, hkeeps, ih place]
      · simp [reseat, hx, hkeeps, ih place]

theorem reseat_filter_other (hname : keeps name = false) (k : Handle C) (l : List (String × Handle C)) (place : Nat) :
    (reseat name k l place).filter (fun x => keeps x.1) = l.filter fun x => keeps x.1 := by
  induction l generalizing place with
  | nil => rfl
  | cons x rest ih =>
    simp only [reseat]
    by_cases hx : x.1 = name
    · have hout : ¬keeps x.1 = true := by rw [hx, hname]; exact Bool.false_ne_true
      have hout' : ¬keeps name = true := by rw [hname]; exact Bool.false_ne_true
      rw [if_pos hx]
      cases place with
      | zero => simp [hout, hout']
      | succ place => simp [hout, ih place]
    · rw [if_neg hx, List.filter_cons, List.filter_cons, ih place]

end

namespace Holdings

/-- nothing has been opened -/
def none (d : Depot C S) (w : W) : Holdings C S W := ⟨[], d, w⟩

/-- a handle with what it stands on -/
def facing (e : Holdings C S W) (h : Handle C) : Handle C × S × W := (h, e.depot.engine, e.outside)

/-- what a handle leaves takes its place -/
def seated (e : Holdings C S W) (name : String) (place : Nat) (p : Handle C × S × W) : Holdings C S W :=
  ⟨reseat name p.1 e.handles place, { e.depot with engine := p.2.1 }, p.2.2⟩

end Holdings

namespace Provider

variable [Reporting W] (L : Library C S)

/-- the handle that an opening of a name begins with, once the name is kept -/
def beginning (p : Provider) (name : String) (o : OpenOptions) (q : Depot C S × W) : Handle C × S × W :=
  (newHandle p name o, q.1.engine, Reporting.emit (opening name o.version) q.2)

/-- does something with the handle at a place -/
def atPlace {W : Type} (name : String) (place : Nat) (f : Handle C × S × W → Reply × Handle C × S × W)
    (e : Holdings C S W) : Reply × Holdings C S W :=
  match seatOf name e.handles place with
  | some h => ((f (e.facing h)).1, e.seated name place (f (e.facing h)).2)
  | none => (.nobody, e)

def perform (p : Provider) : Deed → Holdings C S W → Reply × Holdings C S W
  | .opened name o, e =>
    match p.openDatabase L name o (e.depot, e.outside) with
    | (.ok h, d, w) => (.opened (.ok ()), ⟨e.handles ++ [(name, h)], d, w⟩)
    | (.error x, d, w) => (.opened (.error x), ⟨e.handles, d, w⟩)
  | .asked name place s, e =>
    atPlace name place
      (fun q => (.answered ((Handle.channel L).ask s q).1, ((Handle.channel L).ask s q).2)) e
  | .closed name place, e => atPlace name place (fun q => (.closed, Handle.close L q)) e
  | .dropped name, e =>
    let r := p.dropDatabase L name (e.depot, e.outside)
    (.dropped r.1, ⟨e.handles, r.2.1, r.2.2⟩)

/-- the holdings after a run of deeds -/
def after (p : Provider) (deeds : List Deed) (e : Holdings C S W) : Holdings C S W :=
  deeds.foldl (fun e d => (p.perform L d e).2) e

/-- what a run of deeds is answered, with the names that the deeds are about -/
def replies (p : Provider) : List Deed → Holdings C S W → List (String × Reply)
  | [], _ => []
  | d :: rest, e => (d.name, (p.perform L d e).1) :: p.replies rest (p.perform L d e).2

/-- no opening of a run is refused -/
def AllOpened (p : Provider) : List Deed → Holdings C S W → Prop
  | [], _ => True
  | d :: rest, e => (p.perform L d e).1.isRefusal = false ∧ p.AllOpened rest (p.perform L d e).2

end Provider

end FluentSql.Embedded
