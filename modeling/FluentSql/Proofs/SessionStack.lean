import FluentSql.Proofs.Recording
import FluentSql.Session.Basic
/-!
A session as a stack machine.

Chained steps and runs move a session (`advance`). Beside it goes a ghost, the stack of the histories of the
units that wait (`Histories`): a verb starts a history, any other step joins the top one, and a run takes the
top one off when the bound handle is open or opens. The ghost is the whole truth about the stack
(`replay_stack`): a unit that waits is what its own history makes of a new unit, whatever else happened.

Main result: `replay_laws`. After any moves, on any backend, the next verb, step or run does what the laws of
the stack machine (`StackLaws`) say, with exactly the calls that the laws name.
-/

namespace FluentSql.Session

variable {W H P : Type}

/-- a session, the calls so far, and the world -/
abbrev Scene (W H P : Type) := Session H P × List (Request H P) × W

/-! ## A recorded handle around an action -/

theorem recorded_openHandle (b : Backend W H P) {h : H} {w w' : W} {x : Except DbError Unit}
    (hopen : b.openHandle h w = (x, w')) (s : Session H P) (calls : List (Request H P)) :
    Task.lift (b.recorded.openHandle h) (s, calls, w) = (x, s, calls ++ [.openHandle h], w') := by
  simp only [Task.lift, Task.within, Backend.recorded, Task.recorded, hopen]

theorem whileOpen_recorded_open {α : Type} (b : Backend W H P) {h : H} {w : W} (ho : b.isOpen h w = true)
    (action : Task (Scene W H P) α) (s : Session H P) (calls : List (Request H P)) :
    whileOpen b.recorded h action (s, calls, w) = action (s, calls, w) :=
  Task.whileOpen_of_open ho

theorem whileOpen_recorded_refused {α : Type} (b : Backend W H P) {h : H} {w w' : W} {e : DbError}
    (ho : b.isOpen h w = false) (hopen : b.openHandle h w = (.error e, w')) (action : Task (Scene W H P) α)
    (s : Session H P) (calls : List (Request H P)) :
    whileOpen b.recorded h action (s, calls, w) = (.error e, s, calls ++ [.openHandle h], w') :=
  Task.whileOpen_of_refused ho (recorded_openHandle b hopen s calls)

theorem whileOpen_recorded_started {α : Type} (b : Backend W H P) {h : H} {w w' : W}
    (ho : b.isOpen h w = false) (hopen : b.openHandle h w = (.ok (), w')) (action : Task (Scene W H P) α)
    (s : Session H P) (calls : List (Request H P)) :
    whileOpen b.recorded h action (s, calls, w) =
      let r := action (s, calls ++ [.openHandle h], w')
      (r.1, r.2.1, r.2.2.1 ++ [.closeHandle h], b.closeHandle h r.2.2.2) :=
  Task.whileOpen_of_started ho (recorded_openHandle b hopen s calls)

variable [Reporting W]

/-! ## Moves -/

/-- one call of a user: a chained step or a run -/
inductive Move where
  | chain (step : Step)
  | run

/-- the scene after a move -/
def advance (b : Backend W H P) (p : Scene W H P) : Move → Scene W H P
  | .chain step => (chain step p).2
  | .run => (run b.recorded p).2

/-- the steps of each unit that waits, in order, the top unit first -/
abbrev Histories := List (List Step)

/-- whether a run gets as far as the top unit: the bound handle is open, or opens -/
def reachesTop (b : Backend W H P) (p : Scene W H P) : Bool :=
  p.1.handle.any fun h => b.isOpen h p.2.2 || (b.openHandle h p.2.2).1.toBool

/-- the histories after a move -/
def follow (b : Backend W H P) (p : Scene W H P) (hist : Histories) : Move → Histories
  | .chain step =>
    if step.isVerb then [step] :: hist
    else match hist with
      | [] => []
      | steps :: rest => (steps ++ [step]) :: rest
  | .run => if reachesTop b p then hist.tail else hist

/-- the scene and the histories after moves -/
def replay (b : Backend W H P) (start : Scene W H P × Histories) (moves : List Move) :
    Scene W H P × Histories :=
  moves.foldl (fun p m => (advance b p.1 m, follow b p.1 p.2 m)) start

/-! ## The laws -/

/-- what the next call does to a session whose units have the given histories -/
structure StackLaws (b : Backend W H P) (s : Session H P) (calls : List (Request H P)) (w : W)
    (hist : Histories) : Prop where
  units : s.stack = hist.map WorkUnit.ofSteps
  /-- a verb adds one unit on top -/
  verb : ∀ step, step.isVerb = true → chain step (s, calls, w) =
    (.ok (), { s with stack := WorkUnit.ofSteps [step] :: s.stack }, calls,
      Reporting.emit (pushed (WorkUnit.ofSteps [step]) (s.pending + 1)) w)
  /-- any other step changes the top unit only -/
  modifier : ∀ step steps rest, step.isVerb = false → hist = steps :: rest → chain step (s, calls, w) =
    (.ok (), { s with stack := WorkUnit.ofSteps (steps ++ [step]) :: rest.map WorkUnit.ofSteps }, calls, w)
  /-- without a unit it changes nothing -/
  modifier_empty : ∀ step, step.isVerb = false → hist = [] → chain step (s, calls, w) = (.ok (), s, calls, w)
  run_empty : hist = [] → run b.recorded (s, calls, w) = (.ok .nothing, s, calls, w)
  run_unbound : hist ≠ [] → s.handle = none → run b.recorded (s, calls, w) = (.error .noDatabaseBound, s, calls, w)
  /-- a handle that does not open leaves every unit where it is -/
  run_refused : ∀ h e w', hist ≠ [] → s.handle = some h → b.isOpen h w = false →
    b.openHandle h w = (.error e, w') →
    run b.recorded (s, calls, w) = (.error e, s, calls ++ [.openHandle h], w')
  /-- on an open handle the top unit goes and runs as a unit of its own -/
  run_open : ∀ h steps rest, hist = steps :: rest → s.handle = some h → b.isOpen h w = true →
    let alone := (WorkUnit.ofSteps steps).run (b.recorded.channel h)
      ([], Reporting.emit (popped (WorkUnit.ofSteps steps) rest.length) w)
    run b.recorded (s, calls, w) =
      (alone.1, { s with stack := rest.map WorkUnit.ofSteps }, calls ++ alone.2.1, alone.2.2)
  /-- a closed handle is opened before and closed afterwards -/
  run_closed : ∀ h steps rest w', hist = steps :: rest → s.handle = some h → b.isOpen h w = false →
    b.openHandle h w = (.ok (), w') →
    let alone := (WorkUnit.ofSteps steps).run (b.recorded.channel h)
      ([], Reporting.emit (popped (WorkUnit.ofSteps steps) rest.length) w')
    run b.recorded (s, calls, w) =
      (alone.1, { s with stack := rest.map WorkUnit.ofSteps },
        calls ++ .openHandle h :: alone.2.1 ++ [.closeHandle h], b.closeHandle h alone.2.2)

/-! ## Single calls -/

theorem chain_verb {step : Step} (h : step.isVerb = true) (s : Session H P) (calls : List (Request H P)) (w : W) :
    chain step (s, calls, w) =
      (.ok (), { s with stack := WorkUnit.ofSteps [step] :: s.stack }, calls,
        Reporting.emit (pushed (WorkUnit.ofSteps [step]) (s.pending + 1)) w) := by
  rw [chain, if_pos h]
  rfl

theorem chain_modifier {step : Step} (h : step.isVerb = false) (p : Scene W H P) :
    chain step p = (.ok (), onTop (·.apply step) p.1, p.2) := by
  rw [chain, if_neg (by simp [h])]
  rfl

/-- taking the top unit off and carrying it out adds its own calls -/
theorem popAndRun_recorded (b : Backend W H P) (h : H) {s : Session H P} {u : WorkUnit} {rest : List WorkUnit}
    (hs : s.stack = u :: rest) (calls : List (Request H P)) (w : W) :
    popAndRun b.recorded h (s, calls, w) =
      let alone := u.run (b.recorded.channel h) ([], Reporting.emit (popped u rest.length) w)
      (alone.1, { s with stack := rest }, calls ++ alone.2.1, alone.2.2) := by
  have happ := WorkUnit.run_appends (Request.statement (P := P) h) (b.channel h) u calls
    (Reporting.emit (popped u rest.length) w)
  have hpop : popAndRun b.recorded h (s, calls, w) =
      Task.lift (u.run (b.recorded.channel h))
        ({ s with stack := rest }, calls, Reporting.emit (popped u rest.length) w) := by
    rw [popAndRun, hs]
    rfl
  rw [hpop]
  exact congrArg (fun r => (r.1, { s with stack := rest }, r.2)) happ

/-- with a unit and a handle, running is opening, popping and closing -/
theorem run_of_pending (b : Backend W H P) {s : Session H P} {h : H} (hs : s.stack ≠ []) (hh : s.handle = some h)
    (p : List (Request H P) × W) :
    run b.recorded (s, p) = whileOpen b.recorded h (popAndRun b.recorded h) (s, p) := by
  rw [run]
  cases hstack : s.stack with
  | nil => exact absurd hstack hs
  | cons u rest => simp only [withHandle, hh]

/-! ## The laws hold -/

/-- whatever the rest of the session and the world are, the laws follow from what the units are -/
theorem laws_of_units (b : Backend W H P) {s : Session H P} {hist : Histories}
    (hu : s.stack = hist.map WorkUnit.ofSteps) (calls : List (Request H P)) (w : W) :
    StackLaws b s calls w hist where
  units := hu
  verb := fun step hv => chain_verb hv s calls w
  modifier := by
    rintro step steps rest hv rfl
    rw [chain_modifier hv, onTop, hu, List.map_cons, WorkUnit.ofSteps_concat]
  modifier_empty := by
    rintro step hv rfl
    rw [chain_modifier hv, onTop, hu, List.map_nil]
  run_empty := by
    rintro rfl
    exact run_of_empty b.recorded s _ hu
  run_unbound := fun hne hh => run_of_unbound b.recorded s _ (by simpa [hu] using hne) hh
  run_refused := by
    intro h e w' hne hh ho hopen
    rw [run_of_pending b (by simpa [hu] using hne) hh, whileOpen_recorded_refused b ho hopen]
  run_open := by
    rintro h steps rest rfl hh ho
    rw [List.map_cons] at hu
    rw [run_of_pending b (by simp [hu]) hh, whileOpen_recorded_open b ho, popAndRun_recorded b h hu,
      List.length_map]
  run_closed := by
    rintro h steps rest w' rfl hh ho hopen
    rw [List.map_cons] at hu
    rw [run_of_pending b (by simp [hu]) hh, whileOpen_recorded_started b ho hopen, popAndRun_recorded b h hu,
      List.length_map]
    simp

/-- one move keeps the ghost true -/
theorem advance_stack (b : Backend W H P) {p : Scene W H P} {hist : Histories}
    (hu : p.1.stack = hist.map WorkUnit.ofSteps) (m : Move) :
    (advance b p m).1.stack = (follow b p hist m).map WorkUnit.ofSteps := by
  obtain ⟨s, calls, w⟩ := p
  have laws := laws_of_units b hu calls w
  cases m with
  | chain step =>
    cases hv : step.isVerb with
    | true => simpa [advance, follow, hv, laws.verb step hv] using hu
    | false =>
      cases hist with
      | nil => simpa [advance, follow, hv, laws.modifier_empty step hv rfl] using hu
      | cons steps rest => simp [advance, follow, hv, laws.modifier step steps rest hv rfl]
  | run =>
    cases hist with
    | nil => simpa [advance, follow, laws.run_empty rfl] using hu
    | cons steps rest =>
      cases hh : s.handle with
      | none => simpa [advance, follow, reachesTop, hh, laws.run_unbound (by simp) hh] using hu
      | some h =>
        cases ho : b.isOpen h w with
        | true => simp [advance, follow, reachesTop, hh, ho, laws.run_open h steps rest rfl hh ho]
        | false =>
          rcases hopen : b.openHandle h w with ⟨e | _, w'⟩
          · simpa [advance, follow, reachesTop, hh, ho, hopen, Except.toBool,
              laws.run_refused h e w' (by simp) hh ho hopen] using hu
          · simp [advance, follow, reachesTop, hh, ho, hopen, Except.toBool,
              laws.run_closed h steps rest w' rfl hh ho hopen]

/-- **The ghost is the stack.** A unit that waits is what its own history makes of a new one. -/
theorem replay_stack (b : Backend W H P) (start : Scene W H P × Histories)
    (hu : start.1.1.stack = start.2.map WorkUnit.ofSteps) (moves : List Move) :
    (replay b start moves).1.1.stack = (replay b start moves).2.map WorkUnit.ofSteps := by
  induction moves generalizing start with
  | nil => exact hu
  | cons m moves ih => exact ih _ (advance_stack b hu m)

/-- **A session is a stack machine.** After any verbs, steps and runs, on any backend, from any units that wait
and with or without a handle, the next call does what the laws of the stack say. -/
theorem replay_laws (b : Backend W H P) (start : Session H P) (waiting : Histories) (w : W) (moves : List Move) :
    let now := replay b (({ start with stack := waiting.map WorkUnit.ofSteps }, [], w), waiting) moves
    StackLaws b now.1.1 now.1.2.1 now.1.2.2 now.2 :=
  laws_of_units b (replay_stack b _ rfl moves) _ _

end FluentSql.Session
