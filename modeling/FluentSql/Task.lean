import FluentSql.Error
/-!
Actions on a state that may fail. What an action did before it failed stays done: the state after a failure
is the state at the failure, and undoing is a step of its own.

`bind_eq` is the one law that unfolds a sequence, `bind_eq_ok_iff` takes a sequence that answered apart, and
`attempt_eq` is the law for looking at an outcome without failing, `usingUp_eq` that for an action that uses up what it
works on. What happens while something is open has a
law for each beginning: it was open, it does not open, it opens (`whileOpen_of_open`, `whileOpen_of_refused`,
`whileOpen_of_started`).
-/

namespace FluentSql

/-- an action on a state `W` that answers or fails -/
def Task (W α : Type) : Type := W → Except DbError α × W

namespace Task

variable {W V α β : Type}

protected def pure (a : α) : Task W α := fun w => (.ok a, w)

/-- stops with an error -/
def fail (e : DbError) : Task W α := fun w => (.error e, w)

protected def bind (t : Task W α) (next : α → Task W β) : Task W β := fun w =>
  match t w with
  | (.ok a, w') => next a w'
  | (.error e, w') => (.error e, w')

instance : Monad (Task W) where
  pure := Task.pure
  bind := Task.bind

/-- runs an action and answers its outcome instead of failing -/
def attempt (t : Task W α) : Task W (Except DbError α) := fun w => (.ok (t w).1, (t w).2)

/-- answers an outcome that is already known -/
def ofExcept : Except DbError α → Task W α
  | .ok a => Task.pure a
  | .error e => fail e

/-- looks at the state -/
def read (f : W → α) : Task W α := fun w => (.ok (f w), w)

/-- changes the state -/
def change (f : W → W) : Task W Unit := fun w => (.ok (), f w)

/-- an action on a part of a state -/
def within (get : V → W) (put : W → V → V) (t : Task W α) : Task V α := fun v =>
  ((t (get v)).1, put (t (get v)).2 v)

/-- an action on the second part of a state -/
def lift (t : Task W α) : Task (V × W) α := within Prod.snd (fun w p => (p.1, w)) t

/-- an action that uses up the first part of a state: `left` is what remains of it, whatever comes of the action -/
def usingUp (action : V → Task W α) (left : V → V) : Task (V × W) α := do
  let outcome ← attempt fun p => lift (action p.1) p
  change fun p => (left p.1, p.2)
  ofExcept outcome

/-- runs an action with something open, and closes it afterwards, also after a failure, if it was closed
before; a failing start is the end of it -/
def whileOpen (isOpen : W → Bool) (start : Task W Unit) (stop : W → W) (action : Task W α) : Task W α := do
  if ← read isOpen then action
  else
    start
    let outcome ← attempt action
    change stop
    ofExcept outcome

theorem bind_eq (t : Task W α) (next : α → Task W β) (w : W) :
    (t >>= next) w = match t w with
      | (.ok a, w') => next a w'
      | (.error e, w') => (.error e, w') := rfl

/-- a sequence answers exactly when its first action answers and what follows answers after it -/
theorem bind_eq_ok_iff {t : Task W α} {next : α → Task W β} {w w' : W} {b : β} :
    (t >>= next) w = (.ok b, w') ↔ ∃ a v, t w = (.ok a, v) ∧ next a v = (.ok b, w') := by
  rw [bind_eq]
  rcases h : t w with ⟨_ | a, v⟩
  · simp
  · exact ⟨fun hn => ⟨a, v, rfl, hn⟩, fun ⟨_, _, he, hn⟩ => by cases he; exact hn⟩

theorem pure_eq (a : α) (w : W) : (pure a : Task W α) w = (.ok a, w) := rfl

theorem attempt_eq (t : Task W α) (w : W) : attempt t w = (.ok (t w).1, (t w).2) := rfl

theorem ofExcept_eq (x : Except DbError α) (w : W) : ofExcept x w = (x, w) := by
  cases x <;> rfl

/-- converting the answer of an action -/
theorem bind_ofExcept_eq (t : Task W α) (f : α → Except DbError β) (w : W) :
    (t >>= fun a => ofExcept (f a)) w = ((t w).1.bind f, (t w).2) := by
  rw [bind_eq]
  rcases t w with ⟨e | a, w'⟩
  · rfl
  · exact ofExcept_eq (f a) w'

theorem bind_pure_eq (t : Task W α) (f : α → β) (w : W) :
    (t >>= fun a => pure (f a)) w = ((t w).1.map f, (t w).2) := by
  rw [bind_eq]
  rcases t w with ⟨e | a, w'⟩ <;> rfl

theorem usingUp_eq (action : V → Task W α) (left : V → V) (v : V) (w : W) :
    usingUp action left (v, w) = ((action v w).1, left v, (action v w).2) :=
  ofExcept_eq _ _

section

variable {isOpen : W → Bool} {start : Task W Unit} {stop : W → W} {action : Task W α} {w w' : W}

theorem whileOpen_of_open (h : isOpen w = true) : whileOpen isOpen start stop action w = action w := by
  simp only [whileOpen, bind_eq, read, h, if_true]

theorem whileOpen_of_refused {e : DbError} (h : isOpen w = false) (hs : start w = (.error e, w')) :
    whileOpen isOpen start stop action w = (.error e, w') := by
  simp only [whileOpen, bind_eq, read, h, Bool.false_eq_true, if_false, hs]

theorem whileOpen_of_started (h : isOpen w = false) (hs : start w = (.ok (), w')) :
    whileOpen isOpen start stop action w = ((action w').1, stop (action w').2) := by
  simp only [whileOpen, bind_eq, read, h, Bool.false_eq_true, if_false, hs, attempt_eq, change, ofExcept_eq]

end

end Task

end FluentSql
