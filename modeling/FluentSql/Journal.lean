import FluentSql.Error
/-!
Events: what a session and its handles report while they work, and the report of each statement.

A statement report carries the kind of the statement, read off the logged text, the database, the number of
parameters, and the text cut to a number of bytes.
-/

namespace FluentSql

/-! ## Events -/

/-- how important an event is -/
inductive Level where
  | error
  | warn
  | info
  | debug
  | trace
deriving DecidableEq, Repr

namespace Level

def all : List Level := [error, warn, info, debug, trace]

def name : Level → String
  | error => "error"
  | warn => "warn"
  | info => "info"
  | debug => "debug"
  | trace => "trace"

/-- the level with a name, letter by letter -/
def ofName? (s : String) : Option Level := all.find? fun l => l.name == s

end Level

/-- something worth telling, with named details in order -/
structure Event where
  level : Level
  target : String
  fields : List (String × String)
deriving DecidableEq, Repr

namespace Event

/-- the target of everything but statements -/
def sessionTarget : String := "dbtool"

/-- the target of statements -/
def statementTarget : String := "dbtool.sql"

def debug (message : String) (fields : List (String × String)) : Event :=
  ⟨.debug, sessionTarget, fields ++ [("message", message)]⟩

def warn (message : String) (fields : List (String × String)) : Event :=
  ⟨.warn, sessionTarget, fields ++ [("message", message)]⟩

end Event

/-! ## Statement kinds -/

/-- the kind of a statement by its first word -/
inductive StatementKind where
  | select
  | insert
  | update
  | delete
  | other
deriving DecidableEq, Repr

namespace StatementKind

def name : StatementKind → String
  | select => "Select"
  | insert => "Insert"
  | update => "Update"
  | delete => "Delete"
  | other => "Other"

/-- the first word: what stands before the next white space or opening parenthesis -/
def firstWord (sql : String) : String :=
  String.ofList ((Text.trimStartChars sql.toList).takeWhile fun c => !(Text.isBlank c || c == '('))

def ofWord (word : String) : StatementKind :=
  if word = "SELECT" ∨ word = "WITH" then select
  else if word = "INSERT" ∨ word = "REPLACE" then insert
  else if word = "UPDATE" then update
  else if word = "DELETE" then delete
  else other

def ofSql (sql : String) : StatementKind := ofWord (Text.upperAscii (firstWord sql))

end StatementKind

/-! ## Statement reports -/

/-- whether and how statements are reported -/
structure StatementLog where
  enabled : Bool
  level : Level
  /-- longest reported text in bytes; none for no limit -/
  maxLength : Option Nat
deriving DecidableEq, Repr

namespace StatementLog

def standard : StatementLog := ⟨true, .debug, some 200⟩

def withLevel (c : StatementLog) (l : Level) : StatementLog := { c with level := l }

def withMaxLength (c : StatementLog) (n : Nat) : StatementLog := { c with maxLength := some n }

def unlimited (c : StatementLog) : StatementLog := { c with maxLength := none }

def disabled (c : StatementLog) : StatementLog := { c with enabled := false }

/-- the text as it is reported: whole characters within the limit, and dots if any were cut -/
def cut (c : StatementLog) (sql : String) : String :=
  match c.maxLength with
  | some limit =>
    if limit < sql.utf8ByteSize then String.ofList (Text.takeBytes limit sql.toList ++ ['.', '.', '.'])
    else sql
  | none => sql

/-- the report of a statement, if statements are reported -/
def report? (c : StatementLog) (database sql : String) (parameters : Nat) : Option Event :=
  if c.enabled then
    some {
      level := c.level
      target := Event.statementTarget
      fields := [
        ("statement", (StatementKind.ofSql (c.cut sql)).name),
        ("database", database),
        ("param_count", toString parameters),
        ("sql", c.cut sql)] }
  else none

end StatementLog

end FluentSql
