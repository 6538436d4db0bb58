import FluentSql.Engine.Connection
import FluentSql.Storage.Address
import FluentSql.Storage.Files
/-!
Everything the embedded engine keeps: files, databases in memory, and the databases themselves under their
numbers.

A database in a file has a journal beside it while it is being changed (`journals`). What happens to its file or
beside it meanwhile is noticed when a connection begins to read or a transaction ends (`tidy`, `settle`); neither
touches a database of another file.

A database in memory that has a name lives as long as a connection holds it. Numbers of databases and of
connections are given once (`next`), so two connections that lead to different databases never meet.
-/

namespace FluentSql

open Engine Storage

/-- a database in memory that connections share by name -/
structure SharedEntry where
  name : String
  vault : Nat
  /-- how many connections hold it -/
  holders : Nat

structure Storage where
  files : Storage.Files
  shared : List SharedEntry
  vaults : List (Nat × Vault)
  /-- the next number that nobody has -/
  next : Nat

namespace Storage

def empty : Storage := ⟨Files.empty, [], [], 1⟩

/-! ## Databases by number -/

def findVault (number : Nat) : List (Nat × Vault) → Option Vault
  | [] => none
  | e :: rest => if e.1 = number then some e.2 else findVault number rest

def vault? (s : Storage) (number : Nat) : Option Vault := findVault number s.vaults

def setVault (s : Storage) (number : Nat) (v : Vault) : Storage :=
  { s with vaults := s.vaults.map fun e => if e.1 = number then (number, v) else e }

/-- a new, empty database -/
def newVault (s : Storage) : Nat × Storage :=
  (s.next, { s with vaults := s.vaults ++ [(s.next, Vault.empty)], next := s.next + 1 })

def dropVault (s : Storage) (number : Nat) : Storage :=
  { s with vaults := s.vaults.filter fun e => e.1 != number }

/-- a connection with a number of its own -/
def connect (s : Storage) (target : Target) (sharing : Sharing) : Connection × Storage :=
  (Connection.opened s.next target sharing, { s with next := s.next + 1 })

/-! ## Files -/

/-- the most bytes of the path of a database, which leaves room for the ending of its journal -/
def longestPath : Nat := 504

/-- how many bytes the text of a path has from the root on -/
def pathSize (p : Path) : Nat := p.foldr (fun name n => name.utf8ByteSize + 1 + n) 0

/-- a path at which no file can be opened -/
def isBadPath (path : String) : Bool :=
  (Path.ofText path).any Path.isTooLong || longestPath < pathSize (Path.ofText path)

/-- connects to the database in a file, which may be created if there is none; a text is looked at only when the
connection is used. Every connection to a file has a cache of its own. -/
def connectFile (s : Storage) (a : Address) : Option (Connection × Storage) :=
  let p := Path.ofText a.path
  if isBadPath a.path then none
  else match s.files.find? p with
    | some .directory => none
    | some (.database n) => some (s.connect (.file n p) .file)
    | some (.text _ (some n)) => some (s.connect (.file n p) .file)
    | some (.text t none) => some (enter p (fun n => .text t (some n)) s)
    | none =>
      if a.mode == .create && s.files.isDirectory p.dropLast then some (enter p .database s) else none
where
  /-- a new database for a file -/
  enter (p : Path) (node : Nat → Node) (s : Storage) : Connection × Storage :=
    let (n, made) := s.newVault
    let entered : Storage := { made with files := made.files.put p (node n) }
    entered.connect (.file n p) .file

/-- the ending of the file that keeps what a transaction overwrites -/
def journalEnding : String := "-journal"

/-- the ending of a log of changes -/
def logEnding : String := "-wal"

/-- the journals of the databases that are being changed -/
def journals (s : Storage) : List Path :=
  s.files.entries.filterMap fun e =>
    if ((e.2.number?).bind s.vault?).any Vault.isChanging then some (Path.beside e.1 journalEnding) else none

/-- the names in a directory whose nodes satisfy a test, with those of the journals, in ascending order -/
def namesWhere (s : Storage) (dir : Path) (test : Node → Bool) : List String :=
  let hidden := (s.journals.filter fun p => p.dropLast == dir).filterMap List.getLast?
  ((s.files.namesIn dir test ++ hidden).eraseDups).mergeSort fun a b => decide (a ≤ b)

/-- the names of everything in a directory, in ascending order -/
def namesIn (s : Storage) (dir : Path) : List String := s.namesWhere dir fun _ => true

/-! ## The file system from outside -/

/-- makes a directory and all above it -/
def makeDirectories (dir : String) (s : Storage) : Except IoFault Unit × Storage :=
  if dir.toList.contains '\x00' then (.error (.stated "file name contained an unexpected NUL byte"), s)
  else
    let r := s.files.makeAll (Path.names dir).reverse
    (r.1, { s with files := r.2 })

/-- whether a path leads to a directory; the empty path leads nowhere -/
def isDirectory (path : String) (s : Storage) : Bool :=
  !path.isEmpty && s.files.leadsToDirectory (Path.names path)

def isFile (path : String) (s : Storage) : Bool := (s.files.file? path).isSome

/-- the names of the files in a directory -/
def filesIn (dir : String) (s : Storage) : Except IoFault (List String) := do
  let p ← s.files.walk [] (Path.names dir)
  if s.files.isDirectory p then return s.namesWhere p Node.isFile
  else throw Files.noDirectory

/-- removes a file; a database in it goes on for those who are connected to it -/
def removeFile (path : String) (s : Storage) : Except IoFault Unit × Storage :=
  match s.files.file? path with
  | some p => (.ok (), { s with files := s.files.erase p })
  | none => (.error (if isDirectory path s then Files.isADirectory else Files.nothingThere), s)

/-! ## Databases in memory -/

/-- a database of its own -/
def connectPrivate (s : Storage) : Connection × Storage :=
  let (n, made) := s.newVault
  made.connect (.memory n) .file

def findShared (name : String) (s : Storage) : Option SharedEntry := s.shared.find? fun e => e.name == name

def setHolders (s : Storage) (number holders : Nat) : Storage :=
  { s with shared := s.shared.map fun e => if e.vault = number then { e with holders := holders } else e }

/-- connects to a shared database, which is created if nobody holds it -/
def connectShared (s : Storage) (name : String) : Connection × Storage :=
  match s.findShared name with
  | some e => (s.setHolders e.vault (e.holders + 1)).connect (.memory e.vault) .cache
  | none =>
    let (n, made) := s.newVault
    let entered : Storage := { made with shared := made.shared ++ [⟨name, n, 1⟩] }
    entered.connect (.memory n) .cache

/-- one holder less; without holders the database is gone -/
def dropHolder (s : Storage) (number : Nat) : Storage :=
  match s.shared.find? fun e => e.vault == number with
  | none => s
  | some e =>
    if e.holders ≤ 1 then
      let left : Storage := { s with shared := s.shared.filter fun x => x.vault != number }
      left.dropVault number
    else s.setHolders number (e.holders - 1)

/-- connects to the database that a text says -/
def connectText (text : String) (s : Storage) : Except EngineFault Connection × Storage :=
  if text.toList.contains '\x00' then (.error (.cannotOpen text), s)
  else match Address.ofText text with
    | .error e => (.error e, s)
    | .ok a =>
      if a.isPassing then
        let r := if a.isShared && !a.path.isEmpty then s.connectShared a.path else s.connectPrivate
        (.ok r.1, r.2)
      else match s.connectFile a with
        | none => (.error (.cannotOpen text), s)
        | some (c, opened) => (.ok { c with readOnly := a.mode == .readOnly }, opened)

/-! ## Connections -/

/-- how far the file of a connection can still be used -/
def condition (s : Storage) (v : Vault) : Target → FileCondition
  | .file n p =>
    match s.files.find? p with
    | some (.database m) =>
      if m != n then .gone
      else if (Path.beside p journalEnding).getLast?.any Path.isTooLong then .sealed
      else if s.files.isDirectory (Path.beside p logEnding) then .foreign
      else if s.files.isDirectory (Path.beside p journalEnding) then if v.isBlank then .sealed else .unreadable
      else .sound
    | some (.text _ former) => if former = some n then .foreign else .gone
    | _ => .gone
  | .memory _ => .sound

/-- a text in the place of a journal is taken for what a broken connection left behind, unless it begins with
NUL; beside a database that holds nothing there is no use for it in any case -/
def isLeftBehind (v : Vault) (contents : String) : Bool :=
  !contents.isEmpty && (v.isBlank || contents.toList.head? != some '\x00')

/-- what stands at the beginning of the file of a database that is not empty -/
def header : String := "SQLite format 3"

/-- what is in a file, as far as it matters to a database that finds it beside its own file -/
def contents? (s : Storage) : Node → Option String
  | .directory => none
  | .text t _ => some t
  | .database n => some (if (s.vault? n).any Vault.isBlank then "" else header)

/-- erases a file whose contents satisfy a test -/
def eraseWhere (test : String → Bool) (p : Path) (s : Storage) : Storage :=
  if ((s.files.find? p).bind s.contents?).any test then { s with files := s.files.erase p } else s

/-- what happens at the file of a connection that begins to read: a file that was emptied is an empty database,
and what a broken connection left behind is thrown away -/
def tidy (s : Storage) (c : Connection) (v : Vault) : Storage × Vault :=
  match c.target with
  | .file n p =>
    if v.isActive c.id || v.writer.isSome then (s, v)
    else if s.files.find? p == some (.text "" (some n)) then
      ({ s with files := s.files.put p (.database n) }, { v with db := Database.empty })
    else if s.files.find? p != some (.database n) then (s, v)
    else
      let swept := eraseWhere (isLeftBehind v) (Path.beside p journalEnding) s
      (eraseWhere (fun t => v.isBlank && !t.isEmpty) (Path.beside p logEnding) swept, v)
  | _ => (s, v)

/-- what the end of a transaction leaves at the file of a connection: the database, if changes were committed, and
no file in the place of its journal -/
def settle (c : Connection) (before after : Vault) (s : Storage) : Storage :=
  match c.target with
  | .file n p =>
    let committed := before.commits != after.commits
    if committed || (before.isChanging && !after.isChanging) then
      let overwritten := (s.files.find? p).bind Node.number? == some n
      let restored := if committed && overwritten then s.files.put p (.database n) else s.files
      eraseWhere (fun _ => true) (Path.beside p journalEnding) { s with files := restored }
    else s
  | _ => s

/-- does something with a connection and the database it leads to -/
def access {α : Type} (f : Connection → Vault → Except EngineFault α × Connection × Vault)
    (c : Connection) (s : Storage) : Except EngineFault α × Connection × Storage :=
  match s.vault? c.target.number with
  | none => (.error (.cannotOpen ""), c, s)
  | some v =>
    let (tidied, found) := s.tidy c v
    let r := f { c with condition := tidied.condition found c.target } found
    (r.1, r.2.1, (settle c found r.2.2 tidied).setVault c.target.number r.2.2)

/-- ends a connection: changes that are not committed are forgotten, and a shared database loses a holder -/
def disconnect (c : Connection) (s : Storage) : Storage :=
  let n := c.target.number
  let left := match s.vault? n with
    | some v => (settle c v (c.rollback v).2 s).setVault n (c.rollback v).2
    | none => s
  if c.sharing = .cache then left.dropHolder n else left

/-! ## Lemmas -/

/-- erasing looks at files only -/
theorem eraseWhere_vaults (test : String → Bool) (p : Path) (s : Storage) :
    (eraseWhere test p s).vaults = s.vaults := by
  unfold eraseWhere
  split <;> rfl

/-- beginning to read looks at files only -/
theorem tidy_vaults (s : Storage) (c : Connection) (v : Vault) : (s.tidy c v).1.vaults = s.vaults := by
  unfold tidy
  split
  · split
    · rfl
    · split
      · rfl
      · split
        · rfl
        · simp only [eraseWhere_vaults]
  · rfl

/-- the end of a transaction leaves traces in files only -/
theorem settle_vaults (c : Connection) (before after : Vault) (s : Storage) :
    (settle c before after s).vaults = s.vaults := by
  unfold settle
  split
  · dsimp only
    split
    · rw [eraseWhere_vaults]
    · rfl
  · rfl

end Storage

end FluentSql
