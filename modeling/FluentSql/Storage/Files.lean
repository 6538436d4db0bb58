import FluentSql.Error
import FluentSql.Text.Path
/-!
A tree of directories and files, as a list of paths with what is there.

A file holds either a text or a database, which is kept elsewhere under its number; a text that was written over a
database remembers the number. The view of the tree is
`find?`; the root is always a directory.

The text of a path can be taken in two ways. By its text alone two points undo the name before them
(`Path.ofText`); walked through the tree they lead from a directory, which must be there, to the one above it
(`Files.walk`).
-/

namespace FluentSql.Storage

/-! ## Paths -/

/-- the names from the root down -/
abbrev Path := List String

namespace Path

/-- the names in the text of a path; those that stay in the same directory are left out -/
def names (text : String) : List String :=
  ((Text.Path.parts text.toList).filter fun n => !Text.Path.isIdle n).map String.ofList

/-- whether the text of a path ends in a name that only a directory can have -/
def namesDirectory (text : String) : Bool :=
  (Text.Path.parts text.toList).getLast?.any fun n => Text.Path.isIdle n || n == ['.', '.']

/-- the most bytes of a name -/
def longestName : Nat := 255

def isTooLong (n : String) : Bool := longestName < n.utf8ByteSize

/-- goes the way that the names say, two points leading one up -/
def follow (names : List String) : Path :=
  names.foldl (fun at_ n => if n == ".." then at_.dropLast else at_ ++ [n]) []

def ofText (text : String) : Path := follow (names text)

/-- the path with an ending added to its last name -/
def beside (p : Path) (ending : String) : Path := p.dropLast ++ [p.getLast?.getD "" ++ ending]

end Path

/-! ## Trees -/

inductive Node where
  | directory
  /-- a text, perhaps in the place of a database -/
  | text (contents : String) (former : Option Nat)
  /-- a database by its number -/
  | database (number : Nat)
deriving DecidableEq, Repr, Inhabited

namespace Node

def isFile : Node → Bool
  | directory => false
  | _ => true

/-- the number of the database that a file holds or held -/
def number? : Node → Option Nat
  | directory => none
  | text _ former => former
  | database n => some n

end Node

structure Files where
  entries : List (Path × Node)
deriving Inhabited

namespace Files

/-- a tree that has only its root -/
def empty : Files := ⟨[]⟩

def lookup (p : Path) : List (Path × Node) → Option Node
  | [] => none
  | e :: rest => if e.1 = p then some e.2 else lookup p rest

/-- what is at a path -/
def find? (fs : Files) (p : Path) : Option Node := if p = [] then some .directory else lookup p fs.entries

def isDirectory (fs : Files) (p : Path) : Bool := fs.find? p == some .directory

def isFile (fs : Files) (p : Path) : Bool := (fs.find? p).any Node.isFile

/-- puts something at a path, in the place of what was there -/
def put (fs : Files) (p : Path) (n : Node) : Files :=
  ⟨fs.entries.filter (fun e => e.1 != p) ++ [(p, n)]⟩

def erase (fs : Files) (p : Path) : Files := ⟨fs.entries.filter fun e => e.1 != p⟩

/-- the names inside a directory whose nodes satisfy a test, in ascending order -/
def namesIn (fs : Files) (dir : Path) (test : Node → Bool) : List String :=
  let inside := fs.entries.filterMap fun e =>
    if e.1.dropLast = dir ∧ test e.2 then e.1.getLast? else none
  inside.mergeSort fun a b => decide (a ≤ b)

/-! ## Walks -/

def nothingThere : IoFault := .system 2 "No such file or directory"

def alreadyThere : IoFault := .system 17 "File exists"

def noDirectory : IoFault := .system 20 "Not a directory"

def isADirectory : IoFault := .system 21 "Is a directory"

def nameTooLong : IoFault := .system 36 "File name too long"

/-- walks along names; all but the last must lead to directories -/
def walk (fs : Files) (here : Path) : List String → Except IoFault Path
  | [] => .ok here
  | n :: rest =>
    match fs.find? here with
    | none => .error nothingThere
    | some .directory =>
      if n == ".." then walk fs here.dropLast rest
      else if Path.isTooLong n then .error nameTooLong
      else walk fs (here ++ [n]) rest
    | some _ => .error noDirectory

/-- whether a walk along names ends at a directory -/
def leadsToDirectory (fs : Files) (names : List String) : Bool :=
  match fs.walk [] names with
  | .ok p => fs.isDirectory p
  | .error _ => false

/-- the file that the text of a path leads to, if it leads to one -/
def file? (fs : Files) (text : String) : Option Path :=
  match fs.walk [] (Path.names text) with
  | .ok p => if fs.isFile p && !Path.namesDirectory text then some p else none
  | .error _ => none

/-- makes the directory that names lead to in one that is there already -/
def makeOne (fs : Files) (names : List String) : Except IoFault Files := do
  let above ← fs.walk [] names.dropLast
  let p ← fs.walk above (names.drop (names.length - 1))
  if (fs.find? p).isSome then throw alreadyThere
  return fs.put p .directory

/-- makes the directory that names lead to, given them from the last one on, and all above it as far as needed;
answers what was made even on a failure -/
def makeAll (fs : Files) : List String → Except IoFault Unit × Files
  | [] => (.ok (), fs)
  | n :: above =>
    let names := (n :: above).reverse
    match fs.makeOne names with
    | .ok made => (.ok (), made)
    | .error e =>
      if e == nothingThere then
        match fs.makeAll above with
        | (.error e, made) => (.error e, made)
        | (.ok (), made) =>
          match made.makeOne names with
          | .ok all => (.ok (), all)
          | .error e => (if made.leadsToDirectory names then .ok () else .error e, made)
      else (if fs.leadsToDirectory names then .ok () else .error e, fs)

/-- makes a directory and all above it -/
def makeDirectory (fs : Files) (p : Path) : Except IoFault Files :=
  match fs.makeAll p.reverse with
  | (.ok (), made) => .ok made
  | (.error e, _) => .error e

/-- writes a text file over what was in it, making the directory it is in -/
def writeText (fs : Files) (p : Path) (contents : String) : Except IoFault Files := do
  let made ← fs.makeDirectory p.dropLast
  if made.isDirectory p then throw isADirectory
  return made.put p (.text contents ((made.find? p).bind Node.number?))

end Files

end FluentSql.Storage
