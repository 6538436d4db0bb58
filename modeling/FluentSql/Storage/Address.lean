import FluentSql.Error
import FluentSql.Text.Pieces
import FluentSql.Text.Utf8
/-!
What the text says that a database is opened with. It is the path of a file, unless it is empty or a word that stands
for memory, or begins with the scheme of an address: then it has an authority, a path in which bytes may be written as
two digits, and options.
-/

namespace FluentSql.Storage

/-- how a file may be used -/
inductive Mode where
  | readOnly
  | readWrite
  /-- the file is created if there is none -/
  | create
  /-- there is no file -/
  | memory
deriving DecidableEq, Repr

/-- what a database is opened with -/
structure Address where
  path : String
  mode : Mode
  /-- together with others who say so -/
  isShared : Bool
deriving DecidableEq, Repr

namespace Address

def scheme : String := "file:"

/-- the path that stands for memory -/
def memoryPath : String := ":memory:"

/-- bytes of a text in which a byte may be written as two digits behind a percent sign -/
def decode : List Char → List UInt8
  | [] => []
  | '%' :: a :: b :: rest =>
    match Text.hexValue a, Text.hexValue b with
    | some x, some y => UInt8.ofNat (16 * x + y) :: decode rest
    | _, _ => 37 :: decode (a :: b :: rest)
  | c :: rest => String.utf8EncodeChar c ++ decode rest

/-- the text of a part, which ends where a byte is zero -/
def part (s : List Char) : String :=
  String.ofList (Text.fromBytesLenient ((decode s).takeWhile fun b => b != 0))

/-- what stands before a character and what behind it -/
def cut (c : Char) (s : List Char) : List Char × List Char :=
  (s.takeWhile fun x => x != c, (s.dropWhile fun x => x != c).drop 1)

/-- the ways to use the file system that the engine knows -/
def knownSystems : List String := ["unix", "unix-dotfile", "unix-excl", "unix-none"]

def withOption (a : Address) (option : List Char) : Except EngineFault Address :=
  let (key, value) := cut '=' option
  match part key, part value with
  | "mode", "ro" => .ok { a with mode := .readOnly }
  | "mode", "rw" => .ok { a with mode := .readWrite }
  | "mode", "rwc" => .ok { a with mode := .create }
  | "mode", "memory" => .ok { a with mode := .memory }
  | "mode", other => .error (.stated ("no such access mode: " ++ other))
  | "cache", "shared" => .ok { a with isShared := true }
  | "cache", "private" => .ok { a with isShared := false }
  | "cache", other => .error (.stated ("no such cache mode: " ++ other))
  | "vfs", system =>
    if knownSystems.contains system then .ok a else .error (.stated ("no such vfs: " ++ system))
  | _, _ => .ok a

/-- what stands behind the authority, which may only be this computer -/
def behindAuthority : List Char → Except EngineFault (List Char)
  | '/' :: '/' :: rest =>
    let (authority, _) := cut '/' rest
    if authority == [] || authority == "localhost".toList then .ok (rest.drop authority.length)
    else .error (.stated ("invalid uri authority: " ++ String.ofList authority))
  | rest => .ok rest

/-- what a text behind the scheme says -/
def ofScheme (text : List Char) : Except EngineFault Address := do
  let rest ← behindAuthority text
  let (path, options) := cut '?' (cut '#' rest).1
  (Text.pieces '&' options).foldlM withOption ⟨part path, .create, false⟩

def ofText (text : String) : Except EngineFault Address :=
  if scheme.toList.isPrefixOf text.toList then ofScheme (text.toList.drop scheme.length)
  else .ok ⟨text, .create, false⟩

/-- there is no file, or none that stays -/
def isPassing (a : Address) : Bool := a.path.isEmpty || a.mode == .memory || a.path == memoryPath

end Address

end FluentSql.Storage
