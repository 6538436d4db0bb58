import FluentSql.Text.Pieces
/-!
Paths as texts. A part of a path that is empty or a single point leads nowhere, except a single point at the very
beginning; the rest of a text is kept as it is written.
-/

namespace FluentSql.Text.Path

/-- the parts of a text between slashes -/
def parts (text : List Char) : List (List Char) := pieces '/' text

/-- a part that stays in the same directory -/
def isIdle (part : List Char) : Bool := part == [] || part == ['.']

/-- a path that starts at the root -/
def isAbsolute (path : String) : Bool := path.toList.head? == some '/'

/-- a path that starts with a point for the directory it is taken from -/
def startsHere (path : String) : Bool := (parts path.toList).head? == some ['.']

/-- the directory that a path names its last part in; the root and the empty path have none -/
def parent? (path : String) : Option String :=
  let (start, rest) := path.toList.splitAt (if isAbsolute path || startsHere path then 1 else 0)
  match (parts rest).reverse.dropWhile isIdle with
  | _ :: above => some (String.ofList (start ++ List.intercalate ['/'] (above.dropWhile isIdle).reverse))
  | [] => if startsHere path then some "" else none

/-- a path below a directory; an absolute path stays as it is -/
def join (dir path : String) : String :=
  if isAbsolute path then path
  else if dir.isEmpty || dir.toList.getLast? == some '/' then dir ++ path
  else dir ++ "/" ++ path

end FluentSql.Text.Path
