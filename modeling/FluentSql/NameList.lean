import FluentSql.Text.Blank
import FluentSql.Text.Pieces
/-!
Lists of names written with commas: the columns of a read and the tables it reads from.

Splitting and joining both trim every name and leave out blank ones.
-/

namespace FluentSql.NameList

/-- the names in a text -/
def split (s : String) : List String :=
  ((Text.pieces ',' s.toList).map Text.trimChars).filter (fun p => !p.isEmpty) |>.map String.ofList

/-- one text for several names -/
def join (names : List String) : String :=
  ", ".intercalate ((names.map Text.trim).filter fun n => !n.isEmpty)

end FluentSql.NameList
