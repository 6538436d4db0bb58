/-!
Texts taken apart at a character: the names in a list, the parts of a path, the options of an address.
-/

namespace FluentSql.Text

/-- the pieces between separators; there is always at least one -/
def pieces (sep : Char) : List Char → List (List Char)
  | [] => [[]]
  | c :: r =>
    if c = sep then [] :: pieces sep r
    else match pieces sep r with
      | [] => [[c]]
      | p :: ps => (c :: p) :: ps

end FluentSql.Text
