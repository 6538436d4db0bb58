import FluentSql.Engine.Token
import FluentSql.Proofs.StatementReports
/-!
The kind of a statement, beside the first keyword of its text.

A text falls into the blanks in front, a keyword of letters, digits and underscores, and a rest (`Parts`), and the keyword
alone should tell the kind, in letters of any case (`ofKeyword`). The reader of kinds takes more for the first word: all
that stands in front of the next blank or parenthesis (`Parts.word_eq`). So the keyword tells the kind if one of these or
the end of the text comes behind it, and a keyword that anything else follows is not known (`Parts.kind_eq`).

Main result: `kind_by_keyword`. A star right behind the keyword is enough to lose it (`select_star_is_other`).
-/

namespace FluentSql.StatementKind

/-! ## Keywords -/

/-- the keywords that tell a kind -/
def keywords : List (String × StatementKind) :=
  [("select", select), ("with", select), ("insert", insert), ("replace", insert), ("update", update), ("delete", delete)]

/-- the kind that a keyword tells, in letters of any case -/
def ofKeyword (keyword : String) : StatementKind :=
  ((keywords.find? fun k => Text.sameLetters k.1 keyword).map Prod.snd).getD other

theorem ofWord_upperAscii (w : String) : ofWord (Text.upperAscii w) = ofKeyword w := by
  have hsame (known upper : String) (h : Text.upperAscii known = upper) :
      Text.upperAscii w = upper ↔ Text.sameLetters known w = true := by
    rw [← h, ← Text.upperAscii_eq_iff, eq_comm]
  simp only [ofWord, ofKeyword, keywords, List.find?_cons, List.find?_nil, hsame "select" "SELECT" (by decide),
    hsame "with" "WITH" (by decide), hsame "insert" "INSERT" (by decide), hsame "replace" "REPLACE" (by decide),
    hsame "update" "UPDATE" (by decide), hsame "delete" "DELETE" (by decide)]
  grind

/-- what keywords are made of -/
def inKeyword (c : Char) : Bool := c.isAlphanum || c == '_'

theorem toNat_of_inKeyword {c : Char} (hc : inKeyword c = true) : 48 ≤ c.toNat ∧ c.toNat ≤ 122 := by
  simp only [inKeyword, Char.isAlphanum, Bool.or_eq_true, beq_iff_eq] at hc
  obtain (hletter | hdigit) | rfl := hc
  · have hrange := (Text.isAlpha_iff c).1 hletter
    omega
  · have hrange : 48 ≤ c.toNat ∧ c.toNat ≤ 57 := Char.isDigit_iff_toNat.1 hdigit
    omega
  · decide

theorem inWord_of_inKeyword {c : Char} (hc : inKeyword c = true) : inWord c = true := by
  obtain ⟨hge, hle⟩ := toNat_of_inKeyword hc
  have hblank : Text.isBlank c = false := Text.not_isBlank_of_printed (by omega) (by omega)
  have hparen : c ≠ '(' := by
    rintro rfl
    exact absurd hge (by decide)
  simp [inWord, hblank, hparen]

theorem not_isAlpha_of_not_inKeyword {c : Char} (hc : inKeyword c = false) : c.isAlpha = false := by
  simp only [inKeyword, Char.isAlphanum, Bool.or_eq_false_iff] at hc
  exact hc.1.1

/-! ## The parts of a text -/

/-- a text as blanks, a keyword and a rest, the blanks and the keyword as long as they can be -/
structure Parts (sql blanks keyword rest : String) : Prop where
  text : sql = blanks ++ keyword ++ rest
  blank : Text.blank blanks = true
  begins : (keyword ++ rest).toList.head?.any Text.isBlank = false
  letters : keyword.toList.all inKeyword = true
  ends : rest.toList.head?.any inKeyword = false

theorem head?_dropWhile_any (p : Char → Bool) (s : List Char) : (s.dropWhile p).head?.any p = false := by
  have hend := List.head?_dropWhile_not p s
  cases hhead : (s.dropWhile p).head? with
  | none => rfl
  | some c =>
    rw [hhead] at hend
    exact hend

theorem exists_parts (sql : String) : ∃ blanks keyword rest, Parts sql blanks keyword rest := by
  let behind := sql.toList.dropWhile Text.isBlank
  refine ⟨.ofList (sql.toList.takeWhile Text.isBlank), .ofList (behind.takeWhile inKeyword),
    .ofList (behind.dropWhile inKeyword), ?_, ?_, ?_, ?_, ?_⟩
  · rw [String.append_assoc, ← String.ofList_append, List.takeWhile_append_dropWhile, ← String.ofList_append,
      List.takeWhile_append_dropWhile, String.ofList_toList]
  · rw [Text.blank, String.toList_ofList]
    exact List.all_takeWhile
  · rw [← String.ofList_append, List.takeWhile_append_dropWhile, String.toList_ofList]
    exact head?_dropWhile_any Text.isBlank sql.toList
  · rw [String.toList_ofList]
    exact List.all_takeWhile
  · rw [String.toList_ofList]
    exact head?_dropWhile_any inKeyword behind

/-- whether the rest of a text ends the keyword in front of it for the reader of kinds -/
def endsKeyword (rest : String) : Bool := rest.toList.head?.all fun c => Text.isBlank c || c == '('

section

variable {sql blanks keyword rest : String}

/-- the first word is the keyword with all that goes on behind it up to a blank or a parenthesis -/
theorem Parts.word_eq (h : Parts sql blanks keyword rest) :
    word sql.toList = keyword.toList ++ rest.toList.takeWhile inWord := by
  have htrim : Text.trimStartChars sql.toList = (keyword ++ rest).toList := by
    rw [h.text, String.append_assoc, String.toList_append, Text.trimStartChars,
      List.dropWhile_append_of_pos (List.all_eq_true.1 h.blank)]
    have hbegins := h.begins
    cases hbehind : (keyword ++ rest).toList with
    | nil => rfl
    | cons c r =>
      rw [hbehind] at hbegins
      exact List.dropWhile_cons_of_neg (Bool.eq_false_iff.1 hbegins)
  have hall : ∀ c ∈ keyword.toList, inWord c = true := fun c hc => inWord_of_inKeyword (List.all_eq_true.1 h.letters c hc)
  rw [word, htrim, String.toList_append, List.takeWhile_append_of_pos hall]

/-- a keyword tells the kind unless something else than a blank or a parenthesis comes right behind it -/
theorem Parts.kind_eq (h : Parts sql blanks keyword rest) :
    ofSql sql = if endsKeyword rest then ofKeyword keyword else other := by
  rw [ofSql_eq, h.word_eq]
  cases hrest : rest.toList with
  | nil => simp [endsKeyword, hrest, ofWord_upperAscii]
  | cons c r =>
    have hends : endsKeyword rest = !inWord c := by simp [endsKeyword, hrest, inWord]
    rw [hends, List.takeWhile_cons]
    cases hword : inWord c with
    | false => simp [ofWord_upperAscii]
    | true =>
      have hletter : c.isAlpha = false := not_isAlpha_of_not_inKeyword (by simpa [hrest] using h.ends)
      exact ofWord_of_not_letter (by simp) hletter

end

/-- **The kind by the first keyword.** Every text falls into blanks, a keyword and a rest. The kind is that of the keyword,
in letters of any case, if the rest is nothing or starts with a blank or a parenthesis, and else `Other`. So it is wrong
exactly for the texts with a keyword of a known kind that something else follows. -/
theorem kind_by_keyword (sql : String) :
    (∃ blanks keyword rest, Parts sql blanks keyword rest) ∧
    ∀ blanks keyword rest, Parts sql blanks keyword rest →
      ofSql sql = (if endsKeyword rest then ofKeyword keyword else other) ∧
      (ofSql sql = ofKeyword keyword ↔ endsKeyword rest = true ∨ ofKeyword keyword = other) := by
  refine ⟨exists_parts sql, fun blanks keyword rest h => ⟨h.kind_eq, ?_⟩⟩
  rw [h.kind_eq]
  cases endsKeyword rest with
  | true => simp
  | false => simp [eq_comm]

/-- a keyword in letters of both cases, with a parenthesis right behind it -/
theorem with_parenthesis_is_select :
    Parts "\n With(n) SELECT 1" "\n " "With" "(n) SELECT 1" ∧ ofSql "\n With(n) SELECT 1" = select := by
  have hparts : Parts "\n With(n) SELECT 1" "\n " "With" "(n) SELECT 1" :=
    ⟨by decide, by decide, by decide, by decide, by decide⟩
  obtain ⟨-, hkind⟩ := kind_by_keyword "\n With(n) SELECT 1"
  exact ⟨hparts, (hkind _ _ _ hparts).1.trans (by decide)⟩

/-- **A star right behind the keyword hides it**, where a blank in between does not, and where it ends the keyword as a
token. -/
theorem select_star_is_other :
    Parts "SELECT*FROM t" "" "SELECT" "*FROM t" ∧ ofKeyword "SELECT" = select ∧ ofSql "SELECT*FROM t" = other ∧
    Engine.Token.next "SELECT*FROM t".toList = (.word "SELECT", "*FROM t".toList) ∧
    ofSql "SELECT *FROM t" = select := by
  have hparts : Parts "SELECT*FROM t" "" "SELECT" "*FROM t" := ⟨by decide, by decide, by decide, by decide, by decide⟩
  exact ⟨hparts, by decide, by decide, rfl, by decide⟩

end FluentSql.StatementKind
