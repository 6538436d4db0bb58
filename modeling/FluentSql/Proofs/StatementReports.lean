import FluentSql.Journal
import Mathlib.Data.List.Basic
import Mathlib.Data.List.Infix
import Mathlib.Data.List.TakeWhile
/-!
The kind in the report of a statement, beside the kind of the statement itself.

The kind is read off the text as it is reported, after the cut. It rests on the opening of a statement alone: the blanks
in front, the first word and the character that ends the word (`StatementKind.opening`). If the opening is reported whole,
the first word is that of the statement (`word_of_opening`). If the cut falls before its end, the dots run into the word,
and a word with anything but letters in it is no keyword (`dot_mem_word`, `ofWord_of_not_letter`).

Main result: `reported_kind`, with the condition under which a report tells the kind. A limit that ends right behind the
keyword is already too short (`select_reported_as_other`).
-/

namespace FluentSql

/-! ## The opening of a statement -/

namespace StatementKind

/-- what belongs to a word -/
def inWord (c : Char) : Bool := !(Text.isBlank c || c == '(')

/-- the first word, as characters -/
def word (s : List Char) : List Char := (Text.trimStartChars s).takeWhile inWord

/-- the blanks in front of the first word, and the word -/
def lead (s : List Char) : List Char := s.takeWhile Text.isBlank ++ word s

/-- the blanks, the first word and the character that ends it, if there is one -/
def opening (s : List Char) : List Char := s.take ((lead s).length + 1)

theorem ofSql_eq (sql : String) : ofSql sql = ofWord (Text.upperAscii (String.ofList (word sql.toList))) := rfl

theorem opening_prefix (s : List Char) : opening s <+: s := List.take_prefix _ _

section

variable {c : Char} {r : List Char}

theorem word_of_blank (hc : Text.isBlank c = true) : word (c :: r) = word r := by
  simp [word, Text.trimStartChars, hc]

theorem lead_of_blank (hc : Text.isBlank c = true) : lead (c :: r) = c :: lead r := by
  simp [lead, word_of_blank hc, hc]

theorem word_of_solid (hc : Text.isBlank c = false) : word (c :: r) = (c :: r).takeWhile inWord := by
  simp [word, Text.trimStartChars, hc]

theorem lead_of_solid (hc : Text.isBlank c = false) : lead (c :: r) = (c :: r).takeWhile inWord := by
  simp [lead, word_of_solid hc, hc]

end

theorem lead_prefix (s : List Char) : lead s <+: s := by
  induction s with
  | nil => exact List.prefix_refl _
  | cons c r ih =>
    cases hc : Text.isBlank c with
    | true => rw [lead_of_blank hc, List.cons_prefix_cons]; exact ⟨rfl, ih⟩
    | false => rw [lead_of_solid hc]; exact List.takeWhile_prefix _

/-! ## The first word of a reported text -/

/-- a word ends where its end is seen -/
theorem takeWhile_of_end {s t : List Char} (hend : s.takeWhile inWord ≠ s)
    (ht : s.take ((s.takeWhile inWord).length + 1) <+: t) : t.takeWhile inWord = s.takeWhile inWord := by
  induction s generalizing t with
  | nil => exact absurd rfl hend
  | cons c r ih =>
    cases hc : inWord c with
    | true =>
      simp only [List.takeWhile_cons, hc, if_true, List.length_cons, List.take_succ_cons] at hend ht ⊢
      obtain ⟨u, rfl⟩ := ht
      have hrest := ih (t := r.take ((r.takeWhile inWord).length + 1) ++ u) (by simpa using hend)
        (List.prefix_append _ _)
      simp [hc, hrest]
    | false =>
      simp only [List.takeWhile_cons, hc, Bool.false_eq_true, if_false, List.length_nil, Nat.zero_add,
        List.take_succ_cons, List.take_zero] at ht ⊢
      obtain ⟨u, rfl⟩ := ht
      simp [hc]

/-- a text that begins with the whole opening of a statement begins with its first word -/
theorem word_of_opening {s t : List Char} (hend : lead s ≠ s) (ht : opening s <+: t) : word t = word s := by
  induction s generalizing t with
  | nil => exact absurd rfl hend
  | cons c r ih =>
    cases hc : Text.isBlank c with
    | true =>
      rw [opening, lead_of_blank hc, List.length_cons, List.take_succ_cons] at ht
      obtain ⟨u, rfl⟩ := ht
      rw [List.cons_append, word_of_blank hc, word_of_blank hc]
      exact ih (by simpa [lead_of_blank hc] using hend) (List.prefix_append _ _)
    | false =>
      rw [lead_of_solid hc] at hend
      rw [opening, lead_of_solid hc] at ht
      have hword := takeWhile_of_end hend ht
      obtain ⟨u, rfl⟩ := ht
      rw [List.take_succ_cons, List.cons_append] at hword ⊢
      rw [word_of_solid hc, word_of_solid hc, hword]

/-- dots right behind a part of the blanks and the first word run into the word -/
theorem dot_mem_word {s p : List Char} (hp : p <+: lead s) : '.' ∈ word (p ++ ['.', '.', '.']) := by
  induction s generalizing p with
  | nil =>
    rw [List.prefix_nil.1 hp]
    decide
  | cons c r ih =>
    cases p with
    | nil => decide
    | cons d p =>
      cases hc : Text.isBlank c with
      | true =>
        rw [lead_of_blank hc, List.cons_prefix_cons] at hp
        obtain ⟨rfl, hp⟩ := hp
        rw [List.cons_append, word_of_blank hc]
        exact ih hp
      | false =>
        rw [lead_of_solid hc] at hp
        have hall : ∀ x ∈ d :: p, inWord x = true := by
          intro x hx
          exact List.mem_takeWhile_imp (hp.subset hx)
        obtain ⟨u, hu⟩ := hp.trans (List.takeWhile_prefix _)
        obtain ⟨rfl, -⟩ := List.cons.inj hu
        rw [List.cons_append, word_of_solid hc, ← List.cons_append, List.takeWhile_append_of_pos hall]
        exact List.mem_append_right _ (by decide)

/-- a word with anything but letters in it is no keyword -/
theorem ofWord_of_not_letter {w : List Char} {c : Char} (hc : c ∈ w) (hletter : c.isAlpha = false) :
    ofWord (Text.upperAscii (String.ofList w)) = other := by
  have hsame : c.toUpper = c := by
    have hlower : ¬ (97 ≤ c.toNat ∧ c.toNat ≤ 122) := fun h =>
      Bool.eq_false_iff.1 hletter ((Text.isAlpha_iff c).2 (.inr h))
    rw [← Char.toNat_inj, Text.toNat_toUpper, if_neg hlower]
  have hupper : c ∈ (Text.upperAscii (String.ofList w)).toList := by
    rw [Text.upperAscii, String.toList_ofList, String.toList_ofList]
    exact List.mem_map.2 ⟨c, hc, hsame⟩
  have hne : ∀ known : String, known.toList.all Char.isAlpha = true → Text.upperAscii (String.ofList w) ≠ known := by
    rintro known hknown rfl
    rw [List.all_eq_true.1 hknown c hupper] at hletter
    exact Bool.noConfusion hletter
  rw [ofWord, if_neg, if_neg, if_neg, if_neg]
  · exact hne _ (by decide)
  · exact hne _ (by decide)
  · rintro (h | h)
    · exact hne _ (by decide) h
    · exact hne _ (by decide) h
  · rintro (h | h)
    · exact hne _ (by decide) h
    · exact hne _ (by decide) h

theorem name_injective {k l : StatementKind} (h : k.name = l.name) : k = l := by
  cases k <;> cases l <;> first | rfl | exact absurd h (by decide)

end StatementKind

/-! ## The report -/

namespace StatementLog

open StatementKind (opening lead word ofSql ofSql_eq)

/-- the opening of a statement is within the limit -/
def admits (c : StatementLog) (sql : String) : Bool :=
  c.maxLength.all fun limit => Text.byteCount (opening sql.toList) ≤ limit

/-- a limit before the end of the opening cuts within the blanks and the first word -/
theorem takeBytes_within {limit : Nat} {s : List Char} (hlimit : limit < Text.byteCount (opening s)) :
    Text.takeBytes limit s <+: lead s := by
  by_cases hlength : (Text.takeBytes limit s).length ≤ (lead s).length
  · exact List.prefix_of_prefix_length_le (Text.takeBytes_prefix limit s) (StatementKind.lead_prefix s) hlength
  · have hopening : (opening s).length ≤ (Text.takeBytes limit s).length := by
      rw [opening, List.length_take]
      omega
    have hkept := List.prefix_of_prefix_length_le (StatementKind.opening_prefix s) (Text.takeBytes_prefix limit s)
      hopening
    have hfits := (Text.prefix_takeBytes_iff limit (StatementKind.opening_prefix s)).1 hkept
    omega

/-- a cut text keeps the kind if the opening fits the limit, and else has none -/
theorem ofSql_takeBytes {limit : Nat} {sql : String} (hlong : limit < Text.byteCount sql.toList) :
    ofSql (String.ofList (Text.takeBytes limit sql.toList ++ ['.', '.', '.'])) =
      if Text.byteCount (opening sql.toList) ≤ limit then ofSql sql else .other := by
  rw [ofSql_eq, ofSql_eq, String.toList_ofList]
  by_cases hfits : Text.byteCount (opening sql.toList) ≤ limit
  · rw [if_pos hfits]
    have hend : lead sql.toList ≠ sql.toList := by
      intro heq
      have hwhole : opening sql.toList = sql.toList := by
        rw [opening, heq, List.take_of_length_le (by omega)]
      rw [hwhole] at hfits
      omega
    have hkept := (Text.prefix_takeBytes_iff limit (StatementKind.opening_prefix sql.toList)).2 hfits
    rw [StatementKind.word_of_opening hend (hkept.trans (List.prefix_append _ _))]
  · rw [if_neg hfits]
    exact StatementKind.ofWord_of_not_letter (StatementKind.dot_mem_word (takeBytes_within (by omega))) (by decide)

/-- the kind that is read off the text as it is reported -/
theorem ofSql_cut (c : StatementLog) (sql : String) :
    ofSql (c.cut sql) = if c.admits sql then ofSql sql else .other := by
  have hopening : Text.byteCount (opening sql.toList) ≤ Text.byteCount sql.toList := by
    obtain ⟨rest, hrest⟩ := StatementKind.opening_prefix sql.toList
    conv_rhs => rw [← hrest]
    rw [Text.byteCount_append]
    omega
  cases hmax : c.maxLength with
  | none => simp [cut, admits, hmax]
  | some limit =>
    by_cases hlong : limit < Text.byteCount sql.toList
    · simp only [cut, admits, hmax, Text.utf8ByteSize_eq, hlong, if_true, Option.all_some, decide_eq_true_eq]
      exact ofSql_takeBytes hlong
    · have hfits : Text.byteCount (opening sql.toList) ≤ limit := by omega
      simp [cut, admits, hmax, Text.utf8ByteSize_eq, hlong, hfits]

/-- **The kind that a report tells.** With reports on, every statement is reported once, with the database, the number of
parameters and the text as it is cut. The kind told is that of the statement if its blanks in front, its first word and
the character behind it are within the limit, and else `Other`; so it is wrong exactly for the statements of a known kind
whose opening is longer than the limit. -/
theorem reported_kind {c : StatementLog} (hon : c.enabled = true) (database sql : String) (parameters : Nat) :
    ∃ told : StatementKind,
      c.report? database sql parameters = some {
        level := c.level
        target := Event.statementTarget
        fields := [("statement", told.name), ("database", database), ("param_count", toString parameters),
          ("sql", c.cut sql)] } ∧
      told = (if c.admits sql then ofSql sql else .other) ∧
      (told.name = (ofSql sql).name ↔ c.admits sql = true ∨ ofSql sql = .other) := by
  refine ⟨ofSql (c.cut sql), ?_, ofSql_cut c sql, ?_⟩
  · rw [report?, if_pos hon]
  · rw [ofSql_cut]
    cases hadmits : c.admits sql with
    | true => simp
    | false =>
      rw [if_neg Bool.false_ne_true]
      constructor
      · intro hname
        exact .inr (StatementKind.name_injective hname).symm
      · rintro (hfalse | hother)
        · exact absurd hfalse Bool.false_ne_true
        · rw [hother]

/-- the limit reaches to the parenthesis behind the word and not further -/
theorem with_reported_as_select :
    (standard.withMaxLength 6).enabled = true ∧ (standard.withMaxLength 6).admits "\twith(a) SELECT 1" = true ∧
    ∃ told : StatementKind,
      (standard.withMaxLength 6).report? "app.db" "\twith(a) SELECT 1" 2 = some {
        level := .debug
        target := "dbtool.sql"
        fields := [("statement", told.name), ("database", "app.db"), ("param_count", "2"),
          ("sql", "\twith(...")] } ∧
      told = .select := by
  have hadmits : (standard.withMaxLength 6).admits "\twith(a) SELECT 1" = true := by decide
  obtain ⟨told, hreport, htold, -⟩ := reported_kind (c := standard.withMaxLength 6) rfl "app.db" "\twith(a) SELECT 1" 2
  refine ⟨rfl, hadmits, told, hreport, ?_⟩
  rw [htold, if_pos hadmits]
  decide

/-- **A limit right behind the keyword hides it**: what is reported as SELECT... has no known kind. -/
theorem select_reported_as_other :
    (standard.withMaxLength 6).enabled = true ∧ ofSql "SELECT * FROM t" = .select ∧
    (standard.withMaxLength 6).report? "app.db" "SELECT * FROM t" 0 = some {
      level := .debug
      target := "dbtool.sql"
      fields := [("statement", "Other"), ("database", "app.db"), ("param_count", "0"), ("sql", "SELECT...")] } := by
  refine ⟨rfl, by decide, by decide⟩

end StatementLog

end FluentSql
