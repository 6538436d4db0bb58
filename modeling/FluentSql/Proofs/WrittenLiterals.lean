import FluentSql.Engine.Token
import FluentSql.Proofs.ColumnHistory
import Mathlib.Data.List.Basic
/-!
Default texts and byte strings as literals, read back by the rules for tokens.

A string is read up to a closing quote, a doubled quote standing for one. So what is read as a string is exactly the
text that `Column.quotedText` writes for it (`next_string_iff`), and a byte string in hexadecimal digits is read as the
bytes that it was written for (`next_blob`). In the text of a column the literal of the default ends where the column
goes on: what comes next is nothing or a blank (`behind_opens`).

Main result: `literals_read_back`.
-/

namespace FluentSql

open Engine

/-! ## Strings -/

/-- a text with every single quote doubled -/
def Column.doubled (t : List Char) : List Char := t.flatMap fun c => if c = '\'' then ['\'', '\''] else [c]

namespace Engine.Token

open Column (doubled quotedText)

theorem toList_quotedText (s : String) : (quotedText s).toList = '\'' :: (doubled s.toList ++ ['\'']) :=
  String.toList_ofList

theorem doubled_quote (t : List Char) : doubled ('\'' :: t) = '\'' :: '\'' :: doubled t := rfl

theorem doubled_other {c : Char} (hc : c ≠ '\'') (t : List Char) : doubled (c :: t) = c :: doubled t := by
  simp [doubled, hc]

theorem doubled_of_no_quote {t : List Char} (ht : '\'' ∉ t) : doubled t = t := by
  induction t with
  | nil => rfl
  | cons c t ih =>
    obtain ⟨hc, ht⟩ := not_or.1 (fun h => ht (List.mem_cons.2 h))
    rw [doubled_other (fun h => hc h.symm), ih ht]

/-- a quote that no other one follows closes the string -/
theorem quoted_close {rest : List Char} (hrest : rest.head? ≠ some '\'') :
    quoted '\'' ('\'' :: rest) = some ([], rest) := by
  cases rest with
  | nil => rfl
  | cons d r =>
    have hd : d ≠ '\'' := fun h => hrest (congrArg some h)
    simp [quoted, hd]

theorem quoted_double (r : List Char) :
    quoted '\'' ('\'' :: '\'' :: r) = (quoted '\'' r).map fun (t, rest) => ('\'' :: t, rest) := by
  rw [quoted.eq_def]
  simp

theorem quoted_other {c : Char} (hc : c ≠ '\'') (r : List Char) :
    quoted '\'' (c :: r) = (quoted '\'' r).map fun (t, rest) => (c :: t, rest) := by
  rw [quoted.eq_def]
  simp [hc]

theorem quoted_doubled (t : List Char) {rest : List Char} (hrest : rest.head? ≠ some '\'') :
    quoted '\'' (doubled t ++ '\'' :: rest) = some (t, rest) := by
  induction t with
  | nil => exact quoted_close hrest
  | cons c t ih =>
    by_cases hc : c = '\''
    · rw [hc, doubled_quote, List.cons_append, List.cons_append, quoted_double, ih]
      rfl
    · rw [doubled_other hc, List.cons_append, quoted_other hc, ih]
      rfl

/-- nothing else is read as that text -/
theorem eq_doubled_of_quoted {u t rest : List Char} (h : quoted '\'' u = some (t, rest)) :
    u = doubled t ++ '\'' :: rest ∧ rest.head? ≠ some '\'' := by
  induction u using List.twoStepInduction generalizing t with
  | nil => cases h
  | singleton c =>
    by_cases hc : c = '\''
    · subst hc
      cases h
      exact ⟨rfl, nofun⟩
    · rw [quoted_other hc] at h
      cases h
  | cons_cons c d u ih ih' =>
    by_cases hc : c = '\''
    · subst hc
      by_cases hd : d = '\''
      · subst hd
        rw [quoted_double] at h
        obtain ⟨⟨t', rest'⟩, hu, heq⟩ := Option.map_eq_some_iff.1 h
        cases heq
        obtain ⟨rfl, hrest⟩ := ih hu
        exact ⟨rfl, hrest⟩
      · have hopen : (d :: u).head? ≠ some '\'' := fun heq => hd (Option.some.inj heq)
        rw [quoted_close hopen] at h
        cases h
        exact ⟨rfl, hopen⟩
    · rw [quoted_other hc] at h
      obtain ⟨⟨t', rest'⟩, hu, heq⟩ := Option.map_eq_some_iff.1 h
      cases heq
      obtain ⟨hu, hrest⟩ := ih' d hu
      rw [hu, doubled_other hc]
      exact ⟨rfl, hrest⟩

/-- **A string is read from the text that is written for it, and from no other.** -/
theorem next_string_iff (u : List Char) (s : String) (rest : List Char) :
    next ('\'' :: u) = (string s, rest) ↔ '\'' :: u = (quotedText s).toList ++ rest ∧ rest.head? ≠ some '\'' := by
  have hnext : next ('\'' :: u) = ofQuoted string '\'' u := rfl
  rw [hnext, ofQuoted, toList_quotedText, List.cons_append, List.cons.injEq, List.append_assoc]
  constructor
  · intro h
    cases hu : quoted '\'' u with
    | none =>
      rw [hu] at h
      cases h
    | some p =>
      obtain ⟨t, rest'⟩ := p
      rw [hu] at h
      cases h
      obtain ⟨hwritten, hrest⟩ := eq_doubled_of_quoted hu
      rw [String.toList_ofList]
      exact ⟨⟨rfl, hwritten⟩, hrest⟩
  · rintro ⟨⟨-, hu⟩, hrest⟩
    rw [hu, List.singleton_append, quoted_doubled _ hrest]
    dsimp only
    rw [String.ofList_toList]

theorem next_quotedText (s : String) {rest : List Char} (hrest : rest.head? ≠ some '\'') :
    next ((quotedText s).toList ++ rest) = (string s, rest) := by
  have hopen : (quotedText s).toList ++ rest = '\'' :: (doubled s.toList ++ ['\''] ++ rest) := by
    rw [toList_quotedText, List.cons_append]
  rw [hopen, next_string_iff, ← hopen]
  exact ⟨rfl, hrest⟩

theorem quotedText_injective : Function.Injective quotedText := by
  intro s t h
  have hread : ∀ s, next ((quotedText s).toList ++ []) = (string s, []) := fun s => next_quotedText s nofun
  have hs := hread s
  rw [h, hread t] at hs
  simpa using hs.symm

/-! ## Byte strings -/

theorem hexValue_digit {n : Nat} (hn : n < 16) : Text.hexValue (Nat.digitChar n).toUpper = some n := by
  revert hn
  revert n
  decide

/-- a byte has two hexadecimal digits -/
theorem digits_lt (b : UInt8) : b.toNat / 16 < 16 ∧ b.toNat % 16 < 16 := by
  have hb := b.toNat_lt
  omega

theorem hexBytes_hexByte (b : UInt8) (r : List Char) : hexBytes (Text.hexByte b ++ r) = (hexBytes r).map (b :: ·) := by
  obtain ⟨hhigh, hlow⟩ := digits_lt b
  have hb : UInt8.ofNat (16 * (b.toNat / 16) + b.toNat % 16) = b := by rw [Nat.div_add_mod, UInt8.ofNat_toNat]
  simp only [Text.hexByte, List.map_cons, List.map_nil, List.cons_append, List.nil_append, hexBytes, hexValue_digit hhigh,
    hexValue_digit hlow, Option.bind_eq_bind, Option.bind_some, hb]
  cases hexBytes r <;> rfl

theorem hexBytes_flatMap (bytes : List UInt8) : hexBytes (bytes.flatMap Text.hexByte) = some bytes := by
  induction bytes with
  | nil => rfl
  | cons b bytes ih => rw [List.flatMap_cons, hexBytes_hexByte, ih, Option.map_some]

theorem quote_not_mem_hex (bytes : List UInt8) : '\'' ∉ bytes.flatMap Text.hexByte := by
  intro hmem
  obtain ⟨b, -, hb⟩ := List.mem_flatMap.1 hmem
  have hdigit : ∀ n < 16, '\'' ≠ (Nat.digitChar n).toUpper := by decide
  obtain ⟨hhigh, hlow⟩ := digits_lt b
  simp only [Text.hexByte, List.map_cons, List.map_nil, List.mem_cons, List.not_mem_nil, or_false] at hb
  exact hb.elim (hdigit _ hhigh) (hdigit _ hlow)

/-- **A byte string is read from its hexadecimal digits.** -/
theorem next_blob (bytes : List UInt8) {rest : List Char} (hrest : rest.head? ≠ some '\'') :
    next ((Value.blob bytes).literal.toList ++ rest) = (blob bytes, rest) := by
  have hdigits := quoted_doubled (bytes.flatMap Text.hexByte) hrest
  rw [doubled_of_no_quote (quote_not_mem_hex bytes)] at hdigits
  have htext : (Value.blob bytes).literal.toList ++ rest =
      'X' :: '\'' :: (bytes.flatMap Text.hexByte ++ '\'' :: rest) := by
    simp [Value.literal, Value.blobLiteral]
  rw [htext, show ∀ r, next ('X' :: '\'' :: r) = next.blobLiteral r from fun _ => rfl, next.blobLiteral, hdigits]
  dsimp only
  rw [hexBytes_flatMap]

theorem blobLiteral_injective : Function.Injective fun bytes => (Value.blob bytes).literal := by
  intro bytes others h
  have hread : ∀ bytes, next ((Value.blob bytes).literal.toList ++ []) = (blob bytes, []) := fun bytes =>
    next_blob bytes nofun
  have hbytes := hread bytes
  rw [show (Value.blob bytes).literal = (Value.blob others).literal from h, hread others] at hbytes
  simpa using hbytes.symm

end Engine.Token

/-! ## The default of a column -/

namespace Column

/-- the text of a column in front of its default -/
def ahead (c : Column) : String :=
  c.name ++ " " ++ (c.type?.getD .integer).keyword
    ++ (if c.primaryKey then " PRIMARY KEY" else "")
    ++ (if c.autoIncrement then " AUTOINCREMENT" else "")
    ++ (if c.unique then " UNIQUE" else "")

/-- the text of a column behind its default -/
def behind (c : Column) : String :=
  (if c.references = [] then "" else " REFERENCES " ++ ", ".intercalate c.references)
    ++ c.check?.elim "" (" CHECK (" ++ · ++ ")")
    ++ (if c.notNull then " NOT NULL" else "")

theorem layout_of_default {c : Column} {d : String} (hdefault : c.default? = some d) :
    c.layout = c.ahead ++ " DEFAULT " ++ d ++ c.behind := by
  simp only [layout, ahead, behind, hdefault, Option.elim_some, String.append_assoc]

/-- what comes behind the default goes on with a blank, if it goes on at all -/
theorem behind_opens (c : Column) : c.behind.toList.head? ≠ some '\'' := by
  unfold behind
  by_cases hreferences : c.references = []
  · cases hcheck : c.check? with
    | none => cases hnull : c.notNull <;> simp [hreferences]
    | some condition => simp [hreferences]
  · simp [hreferences]

/-- the column can still be built, and has the literal of a text as its default -/
structure Defaults (c : Column) (s : String) : Prop where
  named : c.name ≠ ""
  fresh : c.built? = none
  default : c.default? = some (quotedText s)

variable {c : Column} {s : String}

theorem apply_defaults {e : Edit} (h : c.Defaults s) (he : e.part ≠ .default) : (e.apply c).Defaults s := by
  obtain ⟨hname, hbuilt⟩ := apply_frame c e
  refine ⟨hname.trans_ne h.named, hbuilt.trans h.fresh, ?_⟩
  rw [← h.default]
  cases e with
  | flag f => cases f <;> rfl
  | type t => rfl
  | check condition => rfl
  | reference table columns => rfl
  | default v => exact absurd rfl he
  | quotedDefault t => exact absurd rfl he

theorem foldl_defaults {es : List Edit} (h : c.Defaults s) (hes : ∀ e ∈ es, e.part ≠ .default) :
    (es.foldl Edit.apply c).Defaults s := by
  induction es generalizing c with
  | nil => exact h
  | cons e es ih =>
    exact ih (apply_defaults h (hes e List.mem_cons_self)) fun f hf => hes f (List.mem_cons_of_mem e hf)

theorem Defaults.build_text (h : c.Defaults s) :
    c.build.text = c.ahead ++ " DEFAULT " ++ quotedText s ++ c.behind := by
  rw [(build_fresh h.fresh h.named).2, layout_of_default h.default]

end Column

/-- **What is written as a literal is read back exactly.** A text with its quotes doubled is read as that text, to the end
of the literal and no further, and no other literal is read as it. A byte string is read back from its digits. The literal
of a default stands unchanged behind DEFAULT in the text that the column is built with, whatever else is said of the column
afterwards, and is read back there. So no two texts and no two byte strings are written alike. -/
theorem literals_read_back :
    (∀ (u : List Char) (s : String) (rest : List Char),
      Token.next ('\'' :: u) = (.string s, rest) ↔
        '\'' :: u = (Column.quotedText s).toList ++ rest ∧ rest.head? ≠ some '\'') ∧
    (∀ (c : Column) (s : String) (es : List Column.Edit), c.name ≠ "" → c.built? = none →
      (∀ e ∈ es, e.part ≠ .default) →
      let d := es.foldl Column.Edit.apply (c.withQuotedDefault s)
      d.build.text = d.ahead ++ " DEFAULT " ++ Column.quotedText s ++ d.behind ∧
        Token.next (Column.quotedText s ++ d.behind).toList = (.string s, d.behind.toList)) ∧
    (∀ (bytes : List UInt8) (rest : List Char), rest.head? ≠ some '\'' →
      Token.next ((Value.blob bytes).literal.toList ++ rest) = (.blob bytes, rest)) ∧
    Function.Injective Column.quotedText ∧
    Function.Injective fun bytes => (Value.blob bytes).literal := by
  refine ⟨Token.next_string_iff, fun c s es hname hfresh hes => ?_, fun bytes rest => Token.next_blob bytes,
    Token.quotedText_injective, Token.blobLiteral_injective⟩
  have hd := Column.foldl_defaults (c := c.withQuotedDefault s) ⟨hname, hfresh, rfl⟩ hes
  refine ⟨hd.build_text, ?_⟩
  rw [String.toList_append]
  exact Token.next_quotedText s (Column.behind_opens _)

/-- a default with quotes at both ends and a condition behind it, and bytes with a zero -/
theorem ownersDefault_read_back :
    let c := (Column.named "owner").ofType .text
    let es := [Column.Edit.flag .notNull, .check "owner <> ''"]
    let d := es.foldl Column.Edit.apply (c.withQuotedDefault "''a'")
    (c.name ≠ "" ∧ c.built? = none ∧ ∀ e ∈ es, e.part ≠ .default) ∧
    d.build.text = "owner TEXT DEFAULT '''''a''' CHECK (owner <> '') NOT NULL" ∧
    Token.next "'''''a''' CHECK (owner <> '') NOT NULL".toList =
      (.string "''a'", " CHECK (owner <> '') NOT NULL".toList) ∧
    Token.next "X'00FF' ".toList = (.blob [0, 255], [' ']) := by
  intro c es d
  obtain ⟨-, hdefault, hblob, -⟩ := literals_read_back
  have hes : ∀ e ∈ es, e.part ≠ .default := by decide
  obtain ⟨htext, hread⟩ := hdefault c "''a'" es (by decide) rfl hes
  exact ⟨⟨by decide, rfl, hes⟩, htext.trans (by decide), hread, hblob [0, 255] [' '] (by decide)⟩

end FluentSql
