import FluentSql.NameList
import Mathlib.Data.List.Basic
import Mathlib.Data.List.DropRight
/-!
Splitting a list of names undoes joining it.

The names of a text come piece by piece: a comma ends one (`names_append_comma`), and white space around a text adds
none and changes none (`names_padded`). So the names of a joined text are those of its parts, in order, whatever
commas and white space the parts hold themselves. A part without a comma holds one name or none (`names_of_no_comma`),
and a text that is put together from trimmed names is trimmed itself (`trimmed_intercalate`).

Main result: `split_undoes_join`.
-/

namespace FluentSql

/-! ## Trimming -/

namespace Text

variable {a b s t : List Char}

/-- a text is its trimmed form with white space around it -/
theorem exists_padding (s : List Char) : ∃ a b, s = a ++ trimChars s ++ b ∧ (∀ c ∈ a, isBlank c = true) ∧
    ∀ c ∈ b, isBlank c = true := by
  refine ⟨s.takeWhile isBlank, ((trimStartChars s).reverse.takeWhile isBlank).reverse, ?_, ?_, ?_⟩
  · rw [List.append_assoc, trimChars, trimEndChars, ← List.reverse_append, List.takeWhile_append_dropWhile,
      List.reverse_reverse, trimStartChars, List.takeWhile_append_dropWhile]
  · exact fun c hc => List.mem_takeWhile_imp hc
  · exact fun c hc => List.mem_takeWhile_imp (List.mem_reverse.1 hc)

theorem trimEndChars_append_blanks (hb : ∀ c ∈ b, isBlank c = true) (s : List Char) :
    trimEndChars (s ++ b) = trimEndChars s := by
  rw [trimEndChars, List.reverse_append, List.dropWhile_append_of_pos fun c hc => hb c (List.mem_reverse.1 hc)]
  rfl

/-- white space around a text makes no difference to its trimmed form -/
theorem trimChars_padded (ha : ∀ c ∈ a, isBlank c = true) (hb : ∀ c ∈ b, isBlank c = true) (s : List Char) :
    trimChars (a ++ s ++ b) = trimChars s := by
  have hstart : trimStartChars (a ++ s ++ b) = trimStartChars (s ++ b) := by
    rw [List.append_assoc]
    exact List.dropWhile_append_of_pos ha
  rw [trimChars, hstart, trimChars, trimStartChars, trimStartChars, List.dropWhile_append]
  split
  · rename_i hs
    rw [List.isEmpty_iff.1 hs, List.dropWhile_eq_nil_iff.2 hb]
  · exact trimEndChars_append_blanks hb _

theorem trimChars_trimChars (s : List Char) : trimChars (trimChars s) = trimChars s := by
  obtain ⟨a, b, hs, ha, hb⟩ := exists_padding s
  conv_rhs => rw [hs, trimChars_padded ha hb]

/-- neither end is white space -/
structure Trimmed (s : List Char) : Prop where
  start : ∀ h : 0 < s.length, isBlank s[0] = false
  stop : ∀ h : s ≠ [], isBlank (s.getLast h) = false

theorem trimChars_eq_self_iff : trimChars s = s ↔ Trimmed s := by
  have hstart : trimStartChars s = s ↔ ∀ h : 0 < s.length, isBlank s[0] = false := by
    simp only [trimStartChars, List.dropWhile_eq_self_iff, Bool.not_eq_true]
  have hstop : trimEndChars s = s ↔ ∀ h : s ≠ [], isBlank (s.getLast h) = false := by
    show List.rdropWhile isBlank s = s ↔ _
    rw [List.rdropWhile_eq_self_iff]
    simp only [Bool.not_eq_true]
  constructor
  · intro h
    have hsuffix : trimStartChars s <:+ s := List.dropWhile_suffix isBlank
    have hprefix : trimChars s <+: trimStartChars s := List.rdropWhile_prefix isBlank _
    rw [h] at hprefix
    have hwhole : trimStartChars s = s := hsuffix.eq_of_length (le_antisymm hsuffix.length_le hprefix.length_le)
    refine ⟨hstart.1 hwhole, hstop.1 ?_⟩
    rwa [trimChars, hwhole] at h
  · intro h
    rw [trimChars, hstart.2 h.start, hstop.2 h.stop]

theorem trimChars_of_solid (h : ∀ c ∈ s, isBlank c = false) : trimChars s = s :=
  trimChars_eq_self_iff.2 ⟨fun hpos => h _ (List.getElem_mem hpos), fun hne => h _ (List.getLast_mem hne)⟩

theorem Trimmed.append (hs : Trimmed s) (ht : Trimmed t) (hsne : s ≠ []) (htne : t ≠ []) (m : List Char) :
    Trimmed (s ++ m ++ t) := by
  refine ⟨fun h => ?_, fun h => ?_⟩
  · have hpos := List.length_pos_iff.2 hsne
    simpa [List.getElem_append_left, hpos] using hs.start hpos
  · rw [List.getLast_append_of_ne_nil _ htne]
    exact ht.stop htne

theorem intercalate_ne_nil (sep : List Char) {t : List Char} (ht : t ≠ []) (ts : List (List Char)) :
    sep.intercalate (t :: ts) ≠ [] := by
  cases ts with
  | nil => rwa [List.intercalate_singleton]
  | cons u ts => simp [List.intercalate_cons_cons, ht]

/-- trimmed texts make a trimmed text, whatever stands between them -/
theorem trimmed_intercalate (sep : List Char) {ts : List (List Char)} (hts : ∀ t ∈ ts, t ≠ [] ∧ Trimmed t) :
    Trimmed (sep.intercalate ts) := by
  induction ts with
  | nil => exact ⟨fun h => absurd h (by simp), fun h => absurd rfl h⟩
  | cons t ts ih =>
    obtain ⟨hne, ht⟩ := hts t List.mem_cons_self
    have hrest := ih fun u hu => hts u (List.mem_cons_of_mem t hu)
    cases ts with
    | nil => rwa [List.intercalate_singleton]
    | cons u ts =>
      have hu := hts u (List.mem_cons_of_mem t List.mem_cons_self)
      rw [List.intercalate_cons_cons]
      exact ht.append hrest hne (intercalate_ne_nil sep hu.1 ts) sep

end Text

namespace NameList

/-! ## The names of a text -/

theorem pieces_eq_splitOn (sep : Char) (s : List Char) : Text.pieces sep s = s.splitOn sep := by
  induction s with
  | nil => rfl
  | cons c r ih =>
    rw [Text.pieces, List.splitOn_cons_eq_if_modifyHead, ih]
    by_cases hc : c = sep
    · simp [hc]
    · obtain ⟨p, ps, hps⟩ := List.exists_cons_of_ne_nil (List.splitOn_ne_nil sep r)
      simp [hc, hps]

theorem sep_not_mem_pieces {sep : Char} {s p : List Char} (hp : p ∈ Text.pieces sep s) : sep ∉ p := by
  induction s generalizing p with
  | nil =>
    obtain rfl := List.mem_singleton.1 hp
    exact List.not_mem_nil
  | cons c r ih =>
    rw [Text.pieces] at hp
    split at hp
    · rcases List.mem_cons.1 hp with rfl | hp
      · exact List.not_mem_nil
      · exact ih hp
    · rename_i hc
      have hhead : ∀ q, sep ∉ q → sep ∉ c :: q := fun q hq hmem =>
        (List.mem_cons.1 hmem).elim (fun h => hc h.symm) hq
      split at hp
      · obtain rfl := List.mem_singleton.1 hp
        exact hhead [] List.not_mem_nil
      · rename_i q qs hqs
        rw [hqs] at ih
        rcases List.mem_cons.1 hp with rfl | hp
        · exact hhead q (ih List.mem_cons_self)
        · exact ih (List.mem_cons_of_mem q hp)

/-- the names in a list of characters -/
def names (s : List Char) : List (List Char) := ((Text.pieces ',' s).map Text.trimChars).filter fun p => !p.isEmpty

theorem split_eq (s : String) : split s = (names s.toList).map String.ofList := rfl

/-- **A comma ends a name.** -/
theorem names_append_comma (s t : List Char) : names (s ++ ',' :: t) = names s ++ names t := by
  simp only [names, pieces_eq_splitOn, List.splitOn_append_cons_self, List.map_append, List.filter_append]

/-- without a comma there is one name, or none in a blank text -/
theorem names_of_no_comma {s : List Char} (hs : ',' ∉ s) :
    names s = if Text.trimChars s = [] then [] else [Text.trimChars s] := by
  simp only [names, pieces_eq_splitOn, List.splitOn_eq_singleton hs, List.map_singleton]
  split
  · rename_i h
    simp [h]
  · rename_i h
    simp [h]

theorem no_comma_of_blanks {b : List Char} (hb : ∀ c ∈ b, Text.isBlank c = true) : ',' ∉ b := by
  intro hmem
  exact absurd (hb ',' hmem) (by decide)

variable {a b : List Char}

theorem names_padded_of_no_comma (ha : ∀ c ∈ a, Text.isBlank c = true) (hb : ∀ c ∈ b, Text.isBlank c = true)
    {s : List Char} (hs : ',' ∉ s) : names (a ++ s ++ b) = names s := by
  have hpadded : ',' ∉ a ++ s ++ b := by
    simp only [List.mem_append, not_or]
    exact ⟨⟨no_comma_of_blanks ha, hs⟩, no_comma_of_blanks hb⟩
  rw [names_of_no_comma hpadded, names_of_no_comma hs, Text.trimChars_padded ha hb]

/-- the induction goes along the text and keeps the piece that is not ended yet in front -/
theorem names_padded_behind (hb : ∀ c ∈ b, Text.isBlank c = true) (s : List Char) :
    ∀ {a p : List Char}, (∀ c ∈ a, Text.isBlank c = true) → ',' ∉ p → names (a ++ (p ++ s) ++ b) = names (p ++ s) := by
  induction s with
  | nil =>
    intro a p ha hp
    rw [List.append_nil]
    exact names_padded_of_no_comma ha hb hp
  | cons c r ih =>
    intro a p ha hp
    by_cases hc : c = ','
    · subst hc
      have hfront : names (a ++ p) = names p := by
        simpa using names_padded_of_no_comma ha (b := []) (by simp) hp
      have hrest : names (r ++ b) = names r := by
        simpa using ih (a := []) (p := []) (by simp) (by simp)
      calc names (a ++ (p ++ ',' :: r) ++ b) = names ((a ++ p) ++ ',' :: (r ++ b)) := by simp
        _ = names p ++ names r := by rw [names_append_comma, hfront, hrest]
        _ = names (p ++ ',' :: r) := (names_append_comma p r).symm
    · have hp' : ',' ∉ p ++ [c] := by
        simp only [List.mem_append, List.mem_singleton, not_or]
        exact ⟨hp, fun h => hc h.symm⟩
      simpa using ih ha hp'

/-- **White space around a text makes no difference to its names.** -/
theorem names_padded (ha : ∀ c ∈ a, Text.isBlank c = true) (hb : ∀ c ∈ b, Text.isBlank c = true) (s : List Char) :
    names (a ++ s ++ b) = names s :=
  names_padded_behind hb s (p := []) ha List.not_mem_nil

theorem names_trim (s : List Char) : names (Text.trimChars s) = names s := by
  obtain ⟨a, b, hs, ha, hb⟩ := Text.exists_padding s
  conv_rhs => rw [hs, names_padded ha hb]

/-- the names of a text are trimmed and neither empty nor interrupted by a comma -/
theorem mem_names {s w : List Char} (hw : w ∈ names s) : w ≠ [] ∧ Text.trimChars w = w ∧ ',' ∉ w := by
  obtain ⟨hpiece, hne⟩ := List.mem_filter.1 hw
  obtain ⟨p, hp, rfl⟩ := List.mem_map.1 hpiece
  refine ⟨by simpa using hne, Text.trimChars_trimChars p, fun hmem => sep_not_mem_pieces hp ?_⟩
  obtain ⟨a, b, hs, -, -⟩ := Text.exists_padding p
  rw [hs]
  exact List.mem_append_left b (List.mem_append_right a hmem)

/-- a name by itself is its only name -/
theorem names_of_name {w : List Char} (hne : w ≠ []) (htrim : Text.trimChars w = w) (hcomma : ',' ∉ w) :
    names w = [w] := by
  rw [names_of_no_comma hcomma, htrim, if_neg hne]

theorem names_joined (ts : List (List Char)) : names ([',', ' '].intercalate ts) = ts.flatMap names := by
  induction ts with
  | nil => rfl
  | cons t ts ih =>
    cases ts with
    | nil => simp
    | cons u ts =>
      have hblank : ∀ c ∈ [' '], Text.isBlank c = true := by
        intro c hc
        rw [List.mem_singleton.1 hc]
        rfl
      have hrest := names_padded hblank (b := []) (by simp) ([',', ' '].intercalate (u :: ts))
      rw [List.append_nil] at hrest
      calc names ([',', ' '].intercalate (t :: u :: ts))
          = names (t ++ ',' :: ([' '] ++ [',', ' '].intercalate (u :: ts))) := by simp [List.intercalate_cons_cons]
        _ = names t ++ (u :: ts).flatMap names := by rw [names_append_comma, hrest, ih]
        _ = (t :: u :: ts).flatMap names := List.flatMap_cons.symm

/-! ## Joining -/

/-- the texts that joining keeps, trimmed -/
def kept (ts : List String) : List (List Char) := (ts.map fun t => Text.trimChars t.toList).filter fun t => !t.isEmpty

theorem toList_join (ts : List String) : (join ts).toList = [',', ' '].intercalate (kept ts) := by
  have hkept : ((ts.map Text.trim).filter fun n => !n.isEmpty).map String.toList = kept ts := by
    induction ts with
    | nil => rfl
    | cons t ts ih =>
      have hempty : (Text.trim t).isEmpty = (Text.trimChars t.toList).isEmpty := by
        rw [Text.trim, Bool.eq_iff_iff, String.isEmpty_iff, List.isEmpty_iff, String.ofList_eq_empty_iff]
      simp only [kept, List.map_cons, List.filter_cons, hempty] at ih ⊢
      split
      · rw [List.map_cons, ih, Text.trim, String.toList_ofList]
      · exact ih
  rw [join, String.toList_intercalate, hkept]
  rfl

theorem names_kept (ts : List String) : (kept ts).flatMap names = ts.flatMap fun t => names t.toList := by
  induction ts with
  | nil => rfl
  | cons t ts ih =>
    have hcons : kept (t :: ts) = if Text.trimChars t.toList = [] then kept ts else Text.trimChars t.toList :: kept ts := by
      simp [kept, List.filter_cons]
    rw [hcons, List.flatMap_cons, ← names_trim t.toList]
    split
    · rename_i hblank
      rw [hblank, ih]
      rfl
    · rw [List.flatMap_cons, ih]

/-- the names of a joined text are those of its parts -/
theorem split_join (ts : List String) : split (join ts) = ts.flatMap split := by
  rw [split_eq, toList_join, names_joined, names_kept, List.map_flatMap]
  rfl

theorem mem_split {text name : String} (h : name ∈ split text) :
    name ≠ "" ∧ Text.trim name = name ∧ ',' ∉ name.toList := by
  rw [split_eq] at h
  obtain ⟨w, hw, rfl⟩ := List.mem_map.1 h
  obtain ⟨hne, htrim, hcomma⟩ := mem_names hw
  refine ⟨?_, ?_, ?_⟩
  · simpa using hne
  · rw [Text.trim, String.toList_ofList, htrim]
  · rwa [String.toList_ofList]

theorem split_name {text name : String} (h : name ∈ split text) : split name = [name] := by
  rw [split_eq] at h
  obtain ⟨w, hw, rfl⟩ := List.mem_map.1 h
  obtain ⟨hne, htrim, hcomma⟩ := mem_names hw
  rw [split_eq, String.toList_ofList, names_of_name hne htrim hcomma]
  rfl

theorem split_join_split (text : String) : split (join (split text)) = split text := by
  rw [split_join, List.flatMap_congr fun name h => split_name h]
  exact List.flatMap_singleton' _

theorem trim_join (ts : List String) : Text.trim (join ts) = join ts := by
  have hkept : ∀ t ∈ kept ts, t ≠ [] ∧ Text.Trimmed t := by
    intro t ht
    obtain ⟨hmem, hne⟩ := List.mem_filter.1 ht
    obtain ⟨u, -, rfl⟩ := List.mem_map.1 hmem
    exact ⟨by simpa using hne, Text.trimChars_eq_self_iff.1 (Text.trimChars_trimChars _)⟩
  rw [Text.trim, toList_join, Text.trimChars_eq_self_iff.2 (Text.trimmed_intercalate _ hkept), ← toList_join,
    String.ofList_toList]

theorem join_join (ts : List String) : join [join ts] = join ts := by
  rw [join, List.map_singleton, trim_join]
  by_cases hnone : join ts = ""
  · rw [hnone]
    rfl
  · rw [List.filter_cons_of_pos (by simpa using hnone), List.filter_nil, String.intercalate_singleton]

/-- **Splitting undoes joining.** The names of a joined text are the names of its parts, in order, whatever white space
and commas the parts hold and however many of them are blank. So the names of any text survive being joined and split
again; each is trimmed, without a comma and not empty; and a joined text joined again is the same. -/
theorem split_undoes_join (ts : List String) (text : String) :
    split (join ts) = ts.flatMap split ∧
    split (join (split text)) = split text ∧
    (∀ name ∈ split text, name ≠ "" ∧ Text.trim name = name ∧ ',' ∉ name.toList) ∧
    join [join ts] = join ts :=
  ⟨split_join ts, split_join_split text, fun _ h => mem_split h, join_join ts⟩

/-- parts with commas of their own and blank parts among them -/
theorem looseNames_split :
    "name" ∈ split " id ,,\u2003name " ∧
    split (join ["a ,b", " \t", ",c\n"]) = ["a", "b", "c"] ∧
    split (join (split " id ,,\u2003name ")) = ["id", "name"] ∧
    ("name" ≠ "" ∧ Text.trim "name" = "name" ∧ ',' ∉ "name".toList) ∧
    join [join ["a ,b", " \t", ",c\n"]] = "a ,b, ,c" := by
  have hname : "name" ∈ split " id ,,\u2003name " := by decide
  obtain ⟨hjoined, htext, hnames, hagain⟩ := split_undoes_join ["a ,b", " \t", ",c\n"] " id ,,\u2003name "
  exact ⟨hname, hjoined.trans (by decide), htext.trans (by decide), hnames "name" hname, hagain.trans (by decide)⟩

end NameList

end FluentSql
