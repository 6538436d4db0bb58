import FluentSql.Proofs.Literal
import Mathlib.Data.List.Induction
/-!
A filter after any sequence of edits, read off the sequence alone.

Only the edits since the last clear count (`sinceClear`). They fall into sections (`sections`): each fragment
that is stored opens one, and the connectors given before the next fragment belong to it. A filter that comes
from edits holds the fragments of its sections and, between two of them, the last connector of the first one
(`ofEdits_eq`). A connector in the last section waits for a fragment that may still come.

Main result: `ofEdits_bookkeeping`. The lists of a filter fit together, every gap has the connector that was
given last in it, and a condition made by comparisons alone is written down whole.
-/

namespace FluentSql.Filter

/-! ## Edits -/

/-- one call on a filter -/
inductive Edit where
  | push (fragment : String)
  | connect (c : Connector)
  | compare (c : Comparison) (field : String) (v : Value)
  | setArgs (args : List String)
  | clear

namespace Edit

def apply (f : Filter) : Edit → Filter
  | .push fragment => f.push fragment
  | .connect c => f.connect c
  | .compare c field v => f.compare c field v
  | .setArgs args => f.setArgs args
  | .clear => .empty

/-- the fragment that an edit stores; a blank one is ignored -/
def stored? : Edit → Option String
  | .push fragment => if Text.blank fragment then none else some fragment
  | .compare c field v => some (c.fragment field v)
  | _ => none

def connector? : Edit → Option Connector
  | .connect c => some c
  | _ => none

def isClear : Edit → Bool
  | .clear => true
  | _ => false

end Edit

/-- the filter that edits make -/
def ofEdits (es : List Edit) : Filter := es.foldl Edit.apply .empty

theorem ofEdits_snoc (es : List Edit) (e : Edit) : ofEdits (es ++ [e]) = e.apply (ofEdits es) := by
  simp [ofEdits, List.foldl_append]

/-! ## Sections of a history -/

/-- the edits after the last clear -/
def sinceClear (es : List Edit) : List Edit := (es.reverse.takeWhile fun e => !e.isClear).reverse

/-- each stored fragment with the connectors that are given before the next one is stored -/
def sections : List Edit → List (String × List Connector)
  | [] => []
  | e :: es =>
    match e.stored? with
    | some t => (t, (es.takeWhile fun d => d.stored?.isNone).filterMap Edit.connector?) :: sections es
    | none => sections es

/-- the connector behind a section: the last one that was given in it, or else AND -/
def gap (s : String × List Connector) : Connector := s.2.getLast?.getD .and

theorem sinceClear_snoc_clear (es : List Edit) : sinceClear (es ++ [.clear]) = [] := by
  simp [sinceClear, Edit.isClear]

theorem sinceClear_snoc {e : Edit} (h : e.isClear = false) (es : List Edit) :
    sinceClear (es ++ [e]) = sinceClear es ++ [e] := by
  simp [sinceClear, h]

theorem sections_eq_nil_iff {es : List Edit} : sections es = [] ↔ ∀ e ∈ es, e.stored?.isNone = true := by
  induction es with
  | nil => simp [sections]
  | cons e es ih => cases h : e.stored? <;> simp [sections, h, ih]

theorem takeWhile_of_sections_ne_nil {es : List Edit} (h : sections es ≠ []) (e : Edit) :
    (es ++ [e]).takeWhile (fun d => d.stored?.isNone) = es.takeWhile fun d => d.stored?.isNone := by
  rw [List.takeWhile_append, if_neg]
  intro hlen
  have hall := (List.takeWhile_prefix fun d : Edit => d.stored?.isNone).eq_of_length hlen
  exact h (sections_eq_nil_iff.2 (List.takeWhile_eq_self_iff.1 hall))

theorem sections_append_stored {e : Edit} {t : String} (h : e.stored? = some t) (es : List Edit) :
    sections (es ++ [e]) = sections es ++ [(t, [])] := by
  induction es with
  | nil => simp [sections, h]
  | cons d es ih =>
    have htake : (es ++ [e]).takeWhile (fun d => d.stored?.isNone) = es.takeWhile fun d => d.stored?.isNone := by
      rw [List.takeWhile_append]
      split
      · rename_i hlen
        rw [(List.takeWhile_prefix _).eq_of_length hlen]
        simp [h]
      · rfl
    cases hd : d.stored? with
    | none => simpa [sections, hd] using ih
    | some u => simp [sections, hd, ih, htake]

theorem sections_append_early {e : Edit} (h : e.stored? = none) {es : List Edit} (hs : sections es = []) :
    sections (es ++ [e]) = [] := by
  rw [sections_eq_nil_iff] at hs ⊢
  intro d hd
  rcases List.mem_append.1 hd with hd | hd
  · exact hs d hd
  · rw [List.mem_singleton.1 hd, h]; rfl

/-- what stores nothing belongs to the last section -/
theorem sections_append_plain {e : Edit} (h : e.stored? = none) {es : List Edit}
    {l : List (String × List Connector)} {s : String × List Connector} (hs : sections es = l ++ [s]) :
    sections (es ++ [e]) = l ++ [(s.1, s.2 ++ e.connector?.toList)] := by
  induction es generalizing l with
  | nil => simp [sections] at hs
  | cons d es ih =>
    cases hd : d.stored? with
    | none =>
      simp only [sections, hd] at hs
      simpa [sections, hd] using ih hs
    | some u =>
      simp only [sections, hd] at hs
      rcases l with _ | ⟨x, l⟩
      · rw [List.nil_append, List.cons.injEq] at hs
        obtain ⟨rfl, hnil⟩ := hs
        have hplain := sections_eq_nil_iff.1 hnil
        have hplain' := sections_eq_nil_iff.1 (sections_append_early h hnil)
        simp only [List.cons_append, sections, hd, sections_append_early h hnil,
          List.takeWhile_eq_self_iff.2 hplain, List.takeWhile_eq_self_iff.2 hplain', List.filterMap_append,
          List.nil_append]
        cases hc : e.connector? <;> simp [hc]
      · rw [List.cons_append, List.cons.injEq] at hs
        obtain ⟨rfl, htail⟩ := hs
        have hne : sections es ≠ [] := by rw [htail]; simp
        have htake := takeWhile_of_sections_ne_nil hne e
        simp only [List.cons_append, sections, hd, htake, ih htail]

/-! ## The filter of a history -/

/-- a filter holds the fragments of its sections and the connectors between them; a connector that was given in
the last section waits -/
structure Reads (secs : List (String × List Connector)) (f : Filter) : Prop where
  fragments : f.fragments = secs.map Prod.fst
  connectors : f.connectors = secs.dropLast.map gap ++ (secs.getLast?.bind fun s => s.2.getLast?).toList

theorem Reads.push {secs : List (String × List Connector)} {f : Filter} (h : Reads secs f) {t : String}
    (ht : Text.blank t = false) : Reads (secs ++ [(t, [])]) (f.push t) := by
  obtain ⟨hf, hc⟩ := h
  rcases List.eq_nil_or_concat secs with rfl | ⟨l, s, rfl⟩
  · refine ⟨?_, ?_⟩ <;> simp_all [Filter.push, Filter.isEmpty]
  · rw [List.concat_eq_append] at hf hc
    have hne : f.isEmpty = false := by simp [Filter.isEmpty, hf]
    refine ⟨by simp [Filter.push, ht, hf], ?_⟩
    cases hlast : s.2.getLast? with
    | none =>
      have hwait : f.isPending = false := by simp [Filter.isPending, hf, hc, hlast]
      simp [Filter.push, ht, hne, hwait, hc, hlast, gap]
    | some c =>
      have hwait : f.isPending = true := by simp [Filter.isPending, hf, hc, hlast]
      simp [Filter.push, ht, hwait, hc, hlast, gap]

theorem Reads.connect {l : List (String × List Connector)} {s : String × List Connector} {f : Filter}
    (h : Reads (l ++ [s]) f) (c : Connector) : Reads (l ++ [(s.1, s.2 ++ [c])]) (f.connect c) := by
  obtain ⟨hf, hc⟩ := h
  have hne : f.isEmpty = false := by simp [Filter.isEmpty, hf]
  cases hlast : s.2.getLast? with
  | none =>
    have hwait : f.isPending = false := by simp [Filter.isPending, hf, hc, hlast]
    refine ⟨?_, ?_⟩ <;> simp [Filter.connect, hne, hwait, hf, hc, hlast]
  | some d =>
    have hwait : f.isPending = true := by simp [Filter.isPending, hf, hc, hlast]
    refine ⟨?_, ?_⟩ <;> simp [Filter.connect, hne, hwait, hf, hc, hlast]

theorem connect_of_no_fragments {f : Filter} (h : f.fragments = []) (c : Connector) : f.connect c = f := by
  rw [Filter.connect, if_pos (by simp [Filter.isEmpty, h])]

theorem not_blank_of_stored {e : Edit} {t : String} (h : e.stored? = some t) : Text.blank t = false := by
  cases e with
  | push fragment =>
    simp only [Edit.stored?] at h
    split_ifs at h with hb
    rw [Option.some.injEq] at h
    rw [← h]; exact Bool.eq_false_iff.2 hb
  | compare c field v =>
    simp only [Edit.stored?, Option.some.injEq] at h
    rw [← h]; exact (Comparison.fragment_endsFirm c field v).not_blank
  | connect c => cases h
  | setArgs args => cases h
  | clear => cases h

/-- an edit that stores a fragment pushes it -/
theorem apply_of_stored {e : Edit} {t : String} (h : e.stored? = some t) (f : Filter) : e.apply f = f.push t := by
  cases e with
  | push fragment =>
    simp only [Edit.stored?] at h
    split_ifs at h
    rw [Option.some.injEq] at h
    rw [← h]; rfl
  | compare c field v =>
    simp only [Edit.stored?, Option.some.injEq] at h
    rw [← h]; rfl
  | connect c => cases h
  | setArgs args => cases h
  | clear => cases h

/-- what neither stores nor connects leaves both lists alone -/
theorem Reads.plain {secs : List (String × List Connector)} {f : Filter} (h : Reads secs f) {e : Edit}
    (hs : e.stored? = none) (hc : e.connector? = none) (hclear : e.isClear = false) : Reads secs (e.apply f) := by
  cases e with
  | push fragment =>
    have hb : Text.blank fragment = true := by
      by_contra hb
      simp [Edit.stored?, hb] at hs
    rwa [Edit.apply, Filter.push, if_pos hb]
  | connect c => cases hc
  | compare c field v => cases hs
  | setArgs args => exact ⟨h.fragments, h.connectors⟩
  | clear => cases hclear

/-- one more edit of a history -/
theorem Reads.snoc {es : List Edit} {f : Filter} (h : Reads (sections es) f) {e : Edit}
    (hclear : e.isClear = false) : Reads (sections (es ++ [e])) (e.apply f) := by
  cases hs : e.stored? with
  | some t =>
    rw [sections_append_stored hs, apply_of_stored hs]
    exact h.push (not_blank_of_stored hs)
  | none =>
    rcases List.eq_nil_or_concat (sections es) with hnil | ⟨l, s, hl⟩
    · rw [sections_append_early hs hnil]
      rw [hnil] at h
      cases e with
      | connect c =>
        rwa [Edit.apply, connect_of_no_fragments h.fragments]
      | _ => exact h.plain hs rfl hclear
    · rw [List.concat_eq_append] at hl
      rw [sections_append_plain hs hl]
      rw [hl] at h
      cases e with
      | connect c => exact h.connect c
      | _ => simpa [Edit.connector?] using h.plain hs rfl hclear

/-- **The state of a filter is its history since the last clear.** -/
theorem ofEdits_reads (es : List Edit) : Reads (sections (sinceClear es)) (ofEdits es) := by
  induction es using List.reverseRecOn with
  | nil => exact ⟨rfl, rfl⟩
  | append_singleton es e ih =>
    rw [ofEdits_snoc]
    cases hclear : e.isClear with
    | true =>
      cases e with
      | clear => rw [sinceClear_snoc_clear]; exact ⟨rfl, rfl⟩
      | _ => cases hclear
    | false =>
      rw [sinceClear_snoc hclear]
      exact ih.snoc hclear

/-! ## What follows for the lists and the condition -/

theorem mem_sections {es : List Edit} {s : String × List Connector} (h : s ∈ sections es) :
    ∃ e ∈ es, e.stored? = some s.1 := by
  induction es with
  | nil => simp [sections] at h
  | cons e es ih =>
    cases he : e.stored? with
    | none =>
      rw [sections, he] at h
      obtain ⟨d, hd, hs⟩ := ih h
      exact ⟨d, List.mem_cons_of_mem e hd, hs⟩
    | some t =>
      rw [sections, he] at h
      rcases List.mem_cons.1 h with rfl | h
      · exact ⟨e, List.mem_cons_self, he⟩
      · obtain ⟨d, hd, hs⟩ := ih h
        exact ⟨d, List.mem_cons_of_mem e hd, hs⟩

theorem Reads.length {secs : List (String × List Connector)} {f : Filter} (h : Reads secs f)
    (hne : f.fragments ≠ []) :
    f.connectors.length = f.fragments.length ∨ f.connectors.length = f.fragments.length - 1 := by
  obtain ⟨hf, hc⟩ := h
  rcases List.eq_nil_or_concat secs with rfl | ⟨l, s, rfl⟩
  · exact absurd hf hne
  · rw [List.concat_eq_append] at hf hc
    cases hlast : s.2.getLast? with
    | none => right; simp [hf, hc, hlast]
    | some c => left; simp [hf, hc, hlast]

theorem Reads.gap {secs : List (String × List Connector)} {f : Filter} (h : Reads secs f) {i : Nat}
    (hi : i + 1 < f.fragments.length) : f.connectors[i]? = secs[i]?.map gap := by
  obtain ⟨hf, hc⟩ := h
  have hlen : i < secs.dropLast.length := by
    rw [hf, List.length_map] at hi
    rw [List.length_dropLast]; omega
  rw [hc, List.getElem?_append_left (by rwa [List.length_map]), List.getElem?_map, List.getElem?_dropLast,
    if_pos (by rwa [List.length_dropLast] at hlen)]

theorem pieces_congr {fs : List String} {cs ds : List Connector}
    (h : ∀ i, i + 1 < fs.length → cs[i]? = ds[i]?) : pieces fs cs = pieces fs ds := by
  refine List.flatMap_congr fun p hp => ?_
  obtain ⟨t, i⟩ := p
  have hi : i < fs.length := by simpa using (List.mem_zipIdx hp).2.1
  rcases i with _ | i
  · rfl
  · simp only [Nat.add_sub_cancel, h i hi]

/-- a connector behind the last fragment is not written -/
theorem clause?_connect {secs : List (String × List Connector)} {f : Filter} (h : Reads secs f) (c : Connector) :
    (f.connect c).clause? = f.clause? := by
  rcases List.eq_nil_or_concat secs with rfl | ⟨l, s, rfl⟩
  · rw [connect_of_no_fragments h.fragments]
  · rw [List.concat_eq_append] at h
    have hconn := h.connect c
    have hfs : (f.connect c).fragments = f.fragments := by rw [hconn.fragments, h.fragments]; simp
    have hpieces : pieces (f.connect c).fragments (f.connect c).connectors = pieces f.fragments f.connectors := by
      rw [hfs]
      refine pieces_congr fun i hi => ?_
      have hl : i < l.length := by simpa [h.fragments] using hi
      rw [hconn.gap (by rwa [hfs]), h.gap hi, List.getElem?_append_left hl, List.getElem?_append_left hl]
    have hclause : (f.connect c).clause = f.clause := by
      rw [Filter.clause, Filter.clause, assemble, assemble, join_eq_pieces, join_eq_pieces, hpieces]
    rw [Filter.clause?, Filter.clause?, hclause]

theorem clause?_of_no_fragments {f : Filter} (h : f.fragments = []) : f.clause? = none := by
  obtain ⟨cut, hcut, -⟩ := stripEnd_discards []
  have hnil : stripEnd [] = [] := (List.append_eq_nil_iff.1 hcut.symm).1
  simp [Filter.clause?, Filter.clause, h, assemble, join, hnil]

/-- a condition with a firm end is written down whole -/
theorem clause?_of_endsFirm {f : Filter} {fs : List String} {t : String} (h : f.fragments = fs ++ [t])
    (ht : EndsFirm t.toList) :
    f.clause? = some (String.ofList ([' '].intercalate (pieces f.fragments f.connectors))) := by
  have hclause : f.clause = String.ofList ([' '].intercalate (pieces f.fragments f.connectors)) := by
    rw [Filter.clause, h, assemble_of_endsFirm ht]
  have hne : f.clause.isEmpty = false := by
    obtain ⟨r, c, hr, -⟩ := pieces_endsFirm ht fs f.connectors
    rw [hclause, h, hr]
    simp
  rw [Filter.clause?, hne, hclause]
  rfl

/-- **Bookkeeping of a filter over any history.** No stored fragment is blank, and the connectors fit the
fragments. Between two fragments stands the last connector given between their pushes; one given before the
first fragment leaves no trace. A condition made by comparisons alone is written down whole, and a connector
behind it adds nothing. -/
theorem ofEdits_bookkeeping (es : List Edit) :
    (∀ t ∈ (ofEdits es).fragments, Text.blank t = false) ∧
    ((ofEdits es).fragments = [] → (ofEdits es).connectors = []) ∧
    ((ofEdits es).fragments ≠ [] → (ofEdits es).connectors.length = (ofEdits es).fragments.length ∨
      (ofEdits es).connectors.length = (ofEdits es).fragments.length - 1) ∧
    (ofEdits es).fragments = (sections (sinceClear es)).map Prod.fst ∧
    (∀ i, i + 1 < (ofEdits es).fragments.length →
      (ofEdits es).connectors[i]? = (sections (sinceClear es))[i]?.map gap) ∧
    (∀ before c after, es = before ++ .connect c :: after → (ofEdits before).fragments = [] →
      ofEdits es = ofEdits (before ++ after)) ∧
    ((∀ t ∈ (ofEdits es).fragments, ∃ c field v, t = Comparison.fragment c field v) →
      (ofEdits es).clause? = if (ofEdits es).fragments = [] then none
        else some (String.ofList
          ([' '].intercalate (pieces (ofEdits es).fragments (ofEdits es).connectors)))) ∧
    ∀ c, (ofEdits (es ++ [.connect c])).clause? = (ofEdits es).clause? := by
  have hreads := ofEdits_reads es
  refine ⟨fun t ht => ?_, fun hnil => ?_, hreads.length, hreads.fragments, fun i => hreads.gap, ?_, fun h => ?_,
    fun c => ?_⟩
  · rw [hreads.fragments] at ht
    obtain ⟨s, hs, rfl⟩ := List.mem_map.1 ht
    obtain ⟨e, -, he⟩ := mem_sections hs
    exact not_blank_of_stored he
  · have hsecs := hreads.fragments
    rw [hnil, eq_comm, List.map_eq_nil_iff] at hsecs
    rw [hreads.connectors, hsecs]
    rfl
  · rintro before c after rfl hnil
    have hskip : Edit.apply (ofEdits before) (.connect c) = ofEdits before := connect_of_no_fragments hnil c
    simp only [ofEdits, List.foldl_append, List.foldl_cons] at hskip ⊢
    rw [hskip]
  · rcases List.eq_nil_or_concat (ofEdits es).fragments with hnil | ⟨fs, t, hfs⟩
    · rw [if_pos hnil, clause?_of_no_fragments hnil]
    · rw [List.concat_eq_append] at hfs
      obtain ⟨c, field, v, ht⟩ := h t (by rw [hfs]; simp)
      rw [if_neg (by rw [hfs]; simp)]
      exact clause?_of_endsFirm hfs (ht ▸ Comparison.fragment_endsFirm c field v)
  · rw [ofEdits_snoc]
    exact clause?_connect hreads c

/-- connectors in front, in a row and at the end, a blank fragment, and text that ends with a keyword -/
def mixedEdits : List Edit :=
  [.connect .or, .compare .equals "a" .null, .push " ", .connect .and, .connect .or,
    .compare .like " b" (.text "x AND"), .connect .and]

theorem mixedEdits_clause :
    (∀ t ∈ (ofEdits mixedEdits).fragments, ∃ c field v, t = Comparison.fragment c field v) ∧
      (ofEdits mixedEdits).clause? = some "a IS NULL OR b LIKE 'x AND'" := by
  have hfs : (ofEdits mixedEdits).fragments = ["a IS NULL", " b LIKE 'x AND'"] := by decide
  have h : ∀ t ∈ (ofEdits mixedEdits).fragments, ∃ c field v, t = Comparison.fragment c field v := by
    rw [hfs]
    intro t ht
    rcases List.mem_cons.1 ht with rfl | ht
    · exact ⟨.equals, "a", .null, rfl⟩
    · rw [List.mem_singleton.1 ht]
      exact ⟨.like, " b", .text "x AND", by decide⟩
  obtain ⟨-, -, -, -, -, -, hclause, -⟩ := ofEdits_bookkeeping mixedEdits
  exact ⟨h, (hclause h).trans (by decide)⟩

end FluentSql.Filter
