import FluentSql.Filter
import Mathlib.Data.List.Forall2
import Mathlib.Data.List.TakeWhile
/-!
What becomes of fragments and connectors when they are assembled to a condition.

The text before anything is cut off is spelled out with single spaces from its pieces, the trimmed fragments
with a connector in front of each but the first (`join_eq_pieces`). `Filter.assemble` takes dangling words off
the end of that text until none is left. The loop works on the reversed text; one round takes off one word and
the blanks in front of it (`dropDangling_eq_some`), and no round is left exactly when the end is settled
(`settled_of_dropDangling`).

Main result: `assemble_exact`. The condition is a prefix of the text, cut at a blank; nothing but dangling
words stands in what is cut off, and none stands at the end of what is left.
-/

namespace FluentSql

/-! ## Words -/

namespace Text

/-- the pieces of a text between white space -/
def words (s : List Char) : List (List Char) := (s.splitOnP isBlank).filter fun w => !w.isEmpty

theorem words_append_blank {c : Char} (hc : isBlank c = true) (s t : List Char) :
    words (s ++ c :: t) = words s ++ words t := by
  unfold words
  rw [List.splitOnP_append_cons s t hc, List.filter_append]

theorem words_blank_cons {c : Char} (hc : isBlank c = true) (s : List Char) : words (c :: s) = words s := by
  have h := words_append_blank hc [] s
  rwa [List.nil_append, show words [] = [] by simp [words, List.splitOnP_nil], List.nil_append] at h

theorem words_of_blanks {s : List Char} (h : ∀ c ∈ s, isBlank c = true) : words s = [] := by
  induction s with
  | nil => simp [words, List.splitOnP_nil]
  | cons c s ih =>
    rw [words_blank_cons (h c List.mem_cons_self)]
    exact ih fun d hd => h d (List.mem_cons_of_mem c hd)

theorem words_of_solid {w : List Char} (hw : w ≠ []) (h : ∀ c ∈ w, isBlank c = false) : words w = [w] := by
  unfold words
  rw [List.splitOnP_eq_singleton h]
  simp [hw]

/-- blanks in front of a word separate it from the text before -/
theorem words_append_word {b w : List Char} (s : List Char) (hb : b ≠ []) (hbb : ∀ c ∈ b, isBlank c = true)
    (hw : w ≠ []) (hs : ∀ c ∈ w, isBlank c = false) : words (s ++ b ++ w) = words s ++ [w] := by
  obtain ⟨c, b, rfl⟩ := List.exists_cons_of_ne_nil hb
  have hrest : words (b ++ w) = [w] := by
    clear hb
    induction b with
    | nil => exact words_of_solid hw hs
    | cons d b ih =>
      rw [List.cons_append, words_blank_cons (hbb d (by simp))]
      exact ih fun e he => hbb e (by simp at he ⊢; tauto)
  rw [List.append_assoc, List.cons_append, words_append_blank (hbb c List.mem_cons_self), hrest]

end Text

namespace Filter

/-! ## The text before anything is cut off -/

/-- the trimmed fragments, with a connector in front of each but the first; a missing connector is AND -/
def pieces (fragments : List String) (connectors : List Connector) : List (List Char) :=
  fragments.zipIdx.flatMap fun (f, i) =>
    (if i = 0 then [] else [(connectors[i - 1]?.getD .and).keyword.toList]) ++ [Text.trimChars f.toList]

/-- with a fragment in front, every further fragment follows a connector -/
theorem joinRest_eq_pieces (cs : List Connector) (fs : List String) (f : List Char) (k : Nat) :
    f ++ joinRest fs (cs.drop k) = [' '].intercalate (f :: (fs.zipIdx (k + 1)).flatMap fun (g, i) =>
      (if i = 0 then [] else [(cs[i - 1]?.getD .and).keyword.toList]) ++ [Text.trimChars g.toList]) := by
  induction fs generalizing f k with
  | nil => simp [joinRest]
  | cons g fs ih =>
    have hrest : joinRest (g :: fs) (cs.drop k) =
        connectorText (cs[k]?.getD .and) ++ (Text.trimChars g.toList ++ joinRest fs (cs.drop (k + 1))) := by
      rcases hk : cs.drop k with _ | ⟨c, cs'⟩
      · have hlen : cs.length ≤ k := List.drop_eq_nil_iff.1 hk
        simp [joinRest, List.getElem?_eq_none hlen, List.drop_eq_nil_iff.2 (Nat.le_succ_of_le hlen)]
      · have hget : cs[k]? = some c := by rw [← List.head?_drop, hk]; rfl
        have htail : cs.drop (k + 1) = cs' := by rw [← List.tail_drop, hk]; rfl
        simp [joinRest, hget, htail]
    rw [hrest, ih, List.zipIdx_cons, List.flatMap_cons]
    simp [connectorText, List.intercalate_cons_cons]

theorem join_eq_pieces (fs : List String) (cs : List Connector) :
    join fs cs = [' '].intercalate (pieces fs cs) := by
  cases fs with
  | nil => rfl
  | cons f fs =>
    have h := joinRest_eq_pieces cs fs (Text.trimChars f.toList) 0
    rw [List.drop_zero] at h
    simpa [join, pieces, List.zipIdx_cons] using h

/-! ## Dangling words -/

/-- a word that may not stand at the end, its letters compared without case -/
def IsDangling (w : List Char) : Prop :=
  ∃ t ∈ danglingWords, List.Forall₂ (fun l c => foldsTo l c = true) t.toList w

theorem toUpper_of_not_lower {c : Char} (h : c.toNat < 97 ∨ 122 < c.toNat) : c.toUpper = c := by
  rw [← Char.toNat_inj, Text.toNat_toUpper, if_neg (by omega)]

theorem toUpper_of_isBlank {c : Char} (h : Text.isBlank c = true) : c.toUpper = c := by
  have hrange := Text.toNat_of_isBlank h
  exact toUpper_of_not_lower (by omega)

theorem not_isBlank_of_foldsTo {l c : Char} (hl : Text.isBlank l = false) (h : foldsTo l c = true) :
    Text.isBlank c = false := by
  by_contra hc
  rw [Bool.not_eq_false] at hc
  simp only [foldsTo, toUpper_of_isBlank hc, Bool.or_eq_true, beq_iff_eq, Bool.and_eq_true] at h
  rcases h with rfl | ⟨_, rfl⟩
  · rw [hl] at hc; exact Bool.false_ne_true hc
  · exact absurd hc (by decide)

theorem solid_of_folds {t w : List Char} (ht : ∀ l ∈ t, Text.isBlank l = false)
    (h : List.Forall₂ (fun l c => foldsTo l c = true) t w) : ∀ c ∈ w, Text.isBlank c = false := by
  induction h with
  | nil => simp
  | cons hd _ ih =>
    intro c hc
    rcases List.mem_cons.1 hc with rfl | hc
    · exact not_isBlank_of_foldsTo (ht _ List.mem_cons_self) hd
    · exact ih (fun l hl => ht l (List.mem_cons_of_mem _ hl)) c hc

theorem danglingWords_solid :
    ∀ t ∈ danglingWords, t.toList ≠ [] ∧ ∀ l ∈ t.toList, Text.isBlank l = false := by
  have h : (danglingWords.all fun t => !t.toList.isEmpty && t.toList.all fun l => !Text.isBlank l) = true := by
    decide
  simpa using h

theorem IsDangling.solid {w : List Char} (h : IsDangling w) : w ≠ [] ∧ ∀ c ∈ w, Text.isBlank c = false := by
  obtain ⟨t, ht, hw⟩ := h
  obtain ⟨hne, hs⟩ := danglingWords_solid t ht
  refine ⟨?_, solid_of_folds hs hw⟩
  rintro rfl
  exact hne (List.forall₂_nil_right_iff.1 hw)

/-- the end of a text is free of blanks and dangling words -/
structure Settled (s : List Char) : Prop where
  noBlank : ∀ c, s.getLast? = some c → Text.isBlank c = false
  notWord : ¬ IsDangling s
  noWord : ∀ r c w, s = r ++ c :: w → Text.isBlank c = true → ¬ IsDangling w

/-! ## One round of the loop -/

theorem afterWord_eq_some_iff {t s r : List Char} :
    afterWord t s = some r ↔ ∃ w, s = w ++ r ∧ List.Forall₂ (fun l c => foldsTo l c = true) t w := by
  induction t generalizing s with
  | nil =>
    rw [afterWord, Option.some.injEq]
    constructor
    · rintro rfl
      exact ⟨[], rfl, .nil⟩
    · rintro ⟨w, hs, hw⟩
      rwa [List.forall₂_nil_left_iff.1 hw, List.nil_append] at hs
  | cons l t ih =>
    cases s with
    | nil =>
      simp only [afterWord, reduceCtorEq, List.nil_eq, List.append_eq_nil_iff, false_iff]
      rintro ⟨w, ⟨rfl, -⟩, hw⟩
      cases hw
    | cons c s =>
      by_cases hc : foldsTo l c = true
      · rw [afterWord, if_pos hc, ih]
        constructor
        · rintro ⟨w, rfl, hw⟩
          exact ⟨c :: w, rfl, .cons hc hw⟩
        · rintro ⟨w, hs, hw⟩
          cases hw with
          | cons hd hw =>
            rw [List.cons_append, List.cons.injEq] at hs
            exact ⟨_, hs.2, hw⟩
      · rw [afterWord, if_neg hc]
        constructor
        · intro h
          cases h
        · rintro ⟨w, hs, hw⟩
          cases hw with
          | cons hd hw =>
            rw [List.cons_append, List.cons.injEq] at hs
            exact absurd (hs.1 ▸ hd) hc

/-- the words are tried on the reversed text -/
theorem isDangling_reverse_iff {w : List Char} :
    IsDangling w.reverse ↔
      ∃ t ∈ danglingWords, List.Forall₂ (fun l c => foldsTo l c = true) t.toList.reverse w := by
  unfold IsDangling
  refine exists_congr fun t => and_congr_right fun _ => ?_
  rw [← List.forall₂_reverse_iff, List.reverse_reverse]

/-- a round takes a dangling word off the end, with the blanks in front of it -/
theorem dropDangling_eq_some {s r : List Char} (h : dropDangling s = some r) :
    ∃ b w, s.reverse = r.reverse ++ b ++ w ∧ IsDangling w ∧ (∀ c ∈ b, Text.isBlank c = true) ∧
      (b = [] → r = []) ∧ ∀ c, r.head? = some c → Text.isBlank c = false := by
  obtain ⟨t, ht, hd⟩ := List.exists_of_findSome?_eq_some h
  unfold dropWord at hd
  split at hd
  · rename_i ha
    obtain ⟨w, rfl, hw⟩ := afterWord_eq_some_iff.1 ha
    obtain rfl : [] = r := by simpa using hd
    refine ⟨[], w.reverse, by simp, isDangling_reverse_iff.2 ⟨t, ht, hw⟩, by simp, by simp, by simp⟩
  · rename_i c s' ha
    obtain ⟨w, rfl, hw⟩ := afterWord_eq_some_iff.1 ha
    split_ifs at hd with hc
    obtain rfl : s'.dropWhile Text.isBlank = r := by simpa using hd
    refine ⟨(s'.takeWhile Text.isBlank).reverse ++ [c], w.reverse, ?_,
      isDangling_reverse_iff.2 ⟨t, ht, hw⟩, ?_, by simp, fun e => Text.trimStart_head s' e⟩
    · have hs := congrArg List.reverse (List.takeWhile_append_dropWhile (p := Text.isBlank) (l := s'))
      rw [List.reverse_append] at hs
      simp [← hs]
    · intro e he
      rcases List.mem_append.1 he with he | he
      · exact List.mem_takeWhile_imp (List.mem_reverse.1 he)
      · rw [List.mem_singleton.1 he]; exact hc
  · cases hd

/-- no round is left exactly when the end is settled -/
theorem settled_of_dropDangling {s : List Char} (h : dropDangling s = none)
    (hb : ∀ c, s.head? = some c → Text.isBlank c = false) : Settled s.reverse := by
  have hnone : ∀ t ∈ danglingWords, dropWord t.toList.reverse s = none := List.findSome?_eq_none_iff.1 h
  refine ⟨by simpa using hb, fun hd => ?_, fun r c w hs hc hd => ?_⟩
  · obtain ⟨t, ht, hw⟩ := isDangling_reverse_iff.1 hd
    have ha : afterWord t.toList.reverse s = some [] := afterWord_eq_some_iff.2 ⟨s, by simp, hw⟩
    have := hnone t ht
    simp [dropWord, ha] at this
  · rw [← List.reverse_reverse w] at hd
    obtain ⟨t, ht, hw⟩ := isDangling_reverse_iff.1 hd
    have ha : afterWord t.toList.reverse s = some (c :: r.reverse) :=
      afterWord_eq_some_iff.2 ⟨w.reverse, by rw [← List.reverse_reverse s, hs]; simp, hw⟩
    have := hnone t ht
    simp [dropWord, ha, hc] at this

/-! ## All rounds -/

/-- what may stand behind a condition and be cut off: dangling words only, and a blank in front of them -/
structure Discards (kept cut : List Char) : Prop where
  words : ∀ w ∈ Text.words cut, IsDangling w
  atBlank : kept ≠ [] → cut = [] ∨ ∃ c r, cut = c :: r ∧ Text.isBlank c = true

theorem Discards.nil (kept : List Char) : Discards kept [] :=
  ⟨by simp [Text.words, List.splitOnP_nil], fun _ => Or.inl rfl⟩

theorem Discards.snoc {kept cut b w : List Char} (h : Discards kept cut) (hw : IsDangling w)
    (hb : ∀ c ∈ b, Text.isBlank c = true) (hne : b = [] → kept ++ cut = []) : Discards kept (cut ++ b ++ w) := by
  obtain ⟨hwne, hws⟩ := hw.solid
  rcases b with _ | ⟨c, b⟩
  · obtain ⟨rfl, rfl⟩ := List.append_eq_nil_iff.1 (hne rfl)
    refine ⟨fun v hv => ?_, fun hk => absurd rfl hk⟩
    rw [List.append_nil, List.nil_append, Text.words_of_solid hwne hws, List.mem_singleton] at hv
    exact hv ▸ hw
  · refine ⟨fun v hv => ?_, fun hk => ?_⟩
    · rw [Text.words_append_word cut (List.cons_ne_nil c b) hb hwne hws] at hv
      rcases List.mem_append.1 hv with hv | hv
      · exact h.words v hv
      · exact List.mem_singleton.1 hv ▸ hw
    · rcases h.atBlank hk with rfl | ⟨d, r, rfl, hd⟩
      · exact Or.inr ⟨c, b ++ w, rfl, hb c List.mem_cons_self⟩
      · exact Or.inr ⟨d, r ++ c :: b ++ w, by simp, hd⟩

theorem Discards.blanks {kept cut b : List Char} (h : Discards kept cut)
    (hb : ∀ c ∈ b, Text.isBlank c = true) : Discards kept (cut ++ b) := by
  rcases b with _ | ⟨c, b⟩
  · rwa [List.append_nil]
  · refine ⟨fun v hv => ?_, fun hk => ?_⟩
    · rw [Text.words_append_blank (hb c List.mem_cons_self),
        Text.words_of_blanks fun d hd => hb d (List.mem_cons_of_mem c hd), List.append_nil] at hv
      exact h.words v hv
    · rcases h.atBlank hk with rfl | ⟨d, r, rfl, hd⟩
      · exact Or.inr ⟨c, b, rfl, hb c List.mem_cons_self⟩
      · exact Or.inr ⟨d, r ++ c :: b, rfl, hd⟩

theorem stripReversed_of_some {s r : List Char} (h : dropDangling s = some r) :
    stripReversed s = stripReversed r := by
  rw [stripReversed]
  split
  · rename_i r' h'
    rw [h, Option.some.injEq] at h'
    rw [h']
  · rename_i h'
    rw [h] at h'
    cases h'

theorem stripReversed_of_none {s : List Char} (h : dropDangling s = none) : stripReversed s = s := by
  rw [stripReversed]
  split
  · rename_i r' h'
    rw [h] at h'
    cases h'
  · rfl

theorem stripReversed_discards (s : List Char) :
    ∃ cut, s.reverse = (stripReversed s).reverse ++ cut ∧ Discards (stripReversed s).reverse cut := by
  induction s using stripReversed.induct with
  | case1 s r h ih =>
    obtain ⟨cut, hr, hcut⟩ := ih
    obtain ⟨b, w, hs, hw, hb, hne, -⟩ := dropDangling_eq_some h
    rw [stripReversed_of_some h]
    refine ⟨cut ++ b ++ w, ?_, hcut.snoc hw hb fun hbn => ?_⟩
    · rw [hs, hr]; simp
    · rw [← hr, hne hbn, List.reverse_nil]
  | case2 s h =>
    rw [stripReversed_of_none h]
    exact ⟨[], (List.append_nil _).symm, Discards.nil _⟩

theorem stripReversed_settled (s : List Char) (hs : ∀ c, s.head? = some c → Text.isBlank c = false) :
    Settled (stripReversed s).reverse := by
  induction s using stripReversed.induct with
  | case1 s r h ih =>
    obtain ⟨-, -, -, -, -, -, hr⟩ := dropDangling_eq_some h
    rw [stripReversed_of_some h]
    exact ih hr
  | case2 s h =>
    rw [stripReversed_of_none h]
    exact settled_of_dropDangling h hs

theorem stripEnd_settled (s : List Char) : Settled (stripEnd s) :=
  stripReversed_settled _ fun c => Text.trimStart_head s.reverse c

theorem stripEnd_discards (s : List Char) : ∃ cut, s = stripEnd s ++ cut ∧ Discards (stripEnd s) cut := by
  obtain ⟨cut, hs, hcut⟩ := stripReversed_discards (s.reverse.dropWhile Text.isBlank)
  have hsplit := congrArg List.reverse (List.takeWhile_append_dropWhile (p := Text.isBlank) (l := s.reverse))
  rw [List.reverse_append, List.reverse_reverse, hs, List.append_assoc] at hsplit
  exact ⟨_, hsplit.symm, hcut.blanks fun c hc => List.mem_takeWhile_imp (List.mem_reverse.1 hc)⟩

/-- nothing is cut off a text with a settled end -/
theorem stripEnd_of_settled {s : List Char} (hs : Settled s) : stripEnd s = s := by
  have hnone : dropDangling s.reverse = none := by
    by_contra hsome
    obtain ⟨r, hr⟩ := Option.ne_none_iff_exists'.1 hsome
    obtain ⟨b, w, hsplit, hw, hb, hne, -⟩ := dropDangling_eq_some hr
    rw [List.reverse_reverse] at hsplit
    rcases List.eq_nil_or_concat b with rfl | ⟨b, c, rfl⟩
    · rw [hne rfl] at hsplit
      exact hs.notWord (by simpa [hsplit] using hw)
    · exact hs.noWord (r.reverse ++ b) c w (by simp [hsplit]) (hb c (by simp)) hw
  have hkeep : s.reverse.dropWhile Text.isBlank = s.reverse := by
    rcases hrev : s.reverse with _ | ⟨c, r⟩
    · rfl
    · have hc := hs.noBlank c (by rw [← List.head?_reverse, hrev]; rfl)
      rw [List.dropWhile_cons_of_neg (by simp [hc])]
  rw [stripEnd, hkeep, stripReversed_of_none hnone, List.reverse_reverse]

/-! ## What is left -/

theorem exists_last_word (s : List Char) (hne : s ≠ []) (hs : ∀ c, s.getLast? = some c → Text.isBlank c = false) :
    ∃ q w, s = q ++ w ∧ w ≠ [] ∧ (∀ c ∈ w, Text.isBlank c = false) ∧
      (q = [] ∨ ∃ r c, q = r ++ [c] ∧ Text.isBlank c = true) := by
  induction s with
  | nil => exact absurd rfl hne
  | cons c s ih =>
    rcases eq_or_ne s [] with rfl | hsne
    · exact ⟨[], [c], rfl, by simp, by simpa using hs c rfl, Or.inl rfl⟩
    · obtain ⟨q, w, rfl, hw, hsolid, hq⟩ := ih hsne fun d hd => hs d (by rw [List.getLast?_cons, hd]; rfl)
      rcases hq with rfl | ⟨r, d, rfl, hd⟩
      · cases hc : Text.isBlank c with
        | true => exact ⟨[c], w, rfl, hw, hsolid, Or.inr ⟨[], c, rfl, hc⟩⟩
        | false => exact ⟨[], c :: w, rfl, by simp, by simpa [hc] using hsolid, Or.inl rfl⟩
      · exact ⟨c :: r ++ [d], w, rfl, hw, hsolid, Or.inr ⟨c :: r, d, rfl, hd⟩⟩

/-- a settled text in front of what is cut off ends with a word of its own -/
theorem Settled.eq_nil {kept cut : List Char} (hs : Settled kept)
    (hcut : kept ≠ [] → cut = [] ∨ ∃ c r, cut = c :: r ∧ Text.isBlank c = true)
    (hw : ∀ w ∈ Text.words (kept ++ cut), IsDangling w) : kept = [] := by
  by_contra hne
  obtain ⟨q, w, rfl, hwne, hsolid, hq⟩ := exists_last_word kept hne hs.noBlank
  have hfirst : w ∈ Text.words (w ++ cut) := by
    rcases hcut hne with rfl | ⟨c, r, rfl, hc⟩
    · rw [List.append_nil, Text.words_of_solid hwne hsolid]; exact List.mem_cons_self
    · rw [Text.words_append_blank hc, Text.words_of_solid hwne hsolid]; exact List.mem_cons_self
  rcases hq with rfl | ⟨r, c, rfl, hc⟩
  · exact hs.notWord (hw w hfirst)
  · refine hs.noWord r c w (by simp) hc (hw w ?_)
    rw [List.append_assoc, List.append_assoc, List.singleton_append, Text.words_append_blank hc]
    exact List.mem_append_right _ hfirst

/-! ## Firm ends -/

/-- neither a blank nor the last letter of a dangling word -/
def isFirm (c : Char) : Bool :=
  !Text.isBlank c && !foldsTo 'D' c && !foldsTo 'R' c && !foldsTo 'E' c

/-- the last character is firm -/
def EndsFirm (s : List Char) : Prop := ∃ r c, s = r ++ [c] ∧ isFirm c = true

theorem EndsFirm.append {t : List Char} (h : EndsFirm t) (s : List Char) : EndsFirm (s ++ t) := by
  obtain ⟨r, c, rfl, hc⟩ := h
  exact ⟨s ++ r, c, (List.append_assoc s r [c]).symm, hc⟩

theorem not_isBlank_of_isFirm {c : Char} (h : isFirm c = true) : Text.isBlank c = false := by
  simp only [isFirm, Bool.and_eq_true, Bool.not_eq_true'] at h
  exact h.1.1.1

theorem EndsFirm.not_blank {s : String} (h : EndsFirm s.toList) : Text.blank s = false := by
  obtain ⟨r, c, hs, hc⟩ := h
  simp [Text.blank, hs, not_isBlank_of_isFirm hc]

theorem EndsFirm.trim {s : List Char} (h : EndsFirm s) : EndsFirm (Text.trimChars s) := by
  obtain ⟨r, c, rfl, hc⟩ := h
  have hb := not_isBlank_of_isFirm hc
  refine ⟨Text.trimStartChars r, c, ?_, hc⟩
  have hstart : (r ++ [c]).dropWhile Text.isBlank = r.dropWhile Text.isBlank ++ [c] := by
    rw [List.dropWhile_append]
    split
    · rename_i hnil
      rw [List.isEmpty_iff.1 hnil]
      simp [hb]
    · rfl
  simp [Text.trimChars, Text.trimStartChars, Text.trimEndChars, hstart, hb]

theorem last_of_folds {t w : List Char} {c : Char}
    (h : List.Forall₂ (fun l c => foldsTo l c = true) t (w ++ [c])) :
    ∃ l, t.getLast? = some l ∧ foldsTo l c = true := by
  have hrev := List.forall₂_reverse_iff.2 h
  rw [List.reverse_append, List.reverse_singleton, List.singleton_append] at hrev
  obtain ⟨l, t', hl, -, ht⟩ := List.forall₂_cons_right_iff.1 hrev
  exact ⟨l, by rw [← List.head?_reverse, ht]; rfl, hl⟩

theorem not_isDangling_of_isFirm {w : List Char} {c : Char} (hc : isFirm c = true) : ¬ IsDangling (w ++ [c]) := by
  rintro ⟨t, ht, hw⟩
  obtain ⟨l, hl, hf⟩ := last_of_folds hw
  have hletters : ∀ t ∈ danglingWords, ∀ l, t.toList.getLast? = some l → l = 'D' ∨ l = 'R' ∨ l = 'E' := by
    simp [danglingWords]
  simp only [isFirm, Bool.and_eq_true, Bool.not_eq_true'] at hc
  obtain ⟨⟨⟨-, hd⟩, hr⟩, he⟩ := hc
  rcases hletters t ht l hl with rfl | rfl | rfl
  · rw [hd] at hf; exact Bool.false_ne_true hf
  · rw [hr] at hf; exact Bool.false_ne_true hf
  · rw [he] at hf; exact Bool.false_ne_true hf

theorem EndsFirm.settled {s : List Char} (h : EndsFirm s) : Settled s := by
  obtain ⟨r, c, rfl, hc⟩ := h
  refine ⟨fun d hd => ?_, not_isDangling_of_isFirm hc, fun q d w hs _ hw => ?_⟩
  · obtain rfl : c = d := by simpa using hd
    exact not_isBlank_of_isFirm hc
  · rcases List.eq_nil_or_concat w with rfl | ⟨v, e, rfl⟩
    · exact hw.solid.1 rfl
    · have hlast := congrArg List.getLast? hs
      simp only [List.concat_eq_append, List.getLast?_append, List.getLast?_cons, List.getLast?_nil] at hlast
      obtain rfl : c = e := by simpa using hlast
      rw [List.concat_eq_append] at hw
      exact not_isDangling_of_isFirm hc hw

theorem isFirm_of_isDigit {c : Char} (h : c.isDigit = true) : isFirm c = true := by
  obtain ⟨hl, hu⟩ := Char.isDigit_iff_toNat.1 h
  have hl' : 48 ≤ c.toNat := hl
  have hu' : c.toNat ≤ 57 := hu
  have hletter : ∀ l : Char, 57 < l.toNat → l ≠ 'K' → foldsTo l c = false := by
    intro l hgt hk
    have hne : c ≠ l := by
      rintro rfl
      omega
    simp [foldsTo, toUpper_of_not_lower (c := c) (by omega), hne, hk]
  have hblank : Text.isBlank c = false := Text.not_isBlank_of_printed (by omega) (by omega)
  simp [isFirm, hblank, hletter 'D' (by decide) (by decide), hletter 'R' (by decide) (by decide),
    hletter 'E' (by decide) (by decide)]

theorem EndsFirm.intercalate {t : List Char} (h : EndsFirm t) (sep : List Char) (ps : List (List Char)) :
    EndsFirm (sep.intercalate (ps ++ [t])) := by
  induction ps with
  | nil => rwa [List.nil_append, List.intercalate_singleton]
  | cons p ps ih =>
    rw [List.cons_append, List.intercalate_cons_of_ne_nil (by simp)]
    exact ih.append _

theorem pieces_endsFirm {t : String} (h : EndsFirm t.toList) (fs : List String) (cs : List Connector) :
    EndsFirm ([' '].intercalate (pieces (fs ++ [t]) cs)) := by
  unfold pieces
  rw [List.zipIdx_append, List.flatMap_append, List.zipIdx_singleton, List.flatMap_singleton, ← List.append_assoc]
  exact h.trim.intercalate _ _

/-- a condition whose last fragment has a firm end is left as it is spelled out -/
theorem assemble_of_endsFirm {t : String} (h : EndsFirm t.toList) (fs : List String) (cs : List Connector) :
    assemble (fs ++ [t]) cs = String.ofList ([' '].intercalate (pieces (fs ++ [t]) cs)) := by
  rw [assemble, join_eq_pieces, stripEnd_of_settled (pieces_endsFirm h fs cs).settled]

/-- **Clause assembly is exact.** The condition is a prefix of the spelled-out text, cut at a blank; only
dangling words are cut off and none is left at the end. It is empty exactly when there was nothing else. -/
theorem assemble_exact (fs : List String) (cs : List Connector) :
    ∃ cut, [' '].intercalate (pieces fs cs) = (assemble fs cs).toList ++ cut ∧
      (∀ w ∈ Text.words cut, IsDangling w) ∧
      (assemble fs cs = "" ∨ cut = [] ∨ ∃ c r, cut = c :: r ∧ Text.isBlank c = true) ∧
      Settled (assemble fs cs).toList ∧
      (assemble fs cs = "" ↔ ∀ w ∈ Text.words ([' '].intercalate (pieces fs cs)), IsDangling w) := by
  have htext : (assemble fs cs).toList = stripEnd (join fs cs) := by simp [assemble]
  have hempty : assemble fs cs = "" ↔ stripEnd (join fs cs) = [] := by
    rw [← htext, String.toList_eq_nil_iff]
  obtain ⟨cut, hjoin, hcut⟩ := stripEnd_discards (join fs cs)
  have hsettled := stripEnd_settled (join fs cs)
  rw [htext, ← join_eq_pieces, hempty]
  refine ⟨cut, hjoin, hcut.words, or_iff_not_imp_left.2 hcut.atBlank, hsettled, fun hnil w hw => ?_,
    fun hw => ?_⟩
  · rw [hjoin, hnil, List.nil_append] at hw
    exact hcut.words w hw
  · rw [hjoin] at hw
    exact hsettled.eq_nil hcut.atBlank hw

end Filter

end FluentSql
