import FluentSql.Journal
/-!
The text in the report of a statement, and the place where it is cut.

A place in a text is counted in bytes, and it is a boundary if a character starts or the text ends there. The search for
the last boundary up to a limit goes back byte by byte (`lastBoundary`). It finds the greatest one there is
(`lastBoundary_isValid`, `le_lastBoundary`), and that is where the whole characters within the limit end
(`utf8ByteSize_takeBytes`).

Main result: `reported_text`.
-/

namespace FluentSql

namespace Text

/-! ## Boundaries -/

/-- the last place up to `n` where no character is cut, looked for from `n` backwards -/
def lastBoundary (s : String) : Nat → Nat
  | 0 => 0
  | n + 1 => if String.Pos.Raw.isValid s ⟨n + 1⟩ then n + 1 else lastBoundary s n

theorem lastBoundary_le (s : String) (n : Nat) : lastBoundary s n ≤ n := by
  induction n with
  | zero => exact Nat.le_refl _
  | succ n ih =>
    rw [lastBoundary]
    split
    · exact Nat.le_refl _
    · exact Nat.le_succ_of_le ih

/-- the search never stops inside a character -/
theorem lastBoundary_isValid (s : String) (n : Nat) : String.Pos.Raw.IsValid s ⟨lastBoundary s n⟩ := by
  induction n with
  | zero => exact String.Pos.Raw.isValid_zero
  | succ n ih =>
    rw [lastBoundary]
    split
    · rename_i hvalid
      exact String.Pos.Raw.isValid_eq_true_iff.1 hvalid
    · exact ih

/-- the search passes over no boundary -/
theorem le_lastBoundary {s : String} {n k : Nat} (hvalid : String.Pos.Raw.IsValid s ⟨k⟩) (hk : k ≤ n) :
    k ≤ lastBoundary s n := by
  induction n with
  | zero => exact hk
  | succ n ih =>
    rw [lastBoundary]
    split
    · exact hk
    · rename_i hcut
      refine ih (Nat.le_of_lt_succ (Nat.lt_of_le_of_ne hk ?_))
      rintro rfl
      exact hcut (String.Pos.Raw.isValid_eq_true_iff.2 hvalid)

theorem isValid_iff_exists_head {s : String} {k : Nat} :
    String.Pos.Raw.IsValid s ⟨k⟩ ↔ ∃ head, head <+: s.toList ∧ byteCount head = k := by
  rw [String.Pos.Raw.isValid_iff_exists_append]
  constructor
  · rintro ⟨p, q, rfl, hk⟩
    refine ⟨p.toList, ?_, ?_⟩
    · rw [String.toList_append]
      exact List.prefix_append _ _
    · rw [← utf8ByteSize_eq]
      exact (congrArg String.Pos.Raw.byteIdx hk).symm
  · rintro ⟨head, ⟨rest, hs⟩, rfl⟩
    refine ⟨String.ofList head, String.ofList rest, ?_, ?_⟩
    · rw [← String.ofList_append, hs, String.ofList_toList]
    · rw [← utf8ByteSize_ofList]
      rfl

/-- **The whole characters within a limit end at the last boundary up to it.** -/
theorem utf8ByteSize_takeBytes (s : String) (limit : Nat) :
    (String.ofList (takeBytes limit s.toList)).utf8ByteSize = lastBoundary s limit := by
  rw [utf8ByteSize_ofList]
  apply Nat.le_antisymm
  · exact le_lastBoundary (isValid_iff_exists_head.2 ⟨_, takeBytes_prefix limit s.toList, rfl⟩) (byteCount_takeBytes _ _)
  · obtain ⟨head, hhead, hsize⟩ := isValid_iff_exists_head.1 (lastBoundary_isValid s limit)
    have hfits : byteCount head ≤ limit := hsize ▸ lastBoundary_le s limit
    obtain ⟨rest, hrest⟩ := (prefix_takeBytes_iff limit hhead).2 hfits
    rw [← hsize, ← hrest, byteCount_append]
    exact Nat.le_add_right _ _

/-- `p` is what stands in front of the last boundary up to the limit, and the longest beginning of whole characters that
is within it -/
structure LongestWithin (limit : Nat) (s p : String) : Prop where
  start : ∃ rest, s = p ++ rest
  size : p.utf8ByteSize = lastBoundary s limit
  fits : p.utf8ByteSize ≤ limit
  longest : ∀ q rest, s = q ++ rest → q.utf8ByteSize ≤ limit → ∃ more, p = q ++ more

theorem exists_append_iff {p s : String} : (∃ rest, s = p ++ rest) ↔ p.toList <+: s.toList := by
  constructor
  · rintro ⟨rest, rfl⟩
    rw [String.toList_append]
    exact List.prefix_append _ _
  · rintro ⟨rest, hrest⟩
    exact ⟨String.ofList rest, by rw [← String.toList_inj, String.toList_append, String.toList_ofList, hrest]⟩

theorem takeBytes_longest (limit : Nat) (s : String) :
    LongestWithin limit s (String.ofList (takeBytes limit s.toList)) where
  start := by
    rw [exists_append_iff, String.toList_ofList]
    exact takeBytes_prefix limit s.toList
  size := utf8ByteSize_takeBytes s limit
  fits := by
    rw [utf8ByteSize_ofList]
    exact byteCount_takeBytes limit s.toList
  longest q rest hs hfits := by
    rw [exists_append_iff, String.toList_ofList]
    rw [utf8ByteSize_eq] at hfits
    exact (prefix_takeBytes_iff limit (exists_append_iff.1 ⟨rest, hs⟩)).2 hfits

end Text

/-! ## The report -/

namespace StatementLog

theorem cut_within {c : StatementLog} {sql : String} (h : ∀ limit, c.maxLength = some limit → sql.utf8ByteSize ≤ limit) :
    c.cut sql = sql := by
  unfold cut
  split
  · rename_i limit hlimit
    rw [if_neg (Nat.not_lt.2 (h limit hlimit))]
  · rfl

theorem cut_beyond {c : StatementLog} {sql : String} {limit : Nat} (hlimit : c.maxLength = some limit)
    (h : limit < sql.utf8ByteSize) : c.cut sql = String.ofList (Text.takeBytes limit sql.toList) ++ "..." := by
  simp only [cut, hlimit, if_pos h, String.ofList_append]

/-- **The text that a report tells.** With reports on, the text told is the statement itself if it is within the limit or
there is none. Else it is cut, with three dots behind: at the last boundary up to the limit, which the search backwards
finds and which is inside no character, so that the longest beginning of whole characters within the limit is left. -/
theorem reported_text (c : StatementLog) (database sql : String) (parameters : Nat) :
    ((c.report? database sql parameters).map fun e => e.fields.lookup "sql") =
      (if c.enabled then some (some (c.cut sql)) else none) ∧
    ((∀ limit, c.maxLength = some limit → sql.utf8ByteSize ≤ limit) → c.cut sql = sql) ∧
    ∀ limit, c.maxLength = some limit → limit < sql.utf8ByteSize →
      ∃ p, c.cut sql = p ++ "..." ∧ Text.LongestWithin limit sql p ∧
        String.Pos.Raw.IsValid sql ⟨Text.lastBoundary sql limit⟩ := by
  refine ⟨?_, cut_within, fun limit hlimit hlong => ?_⟩
  · unfold report?
    split
    · rfl
    · rfl
  · exact ⟨_, cut_beyond hlimit hlong, Text.takeBytes_longest limit sql, Text.lastBoundary_isValid sql limit⟩

/-- a limit inside the second character leaves the first one, and a limit of nothing leaves the dots -/
theorem accents_cut :
    ((standard.withMaxLength 2).maxLength = some 2 ∧ 2 < "héllo".utf8ByteSize) ∧
    (((standard.withMaxLength 2).report? "app.db" "héllo" 0).map fun e => e.fields.lookup "sql") =
      some (some "h...") ∧
    Text.LongestWithin 2 "héllo" "h" ∧
    (∃ p, (standard.withMaxLength 0).cut "€" = p ++ "..." ∧ Text.LongestWithin 0 "€" p) ∧
    (standard.withMaxLength 6).cut "héllo" = "héllo" := by
  have hlong : 2 < "héllo".utf8ByteSize := by decide
  obtain ⟨htold, -, hcut⟩ := reported_text (standard.withMaxLength 2) "app.db" "héllo" 0
  obtain ⟨p, hp, hlongest, -⟩ := hcut 2 rfl hlong
  have htext : (standard.withMaxLength 2).cut "héllo" = "h" ++ "..." := by decide
  obtain rfl : "h" = p := by
    have hdots : "h".toList ++ "...".toList = p.toList ++ "...".toList := by
      rw [← String.toList_append, ← String.toList_append, ← htext, hp]
    exact String.toList_inj.1 (List.append_cancel_right hdots)
  obtain ⟨q, hq, hshortest, -⟩ := (reported_text (standard.withMaxLength 0) "app.db" "€" 0).2.2 0 rfl (by decide)
  refine ⟨⟨rfl, hlong⟩, htold.trans (by rw [htext]; rfl), hlongest, ⟨q, hq, hshortest⟩, ?_⟩
  refine (reported_text (standard.withMaxLength 6) "app.db" "héllo" 0).2.1 fun limit hlimit => ?_
  cases hlimit
  decide

end StatementLog

end FluentSql
