import FluentSql.Embedded.Provider
/-!
Names of files in a directory, and the paths that they make. A path below a directory that is named by an ordinary
text is the path of a file for the engine, too (`NamesDirectory.join_ordinary`). A file belongs to another one if it
has its name with an ending; it belongs to one at most (`sidecar_owner`).
-/

namespace FluentSql

namespace Text.Path

/-- a name of a file: not empty, without slashes, and not one of the two that stand for directories -/
structure Plain (name : String) : Prop where
  noSlash : '/' ∉ name.toList
  ne_empty : name ≠ ""
  ne_here : name ≠ "."
  ne_above : name ≠ ".."

theorem Plain.not_absolute {name : String} (h : Plain name) : isAbsolute name = false := by
  unfold isAbsolute
  cases hl : name.toList with
  | nil => rfl
  | cons c r =>
    have hc : c ≠ '/' := fun hc => h.noSlash (by simp [hl, hc])
    simp [hc]

/-- a name with an ending of several characters is as plain as the name -/
theorem Plain.append {name ending : String} (h : Plain name) (hslash : '/' ∉ ending.toList)
    (hlong : 2 < ending.length) : Plain (name ++ ending) := by
  have hne : ∀ other : String, other.length ≤ 2 → name ++ ending ≠ other := by
    intro other hshort heq
    have hlength := congrArg String.length heq
    rw [String.length_append] at hlength
    omega
  refine ⟨?_, hne "" (by decide), hne "." (by decide), hne ".." (by decide)⟩
  rw [String.toList_append, List.mem_append]
  exact fun hmem => hmem.elim h.noSlash hslash

/-- the path of a file for the engine: not empty, not the word for memory, and no address -/
structure IsOrdinary (path : String) : Prop where
  ne_empty : path ≠ ""
  ne_memory : path ≠ ":memory:"
  no_scheme : ¬ "file:".toList <+: path.toList

/-- the text of a directory below which every path is ordinary -/
structure NamesDirectory (dir : String) : Prop where
  ne_empty : dir ≠ ""
  no_scheme : ¬ "file:".toList <+: dir.toList

/-- a path below a directory begins with the directory and a slash, or with a slash if it is absolute -/
theorem join_toList (dir path : String) (hdir : dir ≠ "") :
    ∃ start rest, (join dir path).toList = start ++ rest ∧ '/' ∈ start ∧
      (start = ['/'] ∨ start = dir.toList ∨ start = dir.toList ++ ['/']) := by
  unfold join
  split
  · rename_i habsolute
    cases hl : path.toList with
    | nil => simp [isAbsolute, hl] at habsolute
    | cons c r =>
      have hc : c = '/' := by simpa [isAbsolute, hl] using habsolute
      exact ⟨['/'], r, by rw [hc]; rfl, List.mem_singleton_self _, .inl rfl⟩
  · split
    · rename_i hends
      have hempty : dir.isEmpty = false := by simpa using hdir
      have hlast : dir.toList.getLast? = some '/' := by simpa [hempty] using hends
      exact ⟨dir.toList, path.toList, String.toList_append, List.mem_of_getLast? hlast, .inr (.inl rfl)⟩
    · refine ⟨dir.toList ++ ['/'], path.toList, ?_, by simp, .inr (.inr rfl)⟩
      rw [String.toList_append, String.toList_append]
      rfl

/-- **Paths below a directory are ordinary.** -/
theorem NamesDirectory.join_ordinary {dir : String} (h : NamesDirectory dir) (path : String) :
    IsOrdinary (join dir path) := by
  obtain ⟨start, rest, hjoin, hslash, hstart⟩ := join_toList dir path h.ne_empty
  have hmem : '/' ∈ (join dir path).toList := by
    rw [hjoin]
    exact List.mem_append_left rest hslash
  have hne : ∀ other : String, '/' ∉ other.toList → join dir path ≠ other := fun other hother heq =>
    hother (heq ▸ hmem)
  refine ⟨hne "" (by decide), hne ":memory:" (by decide), fun hscheme => ?_⟩
  rw [hjoin] at hscheme
  rcases List.prefix_or_prefix_of_prefix hscheme (List.prefix_append start rest) with hshort | hlong
  · rcases hstart with rfl | rfl | rfl
    · exact absurd hshort (by decide)
    · exact h.no_scheme hshort
    · rcases List.prefix_concat_iff.1 hshort with hsame | hbefore
      · have hlast := congrArg List.getLast? hsame
        rw [List.getLast?_concat] at hlast
        exact absurd hlast (by decide)
      · exact h.no_scheme hbefore
  · exact absurd (hlong.mem hslash) (by decide)

end Text.Path

namespace Embedded

open Text.Path

/-! ## Files beside others -/

theorem isSidecar_append (name : String) {ending : String} (h : ending ∈ sidecarEndings) :
    isSidecar (name ++ ending) = true := by
  refine List.any_eq_true.2 ⟨ending, h, ?_⟩
  rw [String.toList_append, List.reverse_append, List.isPrefixOf_iff_prefix]
  exact List.prefix_append _ _

/-- the endings are plain, so a name with one is as plain as the name -/
theorem plain_sidecar {name ending : String} (h : Plain name) (hending : ending ∈ sidecarEndings) :
    Plain (name ++ ending) := by
  have hfit : ∀ e ∈ sidecarEndings, '/' ∉ e.toList ∧ 2 < e.length := by decide
  exact h.append (hfit ending hending).1 (hfit ending hending).2

/-- no ending ends with another one -/
theorem sidecarEndings_apart : ∀ e ∈ sidecarEndings, ∀ f ∈ sidecarEndings, e.toList <:+ f.toList → e = f := by decide

/-- **A file belongs to one other file at most.** -/
theorem sidecar_owner {n m e f : String} (he : e ∈ sidecarEndings) (hf : f ∈ sidecarEndings) (h : n ++ e = m ++ f) :
    n = m := by
  have hlist : n.toList ++ e.toList = m.toList ++ f.toList := by
    rw [← String.toList_append, ← String.toList_append, h]
  have hsame : e = f := by
    have hsuffix : f.toList <:+ n.toList ++ e.toList := hlist ▸ List.suffix_append m.toList f.toList
    rcases List.suffix_or_suffix_of_suffix (List.suffix_append n.toList e.toList) hsuffix with hef | hfe
    · exact sidecarEndings_apart e he f hf hef
    · exact (sidecarEndings_apart f hf e he hfe).symm
  subst hsame
  exact String.ext (List.append_cancel_right hlist)

/-- names of two files, neither of which is the other one or belongs to it -/
structure Apart (n m : String) : Prop where
  ne : n ≠ m
  notBeside : ∀ e ∈ sidecarEndings, n ≠ m ++ e
  notBesideOf : ∀ e ∈ sidecarEndings, m ≠ n ++ e

end Embedded

end FluentSql
