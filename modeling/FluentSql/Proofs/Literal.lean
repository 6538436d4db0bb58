import FluentSql.Proofs.Clause
/-!
How literals end. A number ends with a digit, a text or a byte string with a quote, and null with an L, so no
literal ends with a blank or with the last letter of a dangling word (`Value.literal_endsFirm`), and neither
does what a comparison writes (`Comparison.fragment_endsFirm`).

The text inside a literal plays no part: it stands in front of the closing quote.
-/

namespace FluentSql

open FluentSql.Filter (EndsFirm isFirm isFirm_of_isDigit)

/-! ## Null and numbers -/

theorem null_endsFirm : EndsFirm "NULL".toList := ⟨['N', 'U', 'L'], 'L', by decide, by decide⟩

theorem endsFirm_of_digits {ds : List Char} (hne : ds ≠ []) (h : ∀ c ∈ ds, c.isDigit = true) : EndsFirm ds := by
  rcases List.eq_nil_or_concat ds with rfl | ⟨r, c, rfl⟩
  · exact absurd rfl hne
  · exact ⟨r, c, List.concat_eq_append .., isFirm_of_isDigit (h c (by simp))⟩

namespace Decimal

theorem isDigit_of_mem_decimalDigits {n : Nat} {c : Char} (h : c ∈ decimalDigits n) : c.isDigit = true :=
  Nat.isDigit_of_mem_toDigits (by decide) (by decide) h

theorem decimalDigits_ne_nil (n : Nat) : decimalDigits n ≠ [] := Nat.toDigits_ne_nil

theorem isDigit_of_mem_zeros {n : Nat} {c : Char} (h : c ∈ zeros n) : c.isDigit = true := by
  rw [List.eq_of_mem_replicate h]; rfl

/-- without `.0` behind whole numbers, a positional numeral ends with a digit -/
theorem writePositional_endsFirm (d : Scaled) : EndsFirm (writePositional false d) := by
  have hds := decimalDigits_ne_nil d.coefficient
  unfold writePositional
  by_cases he : 0 ≤ d.exponent
  · rw [if_pos he, if_neg Bool.false_ne_true, List.append_nil]
    refine endsFirm_of_digits (by simp [hds]) fun c hc => ?_
    rcases List.mem_append.1 hc with hc | hc
    · exact isDigit_of_mem_decimalDigits hc
    · exact isDigit_of_mem_zeros hc
  · rw [if_neg he]
    have hpart : EndsFirm (zeros ((-d.exponent).toNat - (decimalDigits d.coefficient).length) ++
        (decimalDigits d.coefficient).drop ((decimalDigits d.coefficient).length - (-d.exponent).toNat)) := by
      refine endsFirm_of_digits (fun hnil => ?_) fun c hc => ?_
      · have hdrop := List.drop_eq_nil_iff.1 (List.append_eq_nil_iff.1 hnil).2
        have hpos := List.length_pos_iff.2 hds
        omega
      · rcases List.mem_append.1 hc with hc | hc
        · exact isDigit_of_mem_zeros hc
        · exact isDigit_of_mem_decimalDigits (List.mem_of_mem_drop hc)
    exact (hpart.append ['.']).append _

/-- plain text of a real number ends with a digit or with the last letter of `inf` or `NaN` -/
theorem plain_write_endsFirm (f : Format) (negative isNan : Bool) (bits : Nat) :
    EndsFirm (plain.write f negative isNan bits).toList := by
  unfold Style.write
  cases isNan with
  | true =>
    change EndsFirm "NaN".toList
    exact ⟨['N', 'a'], 'N', by decide, by decide⟩
  | false =>
    rw [if_neg Bool.false_ne_true]
    cases f.decode bits with
    | none =>
      cases negative with
      | true =>
        change EndsFirm "-inf".toList
        exact ⟨['-', 'i', 'n'], 'f', by decide, by decide⟩
      | false =>
        change EndsFirm "inf".toList
        exact ⟨['i', 'n'], 'f', by decide, by decide⟩
    | some b =>
      rw [String.toList_ofList]
      exact (writePositional_endsFirm _).append _

end Decimal

/-! ## Literals -/

namespace Value

theorem integerText_endsFirm (i : Int64) : EndsFirm (integerText i).toList := by
  have hdigits : ∀ n : Nat, EndsFirm n.repr.toList := fun n => by
    rw [Nat.toList_repr]
    exact endsFirm_of_digits Nat.toDigits_ne_nil fun c hc => Nat.isDigit_of_mem_toDigits (by decide) (by decide) hc
  rw [integerText, Int.toString_eq_repr, Int.repr_eq_if]
  split_ifs
  · exact hdigits _
  · rw [String.toList_append]
    exact (hdigits _).append _

theorem realLiteral_endsFirm (x : Float) : EndsFirm (realLiteral x).toList := by
  unfold realLiteral
  split_ifs
  · exact null_endsFirm
  · exact ⟨['9', 'e', '9', '9'], '9', by decide, by decide⟩
  · exact ⟨['-', '9', 'e', '9', '9'], '9', by decide, by decide⟩
  · exact Decimal.plain_write_endsFirm ..

theorem literal_endsFirm (v : Value) : EndsFirm v.literal.toList := by
  have hquote : EndsFirm ['\''] := ⟨[], '\'', rfl, by decide⟩
  cases v with
  | null => exact null_endsFirm
  | integer i => exact integerText_endsFirm i
  | real x => exact realLiteral_endsFirm x
  | text s =>
    rw [literal, String.toList_append]
    exact hquote.append _
  | boolean b => cases b <;> exact ⟨[], _, rfl, by decide⟩
  | blob bytes =>
    rw [literal, blobLiteral, String.toList_ofList]
    exact hquote.append (_ :: _ :: _)

end Value

/-- no comparison ends with a blank or a dangling word, whatever its field and value -/
theorem Comparison.fragment_endsFirm (c : Comparison) (field : String) (v : Value) :
    EndsFirm (c.fragment field v).toList := by
  unfold Comparison.fragment
  split
  · rw [String.toList_append]
    exact (null_endsFirm.append " IS ".toList).append field.toList
  · rw [String.toList_append]
    exact (null_endsFirm.append " IS NOT ".toList).append field.toList
  · rw [String.toList_append]
    exact v.literal_endsFirm.append _

end FluentSql
