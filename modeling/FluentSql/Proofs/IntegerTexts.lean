import FluentSql.Proofs.IntegerReading
import FluentSql.Proofs.NameLists
/-!
Whole numbers of 64 bits as texts.

A number has one plain numeral: no plus, no zero in front of other digits, and no sign at zero (`eq_ofInt_iff`). That
numeral is what an integer is written as (`eq_literal_iff`). The reader of whole numbers takes it back, with the value
within 64 bits up to either end of the range (`readInt_integerText`), and white space around it is trimmed away
(`readInt_padded`). So a written integer never comes to be read as a real number, where digits could be lost.

Main result: `written_integer_read_back`.
-/

namespace FluentSql

namespace Decimal

/-! ## Digits -/

theorem digitsValue_toDigits (n : ℕ) : digitsValue (Nat.toDigits 10 n) = n := Nat.ofDigitChars_ten_toDigits

theorem digitsValue_concat (ds : List Char) (c : Char) :
    digitsValue (ds ++ [c]) = 10 * digitsValue ds + (c.toNat - 48) := by
  rw [digitsValue, List.foldl_append]
  rfl

theorem digitChar_of_isDigit {c : Char} (hc : c.isDigit = true) :
    c.toNat - 48 < 10 ∧ Nat.digitChar (c.toNat - 48) = c := by
  obtain ⟨hge, hle⟩ : 48 ≤ c.toNat ∧ c.toNat ≤ 57 := Char.isDigit_iff_toNat.1 hc
  have hlt : c.toNat - 48 < 10 := by omega
  refine ⟨hlt, Char.toNat_inj.1 ?_⟩
  rw [Nat.toNat_digitChar_of_lt_ten hlt]
  omega

theorem digitsValue_pos {c : Char} {r : List Char} (hdigit : c.isDigit = true) (hc : c ≠ '0') :
    0 < digitsValue (c :: r) := by
  rw [digitsValue_cons]
  have hone := one_le_digit hdigit hc
  positivity

/-- digits without a zero in front are the digits of their value -/
theorem toDigits_digitsValue {ds : List Char} (hne : ds ≠ []) (hds : ∀ c ∈ ds, c.isDigit = true)
    (hlead : ds.head? = some '0' → ds = ['0']) : Nat.toDigits 10 (digitsValue ds) = ds := by
  induction ds using List.reverseRecOn with
  | nil => exact absurd rfl hne
  | append_singleton r c ih =>
    obtain ⟨hlt, hchar⟩ := digitChar_of_isDigit (hds c (by simp))
    rw [digitsValue_concat]
    cases r with
    | nil =>
      have hzero : digitsValue [] = 0 := rfl
      rw [hzero, Nat.mul_zero, Nat.zero_add, Nat.toDigits_of_lt_base hlt, hchar, List.nil_append]
    | cons d r =>
      have hd : d ≠ '0' := by
        rintro rfl
        simpa using hlead rfl
      have hr := ih (List.cons_ne_nil d r) (fun x hx => hds x (List.mem_append_left _ hx))
        fun h => absurd (Option.some.inj h) hd
      have hpos : 0 < digitsValue (d :: r) := digitsValue_pos (hds d (by simp)) hd
      rw [← Nat.toDigits_append_toDigits (by decide) hpos hlt, hr, Nat.toDigits_of_lt_base hlt, hchar]

/-- only zero is written with a zero in front -/
theorem eq_zero_of_lead {n : ℕ} (h : (Nat.toDigits 10 n).head? = some '0') : n = 0 := by
  obtain ⟨r, hr⟩ := List.head?_eq_some_iff.1 h
  have hdigits : r.all Char.isDigit = true := List.all_eq_true.2 fun c hc =>
    Nat.isDigit_of_mem_toDigits (by decide) (by decide) (hr ▸ List.mem_cons_of_mem _ hc)
  have hvalue : digitsValue r = n := by
    have htail : digitsValue ('0' :: r) = digitsValue r := by simp [digitsValue_cons]
    rw [← htail, ← hr, digitsValue_toDigits]
  obtain rfl | hne := eq_or_ne r []
  · exact hvalue.symm
  · -- the tail holds the same number in fewer digits
    have hlength := (Nat.length_toDigits_le_iff (by decide) (List.length_pos_iff.2 hne)).2
      (hvalue ▸ digitsValue_lt hdigits)
    rw [hr, List.length_cons] at hlength
    omega

/-! ## The numeral of a number -/

namespace WholeNumeral

/-- written without anything to spare -/
structure Plain (w : WholeNumeral) : Prop where
  noPlus : w.sign ≠ .plus
  lead : w.digits.head? = some '0' → w.sign = .bare ∧ w.digits = ['0']

def ofInt (i : ℤ) : WholeNumeral where
  sign := if 0 ≤ i then .bare else .minus
  digits := Nat.toDigits 10 i.natAbs
  proper := by
    have hdigits : ∀ c ∈ Nat.toDigits 10 i.natAbs, c.isDigit = true := fun _ =>
      Nat.isDigit_of_mem_toDigits (by decide) (by decide)
    simpa [isDigits] using hdigits

theorem ofInt_value (i : ℤ) : (ofInt i).value = i := by
  rw [value, ofInt, digitsValue_toDigits]
  split_ifs with hi
  · exact Int.natAbs_of_nonneg hi
  · simp only [Sign.apply, Sign.negative, if_true]
    omega

theorem plain_ofInt (i : ℤ) : (ofInt i).Plain where
  noPlus := by
    have hsign : (ofInt i).sign = if 0 ≤ i then .bare else .minus := rfl
    rw [hsign]
    split_ifs <;> decide
  lead h := by
    obtain rfl : i = 0 := Int.natAbs_eq_zero.1 (eq_zero_of_lead h)
    exact ⟨rfl, rfl⟩

theorem Plain.eq_ofInt {w : WholeNumeral} (h : w.Plain) : w = ofInt w.value := by
  obtain ⟨sign, ds, hproper⟩ := w
  obtain ⟨hplus, hlead⟩ := h
  simp only [isDigits, Bool.and_eq_true, Bool.not_eq_true', List.isEmpty_eq_false_iff] at hproper
  have hds := List.all_eq_true.1 hproper.2
  have hdigits := toDigits_digitsValue hproper.1 hds fun hzero => (hlead hzero).2
  cases sign with
  | plus => exact absurd rfl hplus
  | bare => simp [ofInt, value, Sign.apply, Sign.negative, hdigits]
  | minus =>
    have hpos : 0 < digitsValue ds := by
      obtain ⟨c, r, rfl⟩ := List.exists_cons_of_ne_nil hproper.1
      refine digitsValue_pos (hds c List.mem_cons_self) ?_
      rintro rfl
      obtain ⟨hbare, -⟩ := hlead rfl
      cases hbare
    simp [ofInt, value, Sign.apply, Sign.negative, hdigits, hpos.ne']

/-- **One plain numeral for each number.** -/
theorem eq_ofInt_iff (w : WholeNumeral) (i : ℤ) : w = ofInt i ↔ w.Plain ∧ w.value = i := by
  constructor
  · rintro rfl
    exact ⟨plain_ofInt i, ofInt_value i⟩
  · rintro ⟨hplain, rfl⟩
    exact hplain.eq_ofInt

theorem text_ofInt (i : ℤ) : (ofInt i).text = (toString i).toList := by
  rw [Int.toString_eq_repr, Int.repr_eq_if, text, ofInt]
  split_ifs with hi
  · have habs : i.toNat = i.natAbs := by omega
    rw [Nat.toList_repr, habs]
    rfl
  · have habs : (-i).toNat = i.natAbs := by omega
    rw [String.toList_append, Nat.toList_repr, habs]
    rfl

/-- no white space within a numeral -/
theorem not_isBlank_of_mem_text {w : WholeNumeral} {c : Char} (hc : c ∈ w.text) : Text.isBlank c = false := by
  rcases List.mem_append.1 hc with hsign | hdigit
  · have hsolid : w.sign.text.all (fun c => !Text.isBlank c) = true := by
      cases w.sign <;> rfl
    simpa using List.all_eq_true.1 hsolid c hsign
  · obtain ⟨hge, hle⟩ : 48 ≤ c.toNat ∧ c.toNat ≤ 57 :=
      Char.isDigit_iff_toNat.1 (List.all_eq_true.1 w.all_digits c hdigit)
    exact Text.not_isBlank_of_printed (by omega) (by omega)

end WholeNumeral

end Decimal

/-! ## Written integers -/

namespace Value

open Decimal

theorem toList_integerText (i : Int64) : (integerText i).toList = (WholeNumeral.ofInt i.toInt).text :=
  (WholeNumeral.text_ofInt i.toInt).symm

theorem fitInt64_toInt (i : Int64) : fitInt64 i.toInt = some i := by
  have hge := i.le_toInt
  have hlt := i.toInt_lt
  rw [fitInt64, Int64.toInt_minValue, Int64.toInt_maxValue, if_pos (by omega), Int64.ofInt_toInt]

/-- the reader of whole numbers takes the number back, so that the reader of real numbers is not asked -/
theorem readInt_integerText (i : Int64) : (readInt (integerText i).toList).bind fitInt64 = some i := by
  rw [toList_integerText, WholeNumeral.readInt_text, WholeNumeral.ofInt_value, Option.bind_some, fitInt64_toInt]

theorem integerText_injective : Function.Injective integerText := by
  intro i j h
  have hread := readInt_integerText i
  rw [h, readInt_integerText] at hread
  exact (Option.some.inj hread).symm

/-- **An integer is written as its plain numeral.** -/
theorem eq_literal_iff (t : String) (i : Int64) :
    t = (Value.integer i).literal ↔ ∃ w : WholeNumeral, w.Plain ∧ w.text = t.toList ∧ w.value = i.toInt := by
  rw [literal, ← String.toList_inj, toList_integerText]
  constructor
  · intro ht
    exact ⟨_, WholeNumeral.plain_ofInt _, ht.symm, WholeNumeral.ofInt_value _⟩
  · rintro ⟨w, hplain, ht, hvalue⟩
    rw [← ht, (WholeNumeral.eq_ofInt_iff w i.toInt).2 ⟨hplain, hvalue⟩]

section

variable {a b : String}

theorem trim_padded (ha : Text.blank a = true) (hb : Text.blank b = true) (i : Int64) :
    Text.trimChars (a ++ integerText i ++ b).toList = (integerText i).toList := by
  rw [String.toList_append, String.toList_append, Text.trimChars_padded (List.all_eq_true.1 ha) (List.all_eq_true.1 hb),
    toList_integerText]
  exact Text.trimChars_of_solid fun c => WholeNumeral.not_isBlank_of_mem_text

theorem readInt_padded (ha : Text.blank a = true) (hb : Text.blank b = true) (i : Int64) :
    (readInt (Text.trimChars (a ++ integerText i ++ b).toList)).bind fitInt64 = some i := by
  rw [trim_padded ha hb, readInt_integerText]

theorem asInt_padded (ha : Text.blank a = true) (hb : Text.blank b = true) (i : Int64) :
    (Value.text (a ++ integerText i ++ b)).asInt = some i := by
  rw [asInt, readInteger, readInt_padded ha hb]

end

/-- **A written integer is read back.** The literal of an integer is its text, and the plain numeral of its value, so no two
integers have one literal. With white space around it the text is read as that integer by the reader of whole numbers, at
either end of the range too; so it is by a scalar, and from any record that holds it. -/
theorem written_integer_read_back (i : Int64) :
    (Value.integer i).asText = some (Value.integer i).literal ∧
    (∀ t : String, t = (Value.integer i).literal ↔
      ∃ w : WholeNumeral, w.Plain ∧ w.text = t.toList ∧ w.value = i.toInt) ∧
    (∀ j, (Value.integer j).literal = (Value.integer i).literal → j = i) ∧
    ∀ a b : String, Text.blank a = true → Text.blank b = true →
      let s := a ++ (Value.integer i).literal ++ b
      (readInt (Text.trimChars s.toList)).bind fitInt64 = some i ∧
      (Value.text s).asInt = some i ∧
      (∀ column, Scalar.convert column .int (.text s) = .ok (some (.int i))) ∧
      ∀ (r : Record) (column : String), r.get? column = some (.text s) → r.getInt64? column = some i := by
  refine ⟨rfl, fun t => eq_literal_iff t i, fun j hj => integerText_injective hj, fun a b ha hb => ?_⟩
  intro s
  have hread : (Value.text s).asInt = some i := asInt_padded ha hb i
  refine ⟨readInt_padded ha hb i, hread, fun column => ?_, fun r column hcell => ?_⟩
  · simp [Scalar.convert, isNull, Scalar.ofValue?, hread]
  · rw [Record.getInt64?, hcell, Option.bind_some, hread]

/-- the least integer, and an ideographic space in front of it -/
theorem least_integer_read_back :
    let s := "\u3000\t-9223372036854775808\n"
    let r := Record.ofList [("n", .text s)]
    Text.blank "\u3000\t" = true ∧ Text.blank "\n" = true ∧ r.get? "n" = some (.text s) ∧
    (Value.integer Int64.minValue).literal = "-9223372036854775808" ∧
    (Value.text s).asInt = some Int64.minValue ∧ r.getInt64? "n" = some Int64.minValue := by
  intro s r
  have hfront : Text.blank "\u3000\t" = true := by decide
  have hbehind : Text.blank "\n" = true := by decide
  have hliteral : (Value.integer Int64.minValue).literal = "-9223372036854775808" := by decide +kernel
  have hs : "\u3000\t" ++ (Value.integer Int64.minValue).literal ++ "\n" = s := by rw [hliteral]; decide
  obtain ⟨-, -, -, hpadded⟩ := written_integer_read_back Int64.minValue
  obtain ⟨-, hread, -, hrecord⟩ := hpadded "\u3000\t" "\n" hfront hbehind
  rw [hs] at hread hrecord
  exact ⟨hfront, hbehind, rfl, hliteral, hread, hrecord r "n" rfl⟩

/-- so is the greatest, whose successor is out of range -/
example : (Value.text "9223372036854775807").asInt = some Int64.maxValue := by decide +kernel

end Value

end FluentSql
