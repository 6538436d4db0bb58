import Mathlib
import FluentSql.Record
import FluentSql.Scalar
import FluentSql.Proofs.Numerals
import FluentSql.Proofs.Rounding
/-!
Texts that are read as a whole number, by a scalar or from a record.

A text is read as a double when it is no whole number of 64 bits, and the double is cut and clamped. Doubles are
followed through their bits (`cutInt64_magnitude`): the order that rounding keeps (`Format.Faithful`), cutting and
clamping keep as well (`Keeps`). The main result (`text_read_as_integer`) says which texts have a number, which number
that is, and which texts are never given a number that they do not denote (`Honest`).
-/

namespace FluentSql

open Decimal

/-! ## Doubles by their bits -/

namespace Decimal

theorem double_infinity : double.infinity = 2047 * 2 ^ 52 := rfl

/-- bits up to infinity are no bits of NaN -/
theorem valid_of_le_infinity {b : BitVec 64} (h : b.toNat % 2 ^ 63 ≤ double.infinity) :
    Float.Model.Format.binary64.Valid b := by
  constructor
  intro hexponent hmantissa
  exfalso
  apply hmantissa
  apply BitVec.eq_of_toNat_eq
  have hones := congrArg BitVec.toNat hexponent
  have hallOnes : (-BitVec.ofNat Float.Model.Format.binary64.exponentBits 1).toNat = 2047 := by decide
  rw [double_infinity] at h
  rw [Float.Model.UnpackedFloat.unpackExponent_def, BitVec.extractLsb'_toNat, hallOnes] at hones
  rw [Float.Model.UnpackedFloat.unpackMantissa_def, BitVec.extractLsb'_toNat]
  simp only [Nat.shiftRight_eq_div_pow] at hones
  simp only [Nat.shiftRight_zero, BitVec.toNat_ofNat, Nat.zero_mod]
  omega

theorem toBits_ofBits {b : UInt64} (h : b.toNat % 2 ^ 63 ≤ double.infinity) : (Float.ofBits b).toBits = b := by
  have hpack := Float.Model.UnpackedFloat.pack_unpack_of_valid (valid_of_le_infinity h)
  simp only [Float.ofBits, Float.toBits, Float.Model.ofBits, Float.Model.pack, hpack]

theorem signedFloat_toBits (sign : Sign) {bits : ℕ} (h : bits ≤ double.infinity) :
    (signedFloat sign bits).toBits.toNat = bits + if sign.negative then 2 ^ 63 else 0 := by
  have hinfinity := double_infinity
  have hbits : (UInt64.ofNat (bits + if sign.negative then 2 ^ 63 else 0)).toNat
      = bits + if sign.negative then 2 ^ 63 else 0 := by
    rw [UInt64.toNat_ofNat']
    exact Nat.mod_eq_of_lt (by split <;> omega)
  rw [signedFloat, toBits_ofBits, hbits]
  rw [hbits]
  split <;> omega

end Decimal

/-- the whole number that a word is read as before clamping -/
def Decimal.Word.limit : Word → ℤ
  | infinity => 2 ^ 63
  | nan => 0

namespace Value

/-! ## Clamping and cutting -/

theorem toInt_clampInt64 (i : ℤ) : (clampInt64 i).toInt = max (-2 ^ 63) (min i (2 ^ 63 - 1)) := by
  unfold clampInt64
  rw [Int64.toInt_minValue, Int64.toInt_maxValue]
  split_ifs
  · rw [Int64.toInt_minValue]
    omega
  · rw [Int64.toInt_maxValue]
    omega
  · rw [Int64.toInt_ofInt_of_le (by omega) (by omega)]
    omega

theorem clampInt64_mono {i j : ℤ} (h : i ≤ j) : clampInt64 i ≤ clampInt64 j := by
  rw [Int64.le_iff_toInt_le, toInt_clampInt64, toInt_clampInt64]
  omega

theorem fitInt64_eq (i : ℤ) :
    fitInt64 i = if Int64.minValue.toInt ≤ i ∧ i ≤ Int64.maxValue.toInt then some (clampInt64 i) else none := by
  unfold fitInt64 clampInt64
  split_ifs <;> first | rfl | omega

theorem floor_eq (b : Binary) : b.floor = ⌊b.value⌋₊ := by
  have hratio := scaled_ratio b.mantissa 2 b.exponent
  rw [Nat.cast_ofNat] at hratio
  rw [Binary.value, hratio, Nat.floor_div_eq_div, Binary.floor]

theorem cutInt64_finite (sign : Sign) {bits : ℕ} {b : Binary} (h : double.decode bits = some b) :
    cutInt64 (signedFloat sign bits) = clampInt64 (sign.apply (b.floor : ℤ)) := by
  have hlt := Format.lt_infinity_of_decode double_proper h
  have hinfinity := double_infinity
  have hmod : (bits + if sign.negative then 2 ^ 63 else 0) % 2 ^ 63 = bits := by split <;> omega
  have hsign : (2 ^ 63 ≤ bits + if sign.negative then 2 ^ 63 else 0) ↔ sign.negative = true := by
    cases sign.negative <;> simp; omega
  simp only [cutInt64, signedFloat_toBits sign hlt.le, hmod, h, hsign, Sign.apply]

theorem cutInt64_word (sign : Sign) (w : Word) :
    cutInt64 (signedFloat sign w.bits) = clampInt64 (sign.apply w.limit) := by
  cases sign <;> cases w <;> decide

/-- cutting keeps the order that rounding keeps -/
theorem cutInt64_magnitude {v : ℚ} {bits : ℕ} (hv : double.Faithful v bits) (sign : Sign) :
    ∃ n : ℕ, cutInt64 (signedFloat sign bits) = clampInt64 (sign.apply (n : ℤ)) ∧
      ∀ u, double.OnGrid u → (u ≤ v → min ⌊u⌋₊ (2 ^ 63) ≤ n) ∧ (v ≤ u → n ≤ ⌊u⌋₊) := by
  obtain ⟨b, hb, hfaithful⟩ | ⟨rfl, hbeyond⟩ := hv
  · refine ⟨b.floor, cutInt64_finite sign hb, fun u hu => ?_⟩
    rw [floor_eq]
    constructor
    · intro hle
      exact (min_le_left ..).trans (Nat.floor_mono ((hfaithful u hu).1 hle))
    · intro hle
      exact Nat.floor_mono ((hfaithful u hu).2 hle)
  · refine ⟨2 ^ 63, cutInt64_word sign .infinity, fun u hu => ⟨fun _ => min_le_right .., fun hle => ?_⟩⟩
    refine Nat.le_floor ?_
    calc ((2 ^ 63 : ℕ) : ℚ) = 2 ^ (63 : ℤ) := by norm_num
      _ ≤ 2 ^ (1024 : ℤ) := zpow_le_zpow_right₀ (by norm_num) (by norm_num)
      _ ≤ u := hbeyond u hu hle

/-- a number without what stands behind its point -/
def wholePart (u : ℚ) : ℤ := if u < 0 then ⌈u⌉ else ⌊u⌋

theorem wholePart_le {u : ℚ} {i : ℤ} (h : u ≤ i) : wholePart u ≤ i := by
  unfold wholePart
  split_ifs
  · exact Int.ceil_le.2 h
  · exact_mod_cast (Int.floor_le u).trans h

theorem le_wholePart {u : ℚ} {i : ℤ} (h : (i : ℚ) ≤ u) : i ≤ wholePart u := by
  unfold wholePart
  split_ifs
  · exact_mod_cast h.trans (Int.le_ceil u)
  · exact Int.le_floor.2 h

theorem wholePart_intCast (i : ℤ) : wholePart i = i := le_antisymm (wholePart_le le_rfl) (le_wholePart le_rfl)

theorem wholePart_of_nonneg {u : ℚ} (h : 0 ≤ u) : wholePart u = ⌊|u|⌋₊ := by
  rw [wholePart, if_neg (not_lt.2 h), abs_of_nonneg h, Int.natCast_floor_eq_floor h]

theorem wholePart_of_nonpos {u : ℚ} (h : u ≤ 0) : wholePart u = -(⌊|u|⌋₊ : ℤ) := by
  rw [abs_of_nonpos h, Int.natCast_floor_eq_floor (neg_nonneg.2 h), Int.floor_neg, neg_neg, wholePart]
  split_ifs with hlt
  · rfl
  · obtain rfl : u = 0 := le_antisymm h (not_lt.1 hlt)
    simp

/-- a 64-bit number lies between what the doubles on either side of an exact value become -/
def Keeps (v : ℚ) (i : Int64) : Prop :=
  ∀ u : ℚ, double.OnGrid |u| →
    (u ≤ v → clampInt64 (wholePart u) ≤ i) ∧ (v ≤ u → i ≤ clampInt64 (wholePart u))

theorem keeps_clampInt64 (i : ℤ) : Keeps i (clampInt64 i) :=
  fun _ _ => ⟨fun hle => clampInt64_mono (wholePart_le hle), fun hle => clampInt64_mono (le_wholePart hle)⟩

/-- a value that a double holds loses what stands behind its point, and nothing else within 64 bits -/
theorem Keeps.exact {v : ℚ} {i : Int64} (h : Keeps v i) (hv : double.OnGrid |v|) : i = clampInt64 (wholePart v) :=
  Int64.le_antisymm ((h v hv).2 le_rfl) ((h v hv).1 le_rfl)

theorem keeps_cutInt64 {v : ℚ} {bits : ℕ} (hpos : 0 ≤ v) (hv : double.Faithful v bits) (sign : Sign) :
    Keeps (sign.apply v) (cutInt64 (signedFloat sign bits)) := by
  intro u hu
  obtain ⟨n, hn, hkeeps⟩ := cutInt64_magnitude hv sign
  obtain ⟨hbelow, habove⟩ := hkeeps |u| hu
  rw [hn, Int64.le_iff_toInt_le, Int64.le_iff_toInt_le, toInt_clampInt64, toInt_clampInt64, Sign.apply, Sign.apply]
  -- under a minus sign the two bounds on the magnitude change places
  cases sign.negative
  · simp only [Bool.false_eq_true, if_false]
    constructor
    · intro hle
      obtain hu0 | hu0 := le_total 0 u
      · have := hbelow (by rwa [abs_of_nonneg hu0])
        rw [wholePart_of_nonneg hu0]
        omega
      · rw [wholePart_of_nonpos hu0]
        omega
    · intro hle
      have hu0 : 0 ≤ u := hpos.trans hle
      have := habove (by rwa [abs_of_nonneg hu0])
      rw [wholePart_of_nonneg hu0]
      omega
  · simp only [if_true]
    constructor
    · intro hle
      have hu0 : u ≤ 0 := hle.trans (neg_nonpos.2 hpos)
      have := habove (by rw [abs_of_nonpos hu0]; exact le_neg.1 hle)
      rw [wholePart_of_nonpos hu0]
      omega
    · intro hle
      obtain hu0 | hu0 := le_total u 0
      · have := hbelow (by rw [abs_of_nonpos hu0]; exact neg_le.1 hle)
        rw [wholePart_of_nonpos hu0]
        omega
      · rw [wholePart_of_nonneg hu0]
        omega

/-! ## Texts -/

theorem keeps_numeral (n : Numeral) : Keeps n.value (cutInt64 (signedFloat n.sign n.bits)) := by
  have hall : n.digits.all Char.isDigit = true := by
    simp [Numeral.digits, n.whole_digits, n.fraction_digits]
  have hsignificant : (significant n.digits).all Char.isDigit = true :=
    List.all_eq_true.2 fun c hc => List.all_eq_true.1 hall c ((List.dropWhile_sublist _).subset hc)
  have hfaithful : double.Faithful n.magnitude n.bits := by
    rw [Numeral.magnitude, ← digitsValue_significant]
    exact scaledBits_faithful n.scale (digitsValue_lt hsignificant) (digitsValue_ge_significant hall)
  have hpos : 0 ≤ n.magnitude := by
    unfold Numeral.magnitude
    positivity
  exact keeps_cutInt64 hpos hfaithful n.sign

theorem onGrid_end {k : ℤ} (hk : |k| = 2 ^ 63) : double.OnGrid |(k : ℚ)| := by
  rw [← Int.cast_abs, hk]
  exact ⟨1, 63, by decide, by decide, by norm_num⟩

/-- beyond 64 bits the doubles at either end decide -/
theorem clamped_of_keeps {i : ℤ} {j : Int64} (hkeeps : Keeps i j) (hi : fitInt64 i = none) : j = clampInt64 i := by
  have hhigh := (hkeeps ((2 ^ 63 : ℤ) : ℚ) (onGrid_end rfl)).1
  have hlow := (hkeeps ((-2 ^ 63 : ℤ) : ℚ) (onGrid_end rfl)).2
  have hge := j.le_toInt
  have hle := j.toInt_lt
  rw [wholePart_intCast, Int64.le_iff_toInt_le, toInt_clampInt64] at hhigh hlow
  rw [← Int64.toInt_inj, toInt_clampInt64]
  rw [fitInt64_eq, Int64.toInt_minValue, Int64.toInt_maxValue] at hi
  split_ifs at hi with hfits
  obtain h | h : 2 ^ 63 ≤ i ∨ i ≤ -2 ^ 63 := by omega
  · have := hhigh (Int.cast_le.2 h)
    omega
  · have := hlow (Int.cast_le.2 h)
    omega

/-- the reading of a text that is no whole number of 64 bits -/
theorem readInteger_of_float {t : List Char} (h : (readInt t).bind fitInt64 = none) :
    readInteger t = (readFloat t).map cutInt64 := by
  rw [readInteger, h]

theorem readInteger_whole (w : WholeNumeral) : readInteger w.text = some (clampInt64 w.value) := by
  have hread := w.readInt_text
  cases hfits : fitInt64 w.value with
  | some i =>
    rw [readInteger, hread, Option.bind_some, hfits]
    rw [fitInt64_eq] at hfits
    split_ifs at hfits
    exact hfits.symm
  | none =>
    have hfloat := (readFloat_eq_some_iff w.text _).2 (Or.inl ⟨w.toNumeral, w.toNumeral_text, rfl⟩)
    rw [readInteger_of_float (by rw [hread, Option.bind_some, hfits]), hfloat, Option.map_some]
    have hkeeps := keeps_numeral w.toNumeral
    rw [w.toNumeral_value] at hkeeps
    rw [clamped_of_keeps hkeeps hfits]

theorem readInteger_numeral (n : Numeral) : ∃ i, readInteger n.text = some i ∧ Keeps n.value i := by
  cases hread : readInt n.text with
  | some k =>
    obtain ⟨w, hw, -⟩ := (readInt_eq_some_iff n.text k).1 hread
    refine ⟨_, hw ▸ readInteger_whole w, ?_⟩
    rw [← Numeral.value_unique (w.toNumeral_text.trans hw), w.toNumeral_value]
    exact keeps_clampInt64 w.value
  | none =>
    have hfloat := (readFloat_eq_some_iff n.text _).2 (Or.inl ⟨n, rfl, rfl⟩)
    rw [readInteger_of_float (by rw [hread, Option.bind_none]), hfloat]
    exact ⟨_, rfl, keeps_numeral n⟩

theorem readInteger_word {sign : Sign} {w : Word} {t : List Char} (h : IsWord sign w t) :
    readInteger t = some (clampInt64 (sign.apply w.limit)) := by
  have hread : readInt t = none := by
    rw [Option.eq_none_iff_forall_ne_some]
    intro k hk
    obtain ⟨v, hv, -⟩ := (readInt_eq_some_iff t k).1 hk
    exact not_numeral_of_isWord h v.toNumeral (v.toNumeral_text.trans hv)
  have hfloat := (readFloat_eq_some_iff t _).2 (Or.inr ⟨sign, w, h, rfl⟩)
  rw [readInteger_of_float (by rw [hread, Option.bind_none]), hfloat, Option.map_some, cutInt64_word]

theorem isSome_readInteger_iff (t : List Char) :
    (readInteger t).isSome = true ↔ (∃ n : Numeral, n.text = t) ∨ ∃ sign w, IsWord sign w t := by
  constructor
  · intro h
    cases hread : readInt t with
    | some k =>
      obtain ⟨w, hw, -⟩ := (readInt_eq_some_iff t k).1 hread
      exact Or.inl ⟨w.toNumeral, w.toNumeral_text.trans hw⟩
    | none =>
      rw [readInteger_of_float (by rw [hread, Option.bind_none]), Option.isSome_map] at h
      obtain ⟨x, hx⟩ := Option.isSome_iff_exists.1 h
      obtain ⟨n, hn, -⟩ | ⟨sign, w, hw, -⟩ := (readFloat_eq_some_iff t x).1 hx
      · exact Or.inl ⟨n, hn⟩
      · exact Or.inr ⟨sign, w, hw⟩
  · rintro (⟨n, rfl⟩ | ⟨sign, w, h⟩)
    · obtain ⟨i, hi, -⟩ := readInteger_numeral n
      rw [hi, Option.isSome_some]
    · rw [readInteger_word h, Option.isSome_some]

/-- the reading that never invents a number: only numerals have one, a whole number is itself or nothing, and a
numeral of any form that is beyond 64 bits is nothing -/
structure Honest (t : List Char) (answer : Option Int64) : Prop where
  numeral : answer.isSome = true → ∃ n : Numeral, n.text = t
  whole : ∀ w : WholeNumeral, w.text = t → answer = fitInt64 w.value
  beyond : ∀ n : Numeral, n.text = t → fitInt64 (wholePart n.value) = none → answer = none

theorem honest_readInteger_iff (t : List Char) :
    Honest t (readInteger t) ↔
      (¬ ∃ sign w, IsWord sign w t) ∧ ∀ n : Numeral, n.text = t → (fitInt64 (wholePart n.value)).isSome = true := by
  constructor
  · rintro ⟨hnumeral, -, hbeyond⟩
    constructor
    · rintro ⟨sign, w, h⟩
      obtain ⟨n, hn⟩ := hnumeral (by rw [readInteger_word h, Option.isSome_some])
      exact not_numeral_of_isWord h n hn
    · rintro n rfl
      rw [Option.isSome_iff_ne_none]
      intro hnone
      obtain ⟨i, hi, -⟩ := readInteger_numeral n
      rw [hbeyond n rfl hnone] at hi
      cases hi
  · rintro ⟨hword, hfits⟩
    refine ⟨fun hsome => ((isSome_readInteger_iff t).1 hsome).resolve_right hword, ?_, fun n hn hnone => ?_⟩
    · rintro w rfl
      have hw := hfits w.toNumeral w.toNumeral_text
      rw [w.toNumeral_value, wholePart_intCast, fitInt64_eq] at hw
      rw [fitInt64_eq]
      split_ifs at hw ⊢
      · exact readInteger_whole w
      · exact absurd hw (by simp)
    · have hn := hfits n hn
      rw [hnone] at hn
      cases hn

/-- **Reading a text as a whole number.** A scalar and a record read the text alike, and where there is no number the
scalar is an error that names the column and the value. There is a number exactly for the numerals and for the words
for infinity and NaN, white space around them aside. A whole number beyond 64 bits becomes the nearer end of them, and
so do the infinities; NaN becomes zero. Any other numeral becomes a number between those of the doubles on either side
of its value, and loses only what stands behind its point if a double holds it. The reading is honest exactly for the
texts that are no word and no numeral, be it whole or with a point or a power of ten, whose whole part is beyond 64
bits. -/
theorem text_read_as_integer (s column : String) (r : Record) (hcell : r.get? column = some (.text s)) :
    let t := Text.trimChars s.toList
    let answer := r.getInt64? column
    Scalar.convert column .int (.text s)
      = answer.elim (.error (.conversion column (.cannotRead (.text s) .int))) (fun i => .ok (some (.int i))) ∧
    (answer.isSome = true ↔ (∃ n : Numeral, n.text = t) ∨ ∃ sign w, IsWord sign w t) ∧
    (∀ w : WholeNumeral, w.text = t → answer = some (clampInt64 w.value)) ∧
    (∀ n : Numeral, n.text = t → ∃ i, answer = some i ∧ Keeps n.value i ∧
      (double.OnGrid |n.value| → i = clampInt64 (wholePart n.value))) ∧
    (∀ sign w, IsWord sign w t → answer = some (clampInt64 (sign.apply w.limit))) ∧
    (Honest t answer ↔
      (¬ ∃ sign w, IsWord sign w t) ∧ ∀ n : Numeral, n.text = t → (fitInt64 (wholePart n.value)).isSome = true) := by
  intro t answer
  have hanswer : answer = readInteger t := by
    simp only [answer, Record.getInt64?, hcell]
    rfl
  have hasInt : (Value.text s).asInt = answer := hanswer.symm
  rw [hanswer]
  refine ⟨?_, isSome_readInteger_iff t, ?_, ?_, ?_, honest_readInteger_iff t⟩
  · rw [← hanswer, ← hasInt, Scalar.convert]
    cases hread : (Value.text s).asInt <;> simp [isNull, Scalar.ofValue?, hread]
  · rintro w hw
    rw [← hw, readInteger_whole]
  · rintro n hn
    obtain ⟨i, hi, hkeeps⟩ := readInteger_numeral n
    exact ⟨i, hn ▸ hi, hkeeps, hkeeps.exact⟩
  · intro sign w hw
    exact readInteger_word hw

theorem padded_number_read :
    let r := Record.ofList [("n", .text " +042 ")]
    r.get? "n" = some (.text " +042 ") ∧ r.getInt64? "n" = some 42 := by
  intro r
  have hcell : r.get? "n" = some (.text " +042 ") := rfl
  obtain ⟨-, -, hwhole, -⟩ := text_read_as_integer " +042 " "n" r hcell
  exact ⟨hcell, hwhole ⟨.plus, "042".toList, by decide⟩ (by decide)⟩

/-- the thirtieth power of ten, as a numeral -/
def bigPower : Numeral where
  sign := .bare
  whole := "1".toList
  fraction := none
  exponent := some ⟨'e', .inl rfl, ⟨.bare, "30".toList, by decide⟩⟩
  whole_digits := by decide
  fraction_digits := by decide
  some_digit := by decide

/-- the least whole number beyond 64 bits is read as the one before it, and so is a power of ten; NaN is read as zero -/
theorem numbers_invented :
    Scalar.convert "n" .int (.text "9223372036854775808") = .ok (some (.int 9223372036854775807)) ∧
    ¬ Honest (Text.trimChars "9223372036854775808".toList) (Value.text "9223372036854775808").asInt ∧
    Scalar.convert "n" .int (.text "1e30") = .ok (some (.int 9223372036854775807)) ∧
    ¬ Honest (Text.trimChars "1e30".toList) (Value.text "1e30").asInt ∧
    Scalar.convert "n" .int (.text "nan") = .ok (some (.int 0)) ∧
    ¬ Honest (Text.trimChars "nan".toList) (Value.text "nan").asInt := by
  have hbeyond : (Value.text "9223372036854775808").asInt = some 9223372036854775807 := by decide +kernel
  have hpower : (Value.text "1e30").asInt = some 9223372036854775807 := by decide +kernel
  have hnan : (Value.text "nan").asInt = some 0 := by decide +kernel
  refine ⟨by simp [Scalar.convert, isNull, Scalar.ofValue?, hbeyond], fun honest => ?_,
    by simp [Scalar.convert, isNull, Scalar.ofValue?, hpower], fun honest => ?_,
    by simp [Scalar.convert, isNull, Scalar.ofValue?, hnan], fun honest => ?_⟩
  · have hanswer := honest.whole ⟨.bare, "9223372036854775808".toList, by decide⟩ (by decide)
    rw [hbeyond] at hanswer
    revert hanswer
    decide
  · have hvalue : bigPower.value = ((10 ^ 30 : ℤ) : ℚ) := by
      have hdigits : digitsValue bigPower.digits = 1 := by decide
      have hscale : bigPower.scale = 30 := by decide
      have hsign : bigPower.sign.negative = false := rfl
      rw [Numeral.value, Numeral.magnitude, hdigits, hscale, Sign.apply, hsign]
      norm_num
    have hanswer := honest.beyond bigPower (by decide) (by
      rw [hvalue, wholePart_intCast]
      decide)
    rw [hpower] at hanswer
    cases hanswer
  · have hword : IsWord .bare .nan (Text.trimChars "nan".toList) := ⟨"nan".toList, rfl, by decide⟩
    obtain ⟨n, hn⟩ := honest.numeral (by rw [hnan, Option.isSome_some])
    exact not_numeral_of_isWord hword n hn

/-- a point and a power of ten are part of a numeral, and what stands behind the point in the end is dropped -/
example : (Value.text "-1.25e1").asInt = some (-12) := by decide +kernel

end Value
end FluentSql
