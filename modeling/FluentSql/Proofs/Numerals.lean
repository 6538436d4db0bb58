import Mathlib.Data.Rat.Defs
import Mathlib.Algebra.Field.Rat
import Mathlib.Data.List.TakeWhile
import Mathlib.Tactic.Ring
import FluentSql.Decimal.Numeral
import FluentSql.Text.Ascii
/-!
The language of numerals, said apart from the readers: a sign, digits, a point with digits behind it, a power of
ten, and the number that all of it denotes.

A reader takes a text apart from the left. For each of its cuts there are two lemmas: what was put together is cut
where it was joined, and every text falls into parts of that kind. From them each reader accepts exactly the texts
of its language (`readInt_eq_some_iff`, `readFloat_eq_some_iff`), and no text denotes two numbers
(`Numeral.value_unique`).
-/

namespace FluentSql.Decimal

/-! ## The language -/

/-- what may stand in front of a numeral -/
inductive Sign where
  | bare
  | plus
  | minus
deriving DecidableEq, Repr

namespace Sign

def text : Sign → List Char
  | bare => []
  | plus => ['+']
  | minus => ['-']

def negative : Sign → Bool
  | minus => true
  | _ => false

/-- a magnitude under the sign -/
def apply {α : Type} [Neg α] (s : Sign) (a : α) : α := if s.negative then -a else a

end Sign

/-- a whole number: a sign and digits -/
structure WholeNumeral where
  sign : Sign
  digits : List Char
  proper : isDigits digits = true

namespace WholeNumeral

def text (w : WholeNumeral) : List Char := w.sign.text ++ w.digits

def value (w : WholeNumeral) : ℤ := w.sign.apply (digitsValue w.digits : ℤ)

end WholeNumeral

/-- a power of ten that ends a numeral -/
structure Exponent where
  letter : Char
  isLetter : letter = 'e' ∨ letter = 'E'
  power : WholeNumeral

/-- a real number: digits around an optional point, at least one of them, and an optional power of ten -/
structure Numeral where
  sign : Sign
  whole : List Char
  /-- the digits behind the point, if there is a point -/
  fraction : Option (List Char)
  exponent : Option Exponent
  whole_digits : whole.all Char.isDigit = true
  fraction_digits : (fraction.getD []).all Char.isDigit = true
  some_digit : whole ++ fraction.getD [] ≠ []

/-- the digits from the first that is no zero on -/
def significant (ds : List Char) : List Char := ds.dropWhile (· == '0')

/-- the point and what stands behind it -/
def pointText (fraction : Option (List Char)) : List Char := fraction.elim [] ('.' :: ·)

def exponentText (e : Option Exponent) : List Char := e.elim [] fun e => e.letter :: e.power.text

def exponentValue (e : Option Exponent) : ℤ := e.elim 0 (·.power.value)

namespace Numeral

/-- all digits, without the point -/
def digits (n : Numeral) : List Char := n.whole ++ n.fraction.getD []

/-- the exponent that belongs to the digits without the point -/
def scale (n : Numeral) : ℤ := exponentValue n.exponent - (n.fraction.getD []).length

/-- the numeral without its sign -/
def body (n : Numeral) : List Char := n.whole ++ pointText n.fraction ++ exponentText n.exponent

def text (n : Numeral) : List Char := n.sign.text ++ n.body

def magnitude (n : Numeral) : ℚ := digitsValue n.digits * 10 ^ n.scale

/-- the number that the numeral denotes -/
def value (n : Numeral) : ℚ := n.sign.apply n.magnitude

/-- the double that the magnitude is rounded to, as bits -/
def bits (n : Numeral) : Nat :=
  scaledBits (digitsValue (significant n.digits)) (significant n.digits).length n.scale

end Numeral

/-- the words for what is no finite number -/
inductive Word where
  | infinity
  | nan
deriving DecidableEq, Repr

namespace Word

/-- the word in letters of any case -/
def Spelled : Word → List Char → Prop
  | infinity, s => s.map Char.toLower = "inf".toList ∨ s.map Char.toLower = "infinity".toList
  | nan, s => s.map Char.toLower = "nan".toList

def bits : Word → Nat
  | infinity => double.infinity
  | nan => double.infinity + 2 ^ 51

end Word

/-- a double of a sign and the bits of a magnitude -/
def signedFloat (s : Sign) (bits : Nat) : Float :=
  Float.ofBits (UInt64.ofNat (bits + if s.negative then 2 ^ 63 else 0))

/-! ## Values of digits -/

theorem digitsValue_cons (c : Char) (ds : List Char) :
    digitsValue (c :: ds) = (c.toNat - 48) * 10 ^ ds.length + digitsValue ds := by
  have hfrom (ds : List Char) (v : ℕ) :
      ds.foldl (fun v c => 10 * v + (c.toNat - 48)) v = v * 10 ^ ds.length + digitsValue ds := by
    induction ds generalizing v with
    | nil => simp [digitsValue]
    | cons c r ih =>
      rw [digitsValue, List.foldl_cons, List.foldl_cons, ih, ih (10 * 0 + _), List.length_cons, pow_succ]
      ring
  rw [digitsValue, List.foldl_cons, hfrom]
  simp

theorem digitsValue_lt {ds : List Char} (hds : ds.all Char.isDigit = true) : digitsValue ds < 10 ^ ds.length := by
  induction ds with
  | nil => simp [digitsValue]
  | cons c r ih =>
    simp only [List.all_cons, Bool.and_eq_true] at hds
    have hc : c.toNat - 48 ≤ 9 := by
      have hle := hds.1
      simp only [Char.isDigit, Bool.and_eq_true, decide_eq_true_eq] at hle
      have : c.toNat ≤ 57 := hle.2
      omega
    have hr := ih hds.2
    calc digitsValue (c :: r)
        = (c.toNat - 48) * 10 ^ r.length + digitsValue r := digitsValue_cons c r
      _ < 9 * 10 ^ r.length + 10 ^ r.length := by
        have := Nat.mul_le_mul_right (10 ^ r.length) hc
        omega
      _ = 10 ^ (c :: r).length := by
        rw [List.length_cons, pow_succ]
        ring

theorem digitsValue_significant (ds : List Char) : digitsValue (significant ds) = digitsValue ds := by
  induction ds with
  | nil => rfl
  | cons c r ih =>
    obtain rfl | hc := eq_or_ne c '0'
    · have hzero : '0'.toNat - 48 = 0 := by decide
      rw [digitsValue_cons, hzero, Nat.zero_mul, Nat.zero_add, ← ih]
      rfl
    · simp [significant, hc]

theorem one_le_digit {c : Char} (hdigit : c.isDigit = true) (hc : c ≠ '0') : 1 ≤ c.toNat - 48 := by
  have hge : 48 ≤ c.toNat := (Char.isDigit_iff_toNat.1 hdigit).1
  have hne : c.toNat ≠ 48 := fun h => hc (Char.toNat_inj.1 h)
  omega

/-- a number without leading zeros has all of its digits -/
theorem digitsValue_ge_significant {ds : List Char} (hds : ds.all Char.isDigit = true) :
    digitsValue (significant ds) = 0 ∨ 10 ^ (significant ds).length ≤ 10 * digitsValue (significant ds) := by
  induction ds with
  | nil => exact Or.inl rfl
  | cons c r ih =>
    simp only [List.all_cons, Bool.and_eq_true] at hds
    obtain rfl | hc := eq_or_ne c '0'
    · exact ih hds.2
    · right
      have hsignificant : significant (c :: r) = c :: r := by simp [significant, hc]
      have hone := one_le_digit hds.1 hc
      rw [hsignificant, digitsValue_cons, List.length_cons, pow_succ]
      have := Nat.mul_le_mul_right (10 ^ r.length) hone
      omega

/-! ## Signs -/

/-- whether a text starts with neither sign -/
def Unsigned (s : List Char) : Prop := ∀ c ∈ s.head?, c ≠ '-' ∧ c ≠ '+'

theorem splitSign_text (sign : Sign) {s : List Char} (hs : Unsigned s) :
    splitSign (sign.text ++ s) = (sign.negative, s) := by
  cases sign with
  | plus => rfl
  | minus => rfl
  | bare =>
    cases s with
    | nil => rfl
    | cons c r =>
      obtain ⟨hminus, hplus⟩ := hs c (by simp)
      simp only [Sign.text, List.nil_append, Sign.negative]
      unfold splitSign
      split
      · simp_all
      · simp_all
      · rfl

theorem exists_sign (s : List Char) : ∃ sign r, s = Sign.text sign ++ r ∧ splitSign s = (sign.negative, r) := by
  unfold splitSign
  split
  · exact ⟨.minus, _, rfl, rfl⟩
  · exact ⟨.plus, _, rfl, rfl⟩
  · exact ⟨.bare, _, rfl, rfl⟩

theorem unsigned_of_isDigit {c : Char} (hc : c.isDigit = true) : c ≠ '-' ∧ c ≠ '+' := by
  constructor <;> rintro rfl <;> revert hc <;> decide

theorem unsigned_of_all {ds : List Char} (hds : ds.all Char.isDigit = true) : Unsigned ds := by
  intro c hc
  exact unsigned_of_isDigit (List.all_eq_true.1 hds c (List.mem_of_mem_head? hc))

/-! ## Whole numbers -/

theorem WholeNumeral.all_digits (w : WholeNumeral) : w.digits.all Char.isDigit = true := by
  have h := w.proper
  simp only [isDigits, Bool.and_eq_true] at h
  exact h.2

theorem readInt_eq_some_iff (s : List Char) (i : ℤ) :
    readInt s = some i ↔ ∃ w : WholeNumeral, w.text = s ∧ w.value = i := by
  constructor
  · intro h
    obtain ⟨sign, r, hs, hsplit⟩ := exists_sign s
    rw [readInt, hsplit] at h
    simp only [Option.ite_none_right_eq_some] at h
    obtain ⟨hdigits, hi⟩ := h
    exact ⟨⟨sign, r, hdigits⟩, hs.symm, Option.some.inj hi⟩
  · rintro ⟨w, rfl, rfl⟩
    simp only [readInt, WholeNumeral.text, splitSign_text w.sign (unsigned_of_all w.all_digits), w.proper, if_true]
    rfl

theorem WholeNumeral.readInt_text (w : WholeNumeral) : readInt w.text = some w.value :=
  (readInt_eq_some_iff w.text w.value).2 ⟨w, rfl, rfl⟩

theorem readExponent_eq_some_iff (s : List Char) (i : ℤ) :
    readExponent s = some i ↔ ∃ e : Option Exponent, exponentText e = s ∧ exponentValue e = i := by
  constructor
  · intro h
    cases s with
    | nil => exact ⟨none, rfl, Option.some.inj h⟩
    | cons c r =>
      simp only [readExponent, Option.ite_none_right_eq_some] at h
      obtain ⟨hletter, hread⟩ := h
      obtain ⟨w, rfl, rfl⟩ := (readInt_eq_some_iff r i).1 hread
      exact ⟨some ⟨c, hletter, w⟩, rfl, rfl⟩
  · rintro ⟨e, rfl, rfl⟩
    cases e with
    | none => rfl
    | some e =>
      simp [exponentText, exponentValue, readExponent, e.isLetter, e.power.readInt_text]

namespace WholeNumeral

/-- a whole number as a real one -/
def toNumeral (w : WholeNumeral) : Numeral where
  sign := w.sign
  whole := w.digits
  fraction := none
  exponent := none
  whole_digits := w.all_digits
  fraction_digits := rfl
  some_digit := by
    have h := w.proper
    simp only [isDigits, Bool.and_eq_true] at h
    simpa using h.1

theorem toNumeral_text (w : WholeNumeral) : w.toNumeral.text = w.text := by
  simp [toNumeral, Numeral.text, Numeral.body, pointText, exponentText, text]

theorem toNumeral_value (w : WholeNumeral) : w.toNumeral.value = w.value := by
  have hmagnitude : w.toNumeral.magnitude = digitsValue w.digits := by
    simp [Numeral.magnitude, Numeral.digits, Numeral.scale, exponentValue, toNumeral]
  have hsign : w.toNumeral.sign = w.sign := rfl
  rw [Numeral.value, hmagnitude, hsign, value]
  cases w.sign <;> simp [Sign.apply, Sign.negative]

end WholeNumeral

/-! ## Digits around a point -/

/-- whether digits around a point end in front of a text -/
def EndsDigits (s : List Char) : Prop := ∀ c ∈ s.head?, c.isDigit = false ∧ c ≠ '.'

theorem takeWhile_digits {ds : List Char} (hds : ds.all Char.isDigit = true) {r : List Char}
    (hr : ∀ c ∈ r.head?, c.isDigit = false) : (ds ++ r).takeWhile Char.isDigit = ds := by
  rw [List.takeWhile_append_of_pos (List.all_eq_true.1 hds)]
  cases r with
  | nil => simp
  | cons c r => simp [hr c (by simp)]

theorem dropWhile_digits {ds : List Char} (hds : ds.all Char.isDigit = true) {r : List Char}
    (hr : ∀ c ∈ r.head?, c.isDigit = false) : (ds ++ r).dropWhile Char.isDigit = r := by
  rw [List.dropWhile_append_of_pos (List.all_eq_true.1 hds)]
  cases r with
  | nil => simp
  | cons c r => simp [hr c (by simp)]

theorem splitPoint_text {whole : List Char} {fraction : Option (List Char)} {rest : List Char}
    (hwhole : whole.all Char.isDigit = true) (hfraction : (fraction.getD []).all Char.isDigit = true)
    (hrest : EndsDigits rest) :
    splitPoint (whole ++ pointText fraction ++ rest)
      = (whole ++ fraction.getD [], (fraction.getD []).length, rest) := by
  have hends : ∀ c ∈ rest.head?, c.isDigit = false := fun c hc => (hrest c hc).1
  cases fraction with
  | none =>
    have htake := takeWhile_digits hwhole hends
    have hdrop := dropWhile_digits hwhole hends
    simp only [pointText, Option.elim_none, List.append_nil, splitPoint, htake, hdrop, Option.getD_none,
      List.length_nil]
    split
    · exact absurd rfl (hrest '.' (by simp)).2
    · rfl
  | some part =>
    have hpoint : ∀ c ∈ ('.' :: (part ++ rest)).head?, c.isDigit = false := by
      rintro c ⟨⟩
      decide
    have htake := takeWhile_digits hwhole hpoint
    have hdrop := dropWhile_digits hwhole hpoint
    simp only [Option.getD_some] at hfraction
    simp only [pointText, Option.elim_some, List.append_assoc, List.cons_append, splitPoint, htake, hdrop,
      takeWhile_digits hfraction hends, dropWhile_digits hfraction hends, Option.getD_some]

theorem exists_point (s : List Char) :
    ∃ whole fraction rest, whole.all Char.isDigit = true ∧ (fraction.getD []).all Char.isDigit = true ∧
      s = whole ++ pointText fraction ++ rest ∧
      splitPoint s = (whole ++ fraction.getD [], (fraction.getD []).length, rest) := by
  have htake (r : List Char) : (r.takeWhile Char.isDigit).all Char.isDigit = true :=
    List.all_eq_true.2 fun _ => List.mem_takeWhile_imp
  have hsplit := List.takeWhile_append_dropWhile (p := Char.isDigit) (l := s)
  unfold splitPoint
  split
  · rename_i r hr
    refine ⟨_, some (r.takeWhile Char.isDigit), r.dropWhile Char.isDigit, htake s, htake r, ?_, rfl⟩
    rw [hr] at hsplit
    simp only [pointText, Option.elim_some, List.append_assoc, List.cons_append, List.takeWhile_append_dropWhile]
    exact hsplit.symm
  · refine ⟨s.takeWhile Char.isDigit, none, s.dropWhile Char.isDigit, htake s, rfl, ?_, by simp⟩
    simp [pointText]

/-! ## Real numbers -/

theorem endsDigits_exponentText (e : Option Exponent) : EndsDigits (exponentText e) := by
  cases e with
  | none => simp [EndsDigits, exponentText]
  | some e =>
    rintro c ⟨⟩
    obtain h | h := e.isLetter <;> rw [h] <;> decide

namespace Numeral

theorem splitPoint_body (n : Numeral) :
    splitPoint n.body = (n.digits, (n.fraction.getD []).length, exponentText n.exponent) :=
  splitPoint_text n.whole_digits n.fraction_digits (endsDigits_exponentText n.exponent)

theorem unsigned_body (n : Numeral) : Unsigned n.body := by
  intro c hc
  have hsome := n.some_digit
  cases hwhole : n.whole with
  | cons d r =>
    have hd := List.all_eq_true.1 n.whole_digits d (by simp [hwhole])
    simp only [body, hwhole, List.cons_append, List.head?_cons, Option.mem_some_iff] at hc
    exact hc ▸ unsigned_of_isDigit hd
  | nil =>
    cases hfraction : n.fraction with
    | none => simp [hwhole, hfraction] at hsome
    | some part =>
      simp only [body, hwhole, hfraction, pointText, Option.elim_some, List.nil_append, List.cons_append,
        List.head?_cons, Option.mem_some_iff] at hc
      exact hc ▸ by decide

theorem splitSign_text (n : Numeral) : splitSign n.text = (n.sign.negative, n.body) :=
  Decimal.splitSign_text n.sign n.unsigned_body

theorem readMagnitude_body (n : Numeral) : readMagnitude n.body = some n.bits := by
  have hread := (readExponent_eq_some_iff _ _).2 ⟨n.exponent, rfl, rfl⟩
  have hdigits : n.digits.isEmpty = false := by simpa [digits] using n.some_digit
  simp only [readMagnitude, n.splitPoint_body, hdigits, Bool.false_eq_true, if_false, hread]
  rfl

/-- a text is the numeral of one number at most -/
theorem value_unique {m n : Numeral} (h : m.text = n.text) : m.value = n.value := by
  have hsign := m.splitSign_text
  rw [h, n.splitSign_text, Prod.mk.injEq] at hsign
  obtain ⟨hnegative, hbody⟩ := hsign
  have hpoint := m.splitPoint_body
  rw [← hbody, n.splitPoint_body, Prod.mk.injEq, Prod.mk.injEq] at hpoint
  obtain ⟨hdigits, hplaces, hexponent⟩ := hpoint
  have hm := (readExponent_eq_some_iff _ _).2 ⟨m.exponent, rfl, rfl⟩
  have hn := (readExponent_eq_some_iff _ _).2 ⟨n.exponent, rfl, rfl⟩
  rw [← hexponent, hn, Option.some.injEq] at hm
  simp only [value, magnitude, scale, Sign.apply, hnegative, hdigits, hplaces, hm]

end Numeral

theorem readWord_eq_some_iff (s : List Char) (bits : Nat) :
    readWord s = some bits ↔ ∃ w : Word, w.Spelled s ∧ w.bits = bits := by
  have hlower (t : String) : String.ofList (s.map Char.toLower) = t ↔ s.map Char.toLower = t.toList := by
    rw [← String.toList_inj, String.toList_ofList]
  simp only [readWord, hlower]
  constructor
  · intro h
    split at h
    · rename_i hinf
      exact ⟨.infinity, hinf, Option.some.inj h⟩
    · simp only [Option.ite_none_right_eq_some] at h
      exact ⟨.nan, h.1, Option.some.inj h.2⟩
  · rintro ⟨w, hw, rfl⟩
    cases w with
    | infinity => exact if_pos hw
    | nan =>
      have hnan : s.map Char.toLower = "nan".toList := hw
      rw [hnan]
      rfl

theorem toLower_of_isDigit {c : Char} (hc : c.isDigit = true) : c.toLower = c := by
  have hle : c.toNat ≤ 57 := (Char.isDigit_iff_toNat.1 hc).2
  rw [← Char.toNat_inj, Text.toNat_toLower, if_neg (by omega)]

/-- a word starts with a letter, so none of it is taken for digits -/
theorem Word.Spelled.head {w : Word} {s : List Char} (h : w.Spelled s) :
    ∃ c r, s = c :: r ∧ c.isDigit = false ∧ c ≠ '.' ∧ c ≠ '-' ∧ c ≠ '+' := by
  have hletter : ∃ c r, s = c :: r ∧ (c.toLower = 'i' ∨ c.toLower = 'n') := by
    cases s with
    | nil => cases w <;> simp [Spelled] at h
    | cons c r =>
      refine ⟨c, r, rfl, ?_⟩
      cases w with
      | infinity =>
        left
        obtain h | h := h <;> exact (List.cons.inj h).1
      | nan => exact Or.inr (List.cons.inj h).1
  obtain ⟨c, r, rfl, hc⟩ := hletter
  refine ⟨c, r, rfl, ?_, ?_, ?_, ?_⟩
  · rw [← Bool.not_eq_true]
    intro hdigit
    rw [toLower_of_isDigit hdigit] at hc
    obtain rfl | rfl := hc <;> revert hdigit <;> decide
  all_goals
    rintro rfl
    revert hc
    decide

theorem Word.Spelled.unsigned {w : Word} {s : List Char} (h : w.Spelled s) : Unsigned s := by
  obtain ⟨c, r, rfl, -, -, hsigns⟩ := h.head
  rintro d ⟨⟩
  exact hsigns

theorem Word.Spelled.splitPoint {w : Word} {s : List Char} (h : w.Spelled s) : splitPoint s = ([], 0, s) := by
  have hends : EndsDigits s := by
    obtain ⟨c, r, rfl, hdigit, hpoint, -⟩ := h.head
    rintro d ⟨⟩
    exact ⟨hdigit, hpoint⟩
  have hnone : (Option.getD none []).all Char.isDigit = true := rfl
  exact splitPoint_text List.all_nil hnone hends

theorem readMagnitude_word {w : Word} {s : List Char} (h : w.Spelled s) : readMagnitude s = some w.bits := by
  have hread := (readWord_eq_some_iff s w.bits).2 ⟨w, h, rfl⟩
  simp [readMagnitude, h.splitPoint, hread]

/-- a text that consists of a sign and a word -/
def IsWord (sign : Sign) (w : Word) (t : List Char) : Prop := ∃ s, w.Spelled s ∧ sign.text ++ s = t

theorem not_numeral_of_isWord {sign : Sign} {w : Word} {t : List Char} (h : IsWord sign w t) (n : Numeral) :
    n.text ≠ t := by
  intro heq
  obtain ⟨s, hs, rfl⟩ := h
  have hsign := n.splitSign_text
  rw [heq, splitSign_text sign hs.unsigned, Prod.mk.injEq] at hsign
  have hpoint := n.splitPoint_body
  rw [← hsign.2, hs.splitPoint, Prod.mk.injEq] at hpoint
  exact n.some_digit hpoint.1.symm

theorem readMagnitude_cases {s : List Char} {bits : Nat} (h : readMagnitude s = some bits) (sign : Sign) :
    (∃ n : Numeral, n.sign = sign ∧ n.body = s ∧ n.bits = bits) ∨ ∃ w : Word, w.Spelled s ∧ w.bits = bits := by
  obtain ⟨whole, fraction, rest, hwhole, hfraction, hs, hsplit⟩ := exists_point s
  simp only [readMagnitude, hsplit] at h
  split at h
  · exact Or.inr ((readWord_eq_some_iff s bits).1 h)
  · rename_i hsome
    split at h
    · exact Or.inr ((readWord_eq_some_iff s bits).1 h)
    · rename_i e he
      obtain ⟨exponent, rfl, rfl⟩ := (readExponent_eq_some_iff rest e).1 he
      left
      refine ⟨⟨sign, whole, fraction, exponent, hwhole, hfraction, ?_⟩, rfl, hs.symm, Option.some.inj h⟩
      simpa using hsome

/-- **The texts that are read as a real number** are the numerals and the two words. -/
theorem readFloat_eq_some_iff (s : List Char) (x : Float) :
    readFloat s = some x ↔
      (∃ n : Numeral, n.text = s ∧ signedFloat n.sign n.bits = x) ∨
      ∃ sign w, IsWord sign w s ∧ signedFloat sign w.bits = x := by
  constructor
  · intro h
    obtain ⟨sign, r, rfl, hsplit⟩ := exists_sign s
    simp only [readFloat, hsplit, Option.map_eq_some_iff] at h
    obtain ⟨bits, hbits, rfl⟩ := h
    obtain ⟨n, rfl, rfl, rfl⟩ | ⟨w, hw, rfl⟩ := readMagnitude_cases hbits sign
    · exact Or.inl ⟨n, rfl, rfl⟩
    · exact Or.inr ⟨sign, w, ⟨r, hw, rfl⟩, rfl⟩
  · rintro (⟨n, rfl, rfl⟩ | ⟨sign, w, ⟨r, hw, rfl⟩, rfl⟩)
    · simp only [readFloat, n.splitSign_text, n.readMagnitude_body]
      rfl
    · simp only [readFloat, splitSign_text sign hw.unsigned, readMagnitude_word hw]
      rfl

end FluentSql.Decimal
