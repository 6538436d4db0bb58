/-!
The letters that keywords are made of. Keywords are compared without case, and case here means the
twenty-six ASCII letters only.

Small lemmas: the code points of letters and of both cases (`isAlpha_iff`, `toNat_toUpper`, `toNat_toLower`), and that comparing texts in
upper case and in lower case is the same (`upperAscii_eq_iff`).
-/

namespace FluentSql.Text

/-- upper case in the ASCII letters, all else unchanged -/
def upperAscii (s : String) : String := String.ofList (s.toList.map Char.toUpper)

/-- lower case in the ASCII letters, all else unchanged -/
def lowerAscii (s : String) : String := String.ofList (s.toList.map Char.toLower)

/-- equal up to the case of ASCII letters -/
def sameLetters (a b : String) : Bool := lowerAscii a == lowerAscii b

/-- the two upper case hexadecimal digits of a byte -/
def hexByte (b : UInt8) : List Char :=
  [Nat.digitChar (b.toNat / 16), Nat.digitChar (b.toNat % 16)].map Char.toUpper

/-- the value of a hexadecimal digit in either case -/
def hexValue (c : Char) : Option Nat :=
  if '0' ≤ c ∧ c ≤ '9' then some (c.toNat - 48)
  else if 'a' ≤ c ∧ c ≤ 'f' then some (c.toNat - 87)
  else if 'A' ≤ c ∧ c ≤ 'F' then some (c.toNat - 55)
  else none

/-! ## Lemmas -/

theorem isAlpha_iff (c : Char) :
    c.isAlpha = true ↔ (65 ≤ c.toNat ∧ c.toNat ≤ 90) ∨ (97 ≤ c.toNat ∧ c.toNat ≤ 122) := by
  unfold Char.isAlpha Char.isUpper Char.isLower
  simp only [Bool.or_eq_true, Bool.and_eq_true, decide_eq_true_eq]
  exact Iff.rfl

theorem toNat_toUpper (c : Char) :
    c.toUpper.toNat = if 97 ≤ c.toNat ∧ c.toNat ≤ 122 then c.toNat - 32 else c.toNat := by
  have hlower : ('a'.val ≤ c.val ∧ c.val ≤ 'z'.val) ↔ 97 ≤ c.toNat ∧ c.toNat ≤ 122 := Iff.rfl
  by_cases h : 97 ≤ c.toNat ∧ c.toNat ≤ 122
  · have hadd : (c.val + ('A'.val - 'a'.val)).toNat = (c.toNat + (2 ^ 32 - 32)) % 2 ^ 32 := UInt32.toNat_add ..
    unfold Char.toUpper
    rw [if_pos h, dif_pos (hlower.2 h)]
    refine hadd.trans ?_
    omega
  · unfold Char.toUpper
    rw [if_neg h, dif_neg (mt hlower.1 h)]

theorem toNat_toLower (c : Char) :
    c.toLower.toNat = if 65 ≤ c.toNat ∧ c.toNat ≤ 90 then c.toNat + 32 else c.toNat := by
  have hupper : (c.val ≥ 'A'.val ∧ c.val ≤ 'Z'.val) ↔ 65 ≤ c.toNat ∧ c.toNat ≤ 90 := Iff.rfl
  by_cases h : 65 ≤ c.toNat ∧ c.toNat ≤ 90
  · have hadd : (c.val + ('a'.val - 'A'.val)).toNat = (c.toNat + 32) % 2 ^ 32 := UInt32.toNat_add ..
    unfold Char.toLower
    rw [if_pos h, dif_pos (hupper.2 h)]
    refine hadd.trans ?_
    omega
  · unfold Char.toLower
    rw [if_neg h, dif_neg (mt hupper.1 h)]

theorem toUpper_eq_iff (c d : Char) : c.toUpper = d.toUpper ↔ c.toLower = d.toLower := by
  rw [← Char.toNat_inj, ← Char.toNat_inj, toNat_toUpper, toNat_toUpper, toNat_toLower, toNat_toLower]
  grind

theorem map_toUpper_eq_iff (s t : List Char) :
    s.map Char.toUpper = t.map Char.toUpper ↔ s.map Char.toLower = t.map Char.toLower := by
  induction s generalizing t with
  | nil => cases t <;> simp
  | cons c r ih =>
    cases t with
    | nil => simp
    | cons d t => simp [toUpper_eq_iff, ih]

/-- texts that are equal in upper case are equal in lower case, and the other way round -/
theorem upperAscii_eq_iff (s t : String) : upperAscii s = upperAscii t ↔ sameLetters s t = true := by
  rw [sameLetters, beq_iff_eq, upperAscii, upperAscii, lowerAscii, lowerAscii, String.ofList_inj, String.ofList_inj,
    map_toUpper_eq_iff]

end FluentSql.Text
