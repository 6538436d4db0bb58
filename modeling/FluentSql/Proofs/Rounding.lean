import Mathlib.Algebra.Order.Field.Power
import Mathlib.Data.Nat.Log
import Mathlib.Data.Rat.Floor
import Mathlib.Tactic.Linarith
import Mathlib.Tactic.NormNum
import Mathlib.Tactic.Ring
import FluentSql.Decimal.Numeral
/-!
Rounding to a binary format crosses no number of the format: what lies at or below an exact value lies at or below
the rounded one, and the same above (`Format.Faithful`). So numbers of the format are met exactly, order is kept
against them, and infinity is reached only from beyond the greatest of them.

`Format.Rounds` says what `Format.nearest` chooses: an exponent that leaves a full mantissa or is the least one, and
an integer next to what is left. The rest follows from that, first for the exact product (`Rounds.faithful`), then
for the bits that stand for it (`decode_mantissa`, `mantissa_beyond`).
-/

namespace FluentSql.Decimal

/-- the number that a mantissa and an exponent stand for -/
def Binary.value (b : Binary) : ℚ := b.mantissa * 2 ^ b.exponent

namespace Format

/-- a format that has numbers -/
structure Proper (f : Format) : Prop where
  precision : 0 < f.precision
  range : f.leastExponent ≤ f.greatestExponent

/-- a mantissa of the format at an exponent of the format or a greater one -/
def OnGrid (f : Format) (u : ℚ) : Prop :=
  ∃ (m : ℕ) (s : ℤ), m ≤ 2 ^ f.precision ∧ f.leastExponent ≤ s ∧ u = m * 2 ^ s

/-- bits between which and an exact value there is no number of the format; infinity is for the values that no number
below the end of the format exceeds -/
def Faithful (f : Format) (v : ℚ) (bits : ℕ) : Prop :=
  (∃ b, f.decode bits = some b ∧ ∀ u, f.OnGrid u → (u ≤ v → u ≤ b.value) ∧ (v ≤ u → b.value ≤ u)) ∨
  (bits = f.infinity ∧ ∀ u, f.OnGrid u → v ≤ u → (2 : ℚ) ^ (f.precision + f.greatestExponent) ≤ u)

/-- an exponent that leaves a full mantissa or is the least one, and an integer next to what is left -/
structure Rounds (f : Format) (v : ℚ) (e : ℤ) (r : ℕ) : Prop where
  least : f.leastExponent ≤ e
  fits : v / 2 ^ e < 2 ^ f.precision
  full : e = f.leastExponent ∨ (2 : ℚ) ^ (f.precision - 1) ≤ v / 2 ^ e
  below : ∀ n : ℕ, (n : ℚ) ≤ v / 2 ^ e → n ≤ r
  above : ∀ n : ℕ, v / 2 ^ e ≤ n → r ≤ n

end Format

/-! ## Choosing an exponent -/

theorem roundToEven_ge {num den n : ℕ} (hden : 0 < den) (h : n * den ≤ num) : n ≤ roundToEven num den := by
  have hlow : n ≤ num / den := (Nat.le_div_iff_mul_le hden).2 h
  unfold roundToEven
  simp only
  split_ifs <;> omega

theorem roundToEven_le {num den n : ℕ} (hden : 0 < den) (h : num ≤ n * den) : roundToEven num den ≤ n := by
  have hlow : num / den ≤ n := Nat.div_le_of_le_mul (by rwa [Nat.mul_comm])
  have hexact : num / den = n → num % den = 0 := by
    rintro rfl
    have := Nat.div_add_mod num den
    rw [Nat.mul_comm] at this
    omega
  unfold roundToEven
  simp only
  split_ifs <;> omega

/-- a power is a quotient of two natural powers, one of which is one -/
theorem scaled_ratio (a base : ℕ) (e : ℤ) :
    (a : ℚ) * (base : ℚ) ^ e = ((a * base ^ e.toNat : ℕ) : ℚ) / ((base ^ (-e).toNat : ℕ) : ℚ) := by
  obtain ⟨n, rfl | rfl⟩ := e.eq_nat_or_neg
  · simp
  · simp [div_eq_mul_inv]

theorem shiftDown_pos (num : ℕ) {den : ℕ} (hden : 0 < den) (e : ℤ) : 0 < (shiftDown num den e).2 :=
  Nat.mul_pos hden (Nat.pow_pos (by decide))

theorem shiftDown_ratio (num den : ℕ) (e : ℤ) :
    ((shiftDown num den e).1 : ℚ) / (shiftDown num den e).2 = (num : ℚ) / den / 2 ^ e := by
  obtain ⟨n, rfl | rfl⟩ := e.eq_nat_or_neg
  · simp [shiftDown, div_div]
  · simp [shiftDown]
    ring

/-- the quotient of two numbers lies within a factor of two of the power that their lengths suggest -/
theorem ratio_bounds {num den : ℕ} (hnum : 0 < num) (hden : 0 < den) :
    let size : ℤ := (Nat.log2 num : ℤ) - Nat.log2 den
    (2 : ℚ) ^ (size - 1) < (num : ℚ) / den ∧ (num : ℚ) / den < 2 ^ (size + 1) := by
  intro size
  have hnum_low : ((2 ^ Nat.log2 num : ℕ) : ℚ) ≤ num := Nat.cast_le.2 (Nat.log2_self_le hnum.ne')
  have hnum_high : (num : ℚ) < ((2 ^ (Nat.log2 num + 1) : ℕ) : ℚ) := Nat.cast_lt.2 Nat.lt_log2_self
  have hden_low : ((2 ^ Nat.log2 den : ℕ) : ℚ) ≤ den := Nat.cast_le.2 (Nat.log2_self_le hden.ne')
  have hden_high : (den : ℚ) < ((2 ^ (Nat.log2 den + 1) : ℕ) : ℚ) := Nat.cast_lt.2 Nat.lt_log2_self
  push_cast at hnum_low hnum_high hden_low hden_high
  have hpos : (0 : ℚ) < den := Nat.cast_pos.2 hden
  have htwo : (2 : ℚ) ≠ 0 := by norm_num
  constructor
  · rw [lt_div_iff₀ hpos]
    calc (2 : ℚ) ^ (size - 1) * den
        < 2 ^ (size - 1) * 2 ^ (Nat.log2 den + 1) := by gcongr
      _ = 2 ^ Nat.log2 num := by
        rw [← zpow_natCast, ← zpow_natCast, ← zpow_add₀ htwo]
        congr 1
        simp only [size]
        push_cast
        ring
      _ ≤ num := hnum_low
  · rw [div_lt_iff₀ hpos]
    calc (num : ℚ)
        < 2 ^ (Nat.log2 num + 1) := hnum_high
      _ = 2 ^ (size + 1) * 2 ^ Nat.log2 den := by
        rw [← zpow_natCast, ← zpow_natCast, ← zpow_add₀ htwo]
        congr 1
        simp only [size]
        push_cast
        ring
      _ ≤ 2 ^ (size + 1) * den := by gcongr

namespace Format

variable {f : Format}

/-- what is left is rounded to an integer next to it -/
theorem Rounds.of_exponent {num den : ℕ} {v : ℚ} {e : ℤ} (hv : (num : ℚ) / den = v) (hden : 0 < den)
    (least : f.leastExponent ≤ e) (fits : v / 2 ^ e < 2 ^ f.precision)
    (full : e = f.leastExponent ∨ (2 : ℚ) ^ (f.precision - 1) ≤ v / 2 ^ e) :
    f.Rounds v e (roundToEven (shiftDown num den e).1 (shiftDown num den e).2) := by
  have hpos := shiftDown_pos num hden e
  have hpos' : (0 : ℚ) < (shiftDown num den e).2 := Nat.cast_pos.2 hpos
  subst hv
  refine ⟨least, fits, full, fun n hn => ?_, fun n hn => ?_⟩
  · rw [← shiftDown_ratio, le_div_iff₀ hpos'] at hn
    exact roundToEven_ge hpos (by exact_mod_cast hn)
  · rw [← shiftDown_ratio, div_le_iff₀ hpos'] at hn
    exact roundToEven_le hpos (by exact_mod_cast hn)

/-- the exponent that the lengths suggest is the right one or one too small -/
theorem guess_bounds (hf : f.Proper) {v : ℚ} {size : ℤ} (hlow : (2 : ℚ) ^ (size - 1) < v)
    (hhigh : v < 2 ^ (size + 1)) :
    let guess := max (size - f.precision) f.leastExponent
    (guess = f.leastExponent ∨ (2 : ℚ) ^ (f.precision - 1) ≤ v / 2 ^ guess) ∧
      v / 2 ^ (guess + 1) < 2 ^ f.precision := by
  intro guess
  have hp := hf.precision
  have hpos (e : ℤ) : (0 : ℚ) < 2 ^ e := zpow_pos (by norm_num) e
  constructor
  · obtain h | h := le_total (size - f.precision) f.leastExponent
    · exact Or.inl (max_eq_right h)
    · right
      have hguess : guess = size - f.precision := max_eq_left h
      rw [le_div_iff₀ (hpos _)]
      calc (2 : ℚ) ^ (f.precision - 1) * 2 ^ guess
          = 2 ^ (size - 1) := by
            rw [← zpow_natCast, ← zpow_add₀ (by norm_num)]
            congr 1
            omega
        _ ≤ v := hlow.le
  · have hguess : size - f.precision ≤ guess := le_max_left _ _
    rw [div_lt_iff₀ (hpos _)]
    calc v < 2 ^ (size + 1) := hhigh
      _ ≤ 2 ^ ((f.precision : ℤ) + (guess + 1)) := zpow_le_zpow_right₀ (by norm_num) (by omega)
      _ = 2 ^ f.precision * 2 ^ (guess + 1) := by rw [zpow_add₀ (by norm_num), zpow_natCast]

theorem nearest_rounds (hf : f.Proper) {num den : ℕ} (hnum : 0 < num) (hden : 0 < den) :
    ∃ e r, f.Rounds ((num : ℚ) / den) e r ∧
      f.nearest num den = min f.infinity ((e - f.leastExponent).toNat * 2 ^ (f.precision - 1) + r) := by
  have hmin (a b : ℕ) : (if a < b then a else b) = min a b := by
    rw [min_def]
    split_ifs <;> omega
  obtain ⟨hlow, hhigh⟩ := ratio_bounds hnum hden
  obtain ⟨hfull, hhalf⟩ := guess_bounds hf hlow hhigh
  unfold nearest
  simp only [hmin]
  generalize hguess : max ((Nat.log2 num : ℤ) - Nat.log2 den - f.precision) f.leastExponent = guess at hfull hhalf ⊢
  have hleast : f.leastExponent ≤ guess := hguess ▸ le_max_right _ _
  have hwide : 2 ^ f.precision ≤ (shiftDown num den guess).1 / (shiftDown num den guess).2 ↔
      (2 : ℚ) ^ f.precision ≤ (num : ℚ) / den / 2 ^ guess := by
    have hpos := shiftDown_pos num hden guess
    rw [Nat.le_div_iff_mul_le hpos, ← shiftDown_ratio, le_div_iff₀ (Nat.cast_pos.2 hpos)]
    norm_cast
  split_ifs with h
  · rw [hwide] at h
    refine ⟨guess + 1, _, Rounds.of_exponent rfl hden (by omega) hhalf (Or.inr ?_), rfl⟩
    rw [zpow_add_one₀ (by norm_num), ← div_div, le_div_iff₀ (by norm_num), ← pow_succ,
      Nat.sub_add_cancel hf.precision]
    exact h
  · rw [hwide, not_le] at h
    exact ⟨guess, _, Rounds.of_exponent rfl hden hleast h hfull, rfl⟩

/-! ## What rounding keeps -/

namespace Rounds

variable {v : ℚ} {e : ℤ} {r : ℕ}

theorem le_full (h : f.Rounds v e r) : r ≤ 2 ^ f.precision := by
  refine h.above _ ?_
  push_cast
  exact h.fits.le

theorem ge_full (h : f.Rounds v e r) : e = f.leastExponent ∨ 2 ^ (f.precision - 1) ≤ r := by
  refine h.full.imp_right fun hfull => h.below _ ?_
  push_cast
  exact hfull

/-- a number on the grid is a whole multiple of what is rounded to, or lies below all full mantissas -/
theorem grid_cases (hf : f.Proper) (h : f.Rounds v e r) {u : ℚ} (hu : f.OnGrid u) :
    (∃ n : ℕ, u = n * 2 ^ e) ∨ (u ≤ 2 ^ (f.precision - 1) * 2 ^ e ∧ (2 : ℚ) ^ (f.precision - 1) ≤ v / 2 ^ e) := by
  obtain ⟨m, s, hm, hs, rfl⟩ := hu
  obtain hes | hse := le_or_gt e s
  · left
    obtain ⟨d, hd⟩ := Int.eq_ofNat_of_zero_le (sub_nonneg.2 hes)
    refine ⟨m * 2 ^ d, ?_⟩
    obtain rfl : s = d + e := by omega
    rw [zpow_add₀ (by norm_num), zpow_natCast]
    push_cast
    ring
  · right
    refine ⟨?_, h.full.resolve_left (by omega)⟩
    have hp := hf.precision
    have hm' : (m : ℚ) ≤ 2 ^ f.precision := by exact_mod_cast hm
    calc (m : ℚ) * 2 ^ s
        ≤ 2 ^ f.precision * 2 ^ (e - 1) := by
          gcongr
          · norm_num
          · omega
      _ = 2 ^ (f.precision - 1) * 2 ^ e := by
          rw [← zpow_natCast, ← zpow_natCast, ← zpow_add₀ (by norm_num), ← zpow_add₀ (by norm_num)]
          congr 1
          omega

/-- **Rounding crosses no number on the grid.** -/
theorem faithful (hf : f.Proper) (h : f.Rounds v e r) {u : ℚ} (hu : f.OnGrid u) :
    (u ≤ v → u ≤ r * 2 ^ e) ∧ (v ≤ u → (r : ℚ) * 2 ^ e ≤ u) := by
  have hpos : (0 : ℚ) < 2 ^ e := zpow_pos (by norm_num) e
  obtain ⟨n, rfl⟩ | ⟨hsmall, hfull⟩ := h.grid_cases hf hu
  · constructor
    · intro hle
      have hn : n ≤ r := h.below n ((le_div_iff₀ hpos).2 hle)
      gcongr
    · intro hge
      have hn : r ≤ n := h.above n ((div_le_iff₀ hpos).2 hge)
      gcongr
  · constructor
    · intro _
      have hr : 2 ^ (f.precision - 1) ≤ r := h.below _ (by push_cast; exact hfull)
      have hr' : (2 : ℚ) ^ (f.precision - 1) ≤ r := by exact_mod_cast hr
      calc u ≤ 2 ^ (f.precision - 1) * 2 ^ e := hsmall
        _ ≤ r * 2 ^ e := by gcongr
    · -- the exact value lies at the least full mantissa, where it meets `u`
      intro hge
      have hv : v / 2 ^ e ≤ ((2 ^ (f.precision - 1) : ℕ) : ℚ) := by
        rw [div_le_iff₀ hpos]
        push_cast
        exact hge.trans hsmall
      have hr : (r : ℚ) ≤ 2 ^ (f.precision - 1) := by exact_mod_cast h.above _ hv
      calc (r : ℚ) * 2 ^ e ≤ 2 ^ (f.precision - 1) * 2 ^ e := by gcongr
        _ ≤ v := (le_div_iff₀ hpos).1 hfull
        _ ≤ u := hge

end Rounds

/-! ## Bits -/

/-- infinity has one biased exponent more than the greatest numbers -/
theorem infinity_eq (hf : f.Proper) :
    ∃ d : ℕ, f.greatestExponent = f.leastExponent + d ∧ f.infinity = (d + 2) * 2 ^ (f.precision - 1) := by
  obtain ⟨d, hd⟩ := Int.eq_ofNat_of_zero_le (sub_nonneg.2 hf.range)
  refine ⟨d, by omega, ?_⟩
  rw [infinity]
  congr 1
  omega

theorem two_pow_precision (hf : f.Proper) : 2 ^ f.precision = 2 * 2 ^ (f.precision - 1) := by
  rw [← pow_succ', Nat.sub_add_cancel hf.precision]

theorem lt_infinity_of_decode (hf : f.Proper) {bits : ℕ} {b : Binary} (h : f.decode bits = some b) :
    bits < f.infinity := by
  obtain ⟨d, hd, hinfinity⟩ := infinity_eq hf
  have hpos : 0 < 2 ^ (f.precision - 1) := Nat.pow_pos (by decide)
  rw [hinfinity, ← Nat.div_lt_iff_lt_mul hpos]
  unfold decode at h
  simp only at h
  split_ifs at h <;> omega

/-- bits without a biased exponent stand for a mantissa at the least exponent -/
theorem decode_small {t : ℕ} (ht : t < 2 ^ (f.precision - 1)) : f.decode t = some ⟨t, f.leastExponent⟩ := by
  simp [decode, Nat.div_eq_of_lt ht, Nat.mod_eq_of_lt ht]

/-- other bits below infinity stand for a full mantissa -/
theorem decode_large (hf : f.Proper) {n t : ℕ} (ht : t < 2 ^ (f.precision - 1)) (hn : n ≠ 0)
    (hbits : n * 2 ^ (f.precision - 1) + t < f.infinity) :
    f.decode (n * 2 ^ (f.precision - 1) + t) = some ⟨t + 2 ^ (f.precision - 1), f.leastExponent + n - 1⟩ := by
  obtain ⟨d, hd, hinfinity⟩ := infinity_eq hf
  have hpos : 0 < 2 ^ (f.precision - 1) := Nat.pow_pos (by decide)
  have hdiv : (n * 2 ^ (f.precision - 1) + t) / 2 ^ (f.precision - 1) = n := by
    rw [Nat.mul_comm, Nat.mul_add_div hpos, Nat.div_eq_of_lt ht, Nat.add_zero]
  have hmod : (n * 2 ^ (f.precision - 1) + t) % 2 ^ (f.precision - 1) = t := by
    rw [Nat.mul_comm, Nat.mul_add_mod, Nat.mod_eq_of_lt ht]
  rw [hinfinity, ← Nat.div_lt_iff_lt_mul hpos, hdiv] at hbits
  simp only [decode, hdiv, hmod, hn, if_false]
  rw [if_neg (by omega)]

/-- below infinity the bits stand for the mantissa at its exponent; a mantissa one too large carries over -/
theorem decode_mantissa (hf : f.Proper) {k r : ℕ} (hle : r ≤ 2 ^ f.precision)
    (hge : k = 0 ∨ 2 ^ (f.precision - 1) ≤ r) (hbits : k * 2 ^ (f.precision - 1) + r < f.infinity) :
    ∃ b, f.decode (k * 2 ^ (f.precision - 1) + r) = some b ∧ b.value = r * 2 ^ (f.leastExponent + k) := by
  rw [two_pow_precision hf] at hle
  obtain hsmall | hlarge := lt_or_ge r (2 ^ (f.precision - 1))
  · obtain rfl : k = 0 := hge.resolve_right (by omega)
    exact ⟨_, by simpa using decode_small hsmall, by simp [Binary.value]⟩
  -- a full mantissa puts one into the biased exponent, and one that is too large puts in another
  obtain hfull | hcarry := hle.lt_or_eq
  · have hsplit : k * 2 ^ (f.precision - 1) + r = (k + 1) * 2 ^ (f.precision - 1) + (r - 2 ^ (f.precision - 1)) := by
      rw [Nat.add_mul]
      omega
    have hexponent : f.leastExponent + ((k + 1 : ℕ) : ℤ) - 1 = f.leastExponent + k := by omega
    rw [hsplit] at hbits ⊢
    refine ⟨_, decode_large hf (by omega) (by omega) hbits, ?_⟩
    simp only [Binary.value, Nat.sub_add_cancel hlarge, hexponent]
  · have hsplit : k * 2 ^ (f.precision - 1) + r = (k + 2) * 2 ^ (f.precision - 1) + 0 := by
      rw [Nat.add_mul]
      omega
    have hexponent : f.leastExponent + ((k + 2 : ℕ) : ℤ) - 1 = f.leastExponent + k + 1 := by omega
    rw [hsplit] at hbits ⊢
    refine ⟨_, decode_large hf (Nat.pow_pos (by decide)) (by omega) hbits, ?_⟩
    simp only [Binary.value, hcarry, hexponent, Nat.zero_add]
    rw [zpow_add_one₀ (by norm_num)]
    push_cast
    ring

/-- bits from infinity on belong to numbers beyond the end of the format -/
theorem mantissa_beyond (hf : f.Proper) {k r : ℕ} (hle : r ≤ 2 ^ f.precision)
    (hge : k = 0 ∨ 2 ^ (f.precision - 1) ≤ r) (hbits : f.infinity ≤ k * 2 ^ (f.precision - 1) + r) :
    (2 : ℚ) ^ (f.precision + f.greatestExponent) ≤ r * 2 ^ (f.leastExponent + k) := by
  obtain ⟨d, hd, hinfinity⟩ := infinity_eq hf
  have hp := two_pow_precision hf
  have hpos : 0 < 2 ^ (f.precision - 1) := Nat.pow_pos (by decide)
  rw [hinfinity] at hbits
  have hdk : d ≤ k := by
    refine Nat.le_of_mul_le_mul_right (c := 2 ^ (f.precision - 1)) ?_ hpos
    rw [Nat.add_mul] at hbits
    omega
  rw [zpow_add₀ (by norm_num), zpow_natCast]
  obtain rfl | hlt := hdk.eq_or_lt
  · have hr : 2 ^ f.precision ≤ r := by
      rw [Nat.add_mul] at hbits
      omega
    have hr' : (2 : ℚ) ^ f.precision ≤ r := by exact_mod_cast hr
    rw [hd]
    gcongr
  · have hr : 2 ^ (f.precision - 1) ≤ r := hge.resolve_left (by omega)
    have hr' : (2 : ℚ) ^ (f.precision - 1) ≤ r := by exact_mod_cast hr
    have hexponent : (2 : ℚ) ^ (f.greatestExponent + 1) ≤ 2 ^ (f.leastExponent + k) :=
      zpow_le_zpow_right₀ (by norm_num) (by omega)
    have hp' : (2 : ℚ) ^ f.precision = 2 ^ (f.precision - 1) * 2 := by
      rw [← pow_succ, Nat.sub_add_cancel hf.precision]
    calc (2 : ℚ) ^ f.precision * 2 ^ f.greatestExponent
        = 2 ^ (f.precision - 1) * 2 ^ (f.greatestExponent + 1) := by
          rw [hp', zpow_add_one₀ (by norm_num)]
          ring
      _ ≤ r * 2 ^ (f.leastExponent + k) := by gcongr

/-- **The nearest number of a format is faithful** to the exact quotient. -/
theorem nearest_faithful (hf : f.Proper) {num den : ℕ} (hnum : 0 < num) (hden : 0 < den) :
    f.Faithful ((num : ℚ) / den) (f.nearest num den) := by
  obtain ⟨e, r, h, hnearest⟩ := nearest_rounds hf hnum hden
  obtain ⟨k, hk⟩ := Int.eq_ofNat_of_zero_le (sub_nonneg.2 h.least)
  obtain rfl : e = f.leastExponent + k := by omega
  have hge : k = 0 ∨ 2 ^ (f.precision - 1) ≤ r := h.ge_full.imp_left (by omega)
  rw [hnearest, show (f.leastExponent + (k : ℤ) - f.leastExponent).toNat = k by omega]
  obtain hbits | hbits := lt_or_ge (k * 2 ^ (f.precision - 1) + r) f.infinity
  · left
    obtain ⟨b, hb, hvalue⟩ := decode_mantissa hf h.le_full hge hbits
    rw [min_eq_right hbits.le]
    refine ⟨b, hb, fun u hu => ?_⟩
    rw [hvalue]
    exact h.faithful hf hu
  · right
    rw [min_eq_left hbits]
    refine ⟨rfl, fun u hu hle => ?_⟩
    exact (mantissa_beyond hf h.le_full hge hbits).trans ((h.faithful hf hu).2 hle)

end Format

/-! ## Decimals -/

theorem double_proper : double.Proper := ⟨by decide, by decide⟩

/-- both ends of double precision lie well within four hundred decimal places -/
theorem two_pow_lt : (2 : ℚ) ^ 1074 < 10 ^ 400 :=
  calc (2 : ℚ) ^ 1074 = (2 ^ 3) ^ 358 := pow_mul 2 3 358
    _ ≤ 10 ^ 358 := by gcongr; norm_num
    _ < 10 ^ 400 := pow_lt_pow_right₀ (by norm_num) (by norm_num)

/-- double precision bits of zero are faithful to what is smaller than all its numbers -/
theorem zero_faithful {v : ℚ} (hv : 0 ≤ v) (hsmall : v < 2 ^ (-1074 : ℤ)) : double.Faithful v 0 := by
  left
  refine ⟨⟨0, -1074⟩, rfl, fun u hu => ?_⟩
  simp only [Binary.value, Nat.cast_zero, zero_mul]
  refine ⟨fun hle => ?_, fun hle => hv.trans hle⟩
  obtain ⟨m, s, -, hs, rfl⟩ := hu
  obtain rfl | hm := Nat.eq_zero_or_pos m
  · simp
  · exfalso
    have hm' : (1 : ℚ) ≤ m := by exact_mod_cast hm
    have hs' : (2 : ℚ) ^ (-1074 : ℤ) ≤ 2 ^ s := zpow_le_zpow_right₀ (by norm_num) hs
    have hpos : (0 : ℚ) < 2 ^ s := zpow_pos (by norm_num) s
    nlinarith

/-- infinity is faithful to what lies beyond all numbers in double precision -/
theorem infinity_faithful {v : ℚ} (hv : (2 : ℚ) ^ (1024 : ℤ) ≤ v) : double.Faithful v double.infinity :=
  Or.inr ⟨rfl, fun _ _ hle => hv.trans hle⟩

/-- **A decimal is read faithfully**, its coefficient having the given number of digits. -/
theorem scaledBits_faithful {c digits : ℕ} (e : ℤ) (hhigh : c < 10 ^ digits)
    (hlow : c = 0 ∨ 10 ^ digits ≤ 10 * c) : double.Faithful ((c : ℚ) * 10 ^ e) (scaledBits c digits e) := by
  have hten : (0 : ℚ) < 10 ^ e := zpow_pos (by norm_num) e
  unfold scaledBits
  split_ifs with hzero hlarge hsmall
  · subst hzero
    exact zero_faithful (by simp) (by simp)
  · refine infinity_faithful ?_
    have hc : ((10 ^ digits : ℕ) : ℚ) ≤ ((10 * c : ℕ) : ℚ) := Nat.cast_le.2 (hlow.resolve_left hzero)
    push_cast at hc
    have hpower : (10 : ℚ) ^ (400 : ℤ) * 10 ≤ 10 ^ digits * 10 ^ e := by
      rw [← zpow_add_one₀ (by norm_num), ← zpow_natCast, ← zpow_add₀ (by norm_num)]
      exact zpow_le_zpow_right₀ (by norm_num) (by omega)
    calc (2 : ℚ) ^ (1024 : ℤ) ≤ 2 ^ (1074 : ℤ) := zpow_le_zpow_right₀ (by norm_num) (by norm_num)
      _ ≤ 10 ^ (400 : ℤ) := two_pow_lt.le
      _ ≤ c * 10 ^ e := by nlinarith
  · refine zero_faithful (by positivity) ?_
    have hc : (c : ℚ) < ((10 ^ digits : ℕ) : ℚ) := Nat.cast_lt.2 hhigh
    push_cast at hc
    calc (c : ℚ) * 10 ^ e < 10 ^ digits * 10 ^ e := by gcongr
      _ = 10 ^ (digits + e : ℤ) := by rw [zpow_add₀ (by norm_num), zpow_natCast]
      _ ≤ 10 ^ (-400 : ℤ) := zpow_le_zpow_right₀ (by norm_num) (by omega)
      _ < 2 ^ (-1074 : ℤ) := by
        rw [zpow_neg, zpow_neg]
        exact inv_strictAnti₀ (by positivity) two_pow_lt
  · have hratio := scaled_ratio c 10 e
    rw [Nat.cast_ofNat] at hratio
    rw [hratio]
    exact Format.nearest_faithful double_proper (Nat.mul_pos (Nat.pos_of_ne_zero hzero) (Nat.pow_pos (by decide)))
      (Nat.pow_pos (by decide))

end FluentSql.Decimal
