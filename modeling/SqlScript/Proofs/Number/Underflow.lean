/-
SqlScript/Proofs/Number/Underflow.lean

Which numbers are rounded to zero.

Rounding works on fractions of natural numbers, and on powers of a base that may have
negative exponents.  Here these are rational numbers, and `scaled` multiplies a fraction by a
power (`scaled_ratio`).

A quotient becomes zero if it is at most one half (`roundDiv_eq_zero_iff`).  The unit that a
number is rounded to is either the least unit of the format, or 52 binary places below the
leading bit of the number (`unitExponent_cases`), and then the number is far above one half
of it.  So a number is rounded to a zero exactly if it is at most one half of the least unit
(`isZero_ofRatio_iff`), and likewise if it is given as a decimal, where exponents far outside
the format are settled without their powers (`isZero_ofDecimal_iff`).
-/
import Mathlib
import SqlScript.Number.Binary64

namespace SqlScript

/-! ### The size of a number with given digits -/

namespace Text

theorem lt_pow_digitCount (n : Nat) : n < 10 ^ digitCount n :=
  (Nat.length_toDigits_le_iff (by decide) Nat.length_toDigits_pos).mp le_rfl

theorem pow_digitCount_le {n : Nat} (h : n ≠ 0) : 10 ^ (digitCount n - 1) ≤ n := by
  by_cases one : digitCount n - 1 = 0
  · rw [one, pow_zero]
    exact Nat.one_le_iff_ne_zero.mpr h
  · by_contra hlt
    have short : digitCount n ≤ digitCount n - 1 :=
      (Nat.length_toDigits_le_iff (by decide) (Nat.pos_of_ne_zero one)).mpr (not_le.mp hlt)
    omega

theorem digitCount_pos (n : Nat) : 0 < digitCount n := Nat.length_toDigits_pos

end Text

/-! ### Fractions as rational numbers -/

namespace Number

theorem scaled_pos {base den : Nat} (hb : 0 < base) (hd : 0 < den) (num : Nat) (shift : Int) :
    0 < (scaled base num den shift).2 := by
  rw [scaled]
  split
  · exact hd
  · exact Nat.mul_pos hd (Nat.pow_pos hb)

/-- Scaling multiplies by a power of the base. -/
theorem scaled_ratio (base num den : Nat) (shift : Int) :
    ((scaled base num den shift).1 / (scaled base num den shift).2 : ℚ)
      = num / den * (base : ℚ) ^ shift := by
  rw [scaled]
  split
  · next h =>
    obtain ⟨k, rfl⟩ := Int.eq_ofNat_of_zero_le h
    simp only [Int.toNat_natCast, Nat.pow_eq, Nat.cast_mul, Nat.cast_pow,
      zpow_natCast]
    ring
  · next h =>
    obtain ⟨k, rfl⟩ : ∃ k : Nat, shift = -k := ⟨(-shift).toNat, by omega⟩
    simp only [neg_neg, Int.toNat_natCast, Nat.pow_eq, Nat.cast_mul, Nat.cast_pow,
      zpow_neg, zpow_natCast]
    rw [← div_div, div_eq_mul_inv (_ / _)]

/-- A quotient is rounded to zero if it is at most one half. -/
theorem roundDiv_eq_zero_iff (num : Nat) {den : Nat} (h : 0 < den) :
    roundDiv num den = 0 ↔ (num / den : ℚ) ≤ 1 / 2 := by
  have halves : (num / den : ℚ) ≤ 1 / 2 ↔ 2 * num ≤ den := by
    rw [div_le_iff₀ (by exact_mod_cast h), ← Nat.cast_le (α := ℚ)]
    push_cast
    constructor <;> intro <;> linarith
  have near := roundDiv_near num den h
  rw [halves]
  constructor
  · intro zero
    rw [zero] at near
    omega
  · intro half
    by_cases all : num = 0
    · simpa [all] using roundDiv_mul_right 0 den h
    -- up to one half the remainder is the number itself
    · have lt : num < den := by omega
      unfold roundDiv
      simp only [Nat.div_eq_of_lt lt, Nat.mod_eq_of_lt lt]
      rw [if_neg (by omega), if_neg (by omega)]

end Number

end SqlScript

namespace SqlScript.Binary64

open SqlScript.Number

/-! ### The unit in the last place -/

/-- Two to the difference of two logarithms, less one, is below the quotient. -/
theorem zpow_log2_sub_le {num den : Nat} (hn : num ≠ 0) (hd : 0 < den) :
    (2 : ℚ) ^ ((num.log2 : Int) - den.log2 - 1) ≤ num / den := by
  have lower : (2 : ℚ) ^ num.log2 ≤ num := by exact_mod_cast Nat.log2_self_le hn
  have upper : (den : ℚ) ≤ 2 ^ (den.log2 + 1) := by exact_mod_cast Nat.lt_log2_self.le
  have hden : (0 : ℚ) < den := by exact_mod_cast hd
  have split : (num.log2 : Int) - den.log2 - 1 = (num.log2 : Int) - (den.log2 + 1 : Nat) := by
    push_cast
    ring
  rw [split, zpow_sub₀ two_ne_zero, zpow_natCast, zpow_natCast]
  gcongr

/-- The unit in the last place is the least one of the format, or the number is at least
`2 ^ 52` of it. -/
theorem unitExponent_cases {num den : Nat} (hn : num ≠ 0) (hd : 0 < den) :
    unitExponent num den = minExponent ∨
      minExponent < unitExponent num den ∧
        (2 : ℚ) ^ (unitExponent num den + 52) ≤ num / den := by
  set guess : Int := (num.log2 : Int) - den.log2 with hguess
  set low := scaled 2 1 1 guess with hlow
  -- whichever exponent is chosen, the power is not above the number
  have lead : (2 : ℚ) ^ (if low.1 * den ≤ num * low.2 then guess else guess - 1) ≤ num / den := by
    split
    · next h =>
      have positive : 0 < low.2 := scaled_pos (by decide) (by decide) 1 guess
      have power : (low.1 / low.2 : ℚ) = 2 ^ guess := by simp [hlow, scaled_ratio]
      rw [← power, div_le_div_iff₀ (by exact_mod_cast positive) (by exact_mod_cast hd)]
      exact_mod_cast h
    · exact zpow_log2_sub_le hn hd
  have chosen : unitExponent num den =
      max ((if low.1 * den ≤ num * low.2 then guess else guess - 1) - 52) minExponent := rfl
  rcases max_choice ((if low.1 * den ≤ num * low.2 then guess else guess - 1) - 52) minExponent
    with high | least
  · rw [high] at chosen
    by_cases h : unitExponent num den = minExponent
    · exact .inl h
    · refine .inr ⟨lt_of_le_of_ne ?_ (Ne.symm h), ?_⟩
      · rw [chosen, ← high]
        exact le_max_right _ _
      · rwa [chosen, sub_add_cancel]
  · exact .inl (chosen.trans least)

/-! ### Rounding to zero -/

/-- One half of the least positive number. -/
def halfLeast : ℚ := 2 ^ (-1075 : Int)

theorem halfLeast_pos : 0 < halfLeast := zpow_pos two_pos _

/-- The significand of a number, before a carry. -/
def significand (num den : Nat) : Nat :=
  let units := scaled 2 num den (-unitExponent num den)
  roundDiv units.1 units.2

theorem ofRatio_of_ne (negative : Bool) {num den : Nat} (hn : num ≠ 0) :
    ofRatio negative num den =
      let carried := significand num den = Nat.pow 2 53
      let exponent := if carried then unitExponent num den + 1 else unitExponent num den
      if maxExponent < exponent then infinite negative
      else finite negative (if carried then Nat.pow 2 52 else significand num den) exponent :=
  if_neg hn

theorem significand_eq_zero_iff {num den : Nat} (hd : 0 < den) :
    significand num den = 0 ↔
      (num / den * 2 ^ (-unitExponent num den) : ℚ) ≤ 1 / 2 := by
  rw [significand, roundDiv_eq_zero_iff _ (scaled_pos (by decide) hd num _), scaled_ratio,
    Nat.cast_ofNat]

/-- A significand is zero at the least exponent only. -/
theorem unitExponent_of_significand {num den : Nat} (hn : num ≠ 0) (hd : 0 < den)
    (h : significand num den = 0) : unitExponent num den = minExponent := by
  refine (unitExponent_cases hn hd).resolve_right ?_
  rintro ⟨-, large⟩
  have scale : (0 : ℚ) < 2 ^ (-unitExponent num den) := zpow_pos two_pos _
  have half := (significand_eq_zero_iff hd).mp h
  have many : (2 : ℚ) ^ (52 : Int) ≤ num / den * 2 ^ (-unitExponent num den) := by
    have units := mul_le_mul_of_nonneg_right large scale.le
    rwa [← zpow_add₀ two_ne_zero, add_neg_cancel_comm] at units
  exact absurd (many.trans half) (by norm_num)

theorem significand_eq_zero {num den : Nat} (hn : num ≠ 0) (hd : 0 < den) :
    significand num den = 0 ↔ (num / den : ℚ) ≤ halfLeast := by
  rcases unitExponent_cases hn hd with least | ⟨above, large⟩
  · have power : (0 : ℚ) < 2 ^ (-minExponent) := zpow_pos two_pos _
    have half : (1 / 2 : ℚ) / 2 ^ (-minExponent) = halfLeast := by
      rw [one_div, ← zpow_neg_one, ← zpow_sub₀ two_ne_zero]
      rfl
    rw [significand_eq_zero_iff hd, least, ← le_div_iff₀ power, half]
  -- above the least exponent neither side holds
  · have small : halfLeast < num / den := by
      refine lt_of_lt_of_le ?_ large
      exact zpow_lt_zpow_right₀ one_lt_two (by rw [minExponent] at above; omega)
    constructor
    · intro zero
      exact absurd (unitExponent_of_significand hn hd zero) above.ne'
    · exact fun h => absurd h (not_le.mpr small)

/-- **Rounding to zero.**  A number is rounded to a zero exactly if it is at most one half of
the least positive number. -/
theorem isZero_ofRatio_iff (negative : Bool) (num : Nat) {den : Nat} (hd : 0 < den) :
    (ofRatio negative num den).isZero = true ↔ (num / den : ℚ) ≤ halfLeast := by
  by_cases hn : num = 0
  · rw [hn, ofRatio, if_pos rfl, Nat.cast_zero, zero_div]
    exact iff_of_true rfl halfLeast_pos.le
  rw [← significand_eq_zero hn hd, ofRatio_of_ne negative hn]
  by_cases zero : significand num den = 0
  · rw [zero, unitExponent_of_significand hn hd zero]
    exact iff_of_true rfl rfl
  -- neither an infinity nor a significand that was carried is zero
  · refine iff_of_false ?_ zero
    dsimp only
    by_cases large : maxExponent <
        if significand num den = Nat.pow 2 53 then unitExponent num den + 1
        else unitExponent num den
    · rw [if_pos large]
      exact Bool.false_ne_true
    · rw [if_neg large]
      by_cases carried : significand num den = Nat.pow 2 53
      · rw [if_pos carried]
        exact Bool.false_ne_true
      · rw [if_neg carried]
        simpa [isZero] using zero

/-- The same for a decimal. -/
theorem isZero_ofDecimal_iff (negative : Bool) (coefficient : Nat) (exponent : Int) :
    (ofDecimal negative coefficient exponent).isZero = true ↔
      (coefficient * 10 ^ exponent : ℚ) ≤ halfLeast := by
  by_cases hc : coefficient = 0
  · rw [hc, ofDecimal, if_pos rfl, Nat.cast_zero, zero_mul]
    exact iff_of_true rfl halfLeast_pos.le
  rw [ofDecimal, if_neg hc]
  have ten : (1 : ℚ) < 10 := by norm_num
  have scale : (0 : ℚ) < 10 ^ exponent := zpow_pos (by norm_num) _
  set count := Text.digitCount coefficient with hcount
  -- the leading digit bounds the number on both sides
  have lower : (10 : ℚ) ^ ((count : Int) - 1 + exponent) ≤ coefficient * 10 ^ exponent := by
    have positive : 0 < count := Text.digitCount_pos coefficient
    have cast : (count : Int) - 1 = (count - 1 : Nat) := by omega
    rw [zpow_add₀ (by norm_num), cast, zpow_natCast]
    have digits : (10 : ℚ) ^ (count - 1) ≤ coefficient := by
      exact_mod_cast Text.pow_digitCount_le hc
    gcongr
  have upper : (coefficient * 10 ^ exponent : ℚ) < 10 ^ ((count : Int) + exponent) := by
    rw [zpow_add₀ (by norm_num), zpow_natCast]
    have digits : (coefficient : ℚ) < 10 ^ count := by
      exact_mod_cast Text.lt_pow_digitCount coefficient
    gcongr
  show (if 310 < (count : Int) + exponent then infinite negative
    else if (count : Int) + exponent < -325 then zero negative
    else ofRatio negative _ _).isZero = true ↔ _
  split
  · next far =>
    refine iff_of_false Bool.false_ne_true (not_le.mpr ?_)
    calc halfLeast < 2 ^ (0 : Int) := zpow_lt_zpow_right₀ one_lt_two (by decide)
      _ = 10 ^ (0 : Int) := by rw [zpow_zero, zpow_zero]
      _ ≤ 10 ^ ((count : Int) - 1 + exponent) := zpow_le_zpow_right₀ ten.le (by omega)
      _ ≤ coefficient * 10 ^ exponent := lower
  split
  · next near =>
    have least : (10 : ℚ) ^ (-326 : Int) ≤ halfLeast := by
      calc (10 : ℚ) ^ (-326 : Int) ≤ 10 ^ (-325 : Int) := zpow_le_zpow_right₀ ten.le (by decide)
        _ = (10 ^ (-13 : Int)) ^ (25 : Int) := by rw [← zpow_mul]; rfl
        _ ≤ (2 ^ (-43 : Int)) ^ (25 : Int) :=
          zpow_le_zpow_left₀ (by decide) (by norm_num) (by norm_num)
        _ = halfLeast := by rw [← zpow_mul]; rfl
    refine iff_of_true rfl ?_
    calc (coefficient * 10 ^ exponent : ℚ) ≤ 10 ^ ((count : Int) + exponent) := upper.le
      _ ≤ 10 ^ (-326 : Int) := zpow_le_zpow_right₀ ten.le (by omega)
      _ ≤ halfLeast := least
  · rw [isZero_ofRatio_iff negative _ (scaled_pos (by decide) (by decide) coefficient exponent)]
    rw [scaled_ratio, Nat.cast_one, div_one, Nat.cast_ofNat]

end SqlScript.Binary64
