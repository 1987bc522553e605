/-
SqlScript/Number/Rounding.lean

Rounding a quotient to the nearest integer.

Every inexact result in this library, binary or decimal, comes from one exact
fraction that is rounded once, to the nearest integer of some unit and to the even
one of two that are equally near.  `roundDiv` is that step.  Its two laws say that
it stays within half a unit and that a half goes to the even neighbour.
-/
import SqlScript.Text.Digit

namespace SqlScript.Number

/-- `num / den` rounded to the nearest integer; a half goes to the even neighbour. -/
def roundDiv (num den : Nat) : Nat :=
  let q := num / den
  let r := num % den
  if den < 2 * r then q + 1
  else if 2 * r = den ∧ q % 2 = 1 then q + 1
  else q

/-- The fraction `num / den * base ^ shift` as numerator and denominator. -/
def scaled (base num den : Nat) (shift : Int) : Nat × Nat :=
  if 0 ≤ shift then (num * Nat.pow base shift.toNat, den)
  else (num, den * Nat.pow base (-shift).toNat)

/-- The least `k` with `num / den < 10 ^ k`, for a positive fraction that is at
least one or no power of ten: where the decimal point stands relative to the first
significant digit. -/
def pointPosition (num den : Nat) : Int :=
  if den ≤ num then Text.digitCount (num / den)
  else 1 - Text.digitCount (den / num)

/-! ### Laws of rounding -/

/-- The rounded quotient is at most half a unit away from the exact one. -/
theorem roundDiv_near (num den : Nat) (h : 0 < den) :
    2 * num ≤ 2 * (roundDiv num den * den) + den ∧
      2 * (roundDiv num den * den) ≤ 2 * num + den := by
  have hq : den * (num / den) + num % den = num := Nat.div_add_mod num den
  have hr : num % den < den := Nat.mod_lt num h
  have hs : (num / den + 1) * den = den * (num / den) + den := by
    rw [Nat.add_mul, Nat.mul_comm, Nat.one_mul]
  have hc : num / den * den = den * (num / den) := Nat.mul_comm _ _
  unfold roundDiv
  dsimp only
  split
  · omega
  · split
    · omega
    · omega

/-- An exact quotient is its own rounding. -/
theorem roundDiv_mul_right (n den : Nat) (h : 0 < den) : roundDiv (n * den) den = n := by
  have hq : n * den / den = n := Nat.mul_div_cancel n h
  have hr : n * den % den = 0 := Nat.mul_mod_left n den
  unfold roundDiv
  simp only [hq, hr]
  split
  · omega
  · split
    · omega
    · rfl

end SqlScript.Number
