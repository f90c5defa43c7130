import Mathlib.Algebra.Group.Nat.Defs
import Mathlib.Tactic.Common
import Calculator.Decimal.Basic

/-!
# The digits of a number

How many digits a natural number has is a matter of the powers of ten up to it
(`Decimal.length_digits_le_iff`). The first of them is zero only if the number is
(`Decimal.exists_digits_eq_cons`), and the last one only if ten divides it
(`Decimal.exists_digits_eq_concat`).
-/

namespace Calculator.Decimal

/-- A number has a digit. -/
lemma length_digits_pos (n : Nat) : 0 < (digits n).length :=
  Nat.length_toDigits_pos

/-- The digits of a number are some. -/
lemma digits_ne_nil (n : Nat) : digits n ≠ [] :=
  List.length_pos_iff.mp (length_digits_pos n)

/-- A number has as many digits at most as the power of ten above it has zeros. -/
lemma length_digits_le_iff {n size : Nat} (positive : 0 < size) :
    (digits n).length ≤ size ↔ n < 10 ^ size :=
  Nat.length_toDigits_le_iff (by decide) positive

/-- A number is below the power of ten with as many zeros as it has digits. -/
lemma lt_pow_length_digits (n : Nat) : n < 10 ^ (digits n).length :=
  (length_digits_le_iff (length_digits_pos n)).mp (Nat.le_refl _)

/-- A number is at least the power of ten with as many digits. -/
lemma pow_le_of_lt_length_digits {n size : Nat} (nonzero : n ≠ 0) (h : size < (digits n).length) :
    10 ^ size ≤ n := by
  rcases Nat.eq_zero_or_pos size with rfl | positive
  · exact Nat.pos_of_ne_zero nonzero
  · by_contra less
    exact absurd ((length_digits_le_iff positive).mpr (Nat.not_le.mp less)) (Nat.not_le.mpr h)

/-- The last digit of a number is zero just if ten divides it. -/
lemma exists_digits_eq_concat (n : Nat) :
    ∃ front last, digits n = front ++ [last] ∧ (last = '0' ↔ n % 10 = 0) := by
  rcases Nat.lt_or_ge n 10 with small | large
  · refine ⟨[], n.digitChar, Nat.toDigits_of_lt_base small, ?_⟩
    rw [Nat.digitChar_eq_zero, Nat.mod_eq_of_lt small]
  · exact ⟨_, _, Nat.toDigits_of_base_le (by decide) large, Nat.digitChar_eq_zero⟩

/-- The first digit of a number other than zero is not zero. -/
lemma exists_digits_eq_cons {n : Nat} (nonzero : n ≠ 0) :
    ∃ first rest, digits n = first :: rest ∧ first ≠ '0' := by
  induction n using Nat.strongRecOn with
  | ind n ih =>
      rcases Nat.lt_or_ge n 10 with small | large
      · refine ⟨n.digitChar, [], Nat.toDigits_of_lt_base small, ?_⟩
        rw [ne_eq, Nat.digitChar_eq_zero]
        exact nonzero
      · obtain ⟨first, rest, hdigits, hfirst⟩ := ih (n / 10) (by omega) (by omega)
        refine ⟨first, rest ++ [(n % 10).digitChar], ?_, hfirst⟩
        rw [digits, Nat.toDigits_of_base_le (by decide) large, ← digits, hdigits]
        rfl

end Calculator.Decimal
