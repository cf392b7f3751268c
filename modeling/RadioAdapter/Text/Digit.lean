/-! # Digits

A number in decimal starts with no zero, unless it is zero. The hexadecimal
digits below ten are the decimal ones, and the letters of either case count on
from there. Writing uses the small letters.
-/

namespace RadioAdapter.Text

/-! ## Hexadecimal digits -/

/-- The value of a hexadecimal digit. -/
def hexValue? (c : Char) : Option Nat :=
  if c.isDigit then some (c.toNat - 48)
  else if 'a' ≤ c ∧ c ≤ 'f' then some (c.toNat - 87)
  else if 'A' ≤ c ∧ c ≤ 'F' then some (c.toNat - 55)
  else none

/-- Every value below sixteen is read back from its digit. -/
theorem hexValue?_digitChar {value : Nat} (h : value < 16) :
    hexValue? (Nat.digitChar value) = some value := by
  have hall : ∀ n ∈ List.range 16, hexValue? (Nat.digitChar n) = some n := by decide
  exact hall value (List.mem_range.2 h)

/-! ## Decimal numbers -/

theorem isDigit_of_mem_toDigits {n : Nat} {c : Char} (hc : c ∈ Nat.toDigits 10 n) :
    c.isDigit = true :=
  Nat.isDigit_of_mem_toDigits (by decide) (by decide) hc

theorem exists_toDigits_eq_cons (n : Nat) :
    ∃ first later, Nat.toDigits 10 n = first :: later ∧ first.isDigit = true := by
  cases hdigits : Nat.toDigits 10 n with
  | nil => exact absurd hdigits Nat.toDigits_ne_nil
  | cons first later =>
      have hmem : first ∈ Nat.toDigits 10 n := by simp [hdigits]
      exact ⟨first, later, rfl, isDigit_of_mem_toDigits hmem⟩

/-- No zero leads in a number that is not zero. -/
theorem head?_toDigits_ne {n : Nat} (hn : n ≠ 0) : (Nat.toDigits 10 n).head? ≠ some '0' := by
  induction n using Nat.strongRecOn with
  | ind n ih =>
      rw [Nat.toDigits_eq_if (by decide)]
      split
      next hlt =>
        have hall : ∀ digit < 10, digit ≠ 0 → Nat.digitChar digit ≠ '0' := by decide
        simpa using hall n hlt hn
      next hge =>
        obtain ⟨first, later, hdigits, -⟩ := exists_toDigits_eq_cons (n / 10)
        have hhead := ih (n / 10) (by omega) (by omega)
        rw [hdigits] at hhead ⊢
        exact hhead

end RadioAdapter.Text
