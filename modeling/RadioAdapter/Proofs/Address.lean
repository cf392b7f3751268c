import RadioAdapter.Net.Address
import RadioAdapter.Text.Digit

/-! # Dotted quads are read back

An octet in decimal has one to three digits and no leading zero, which is all that reading
asks of it. No digit is a dot, so a dotted quad splits into the octets that it was made of.
-/

namespace RadioAdapter.Address

section

variable {part rest : List Char}

theorem splitDots_cons {c : Char} (hc : c ≠ '.') {parts : List (List Char)}
    (hrest : splitDots rest = part :: parts) : splitDots (c :: rest) = (c :: part) :: parts := by
  rw [splitDots.eq_def]
  split
  next heq => contradiction
  next heq => exact absurd (List.cons.inj heq).1 hc
  next heq =>
    obtain ⟨rfl, rfl⟩ := List.cons.inj heq
    rw [hrest]

theorem splitDots_of_notMem (hpart : '.' ∉ part) : splitDots part = [part] := by
  induction part with
  | nil => rfl
  | cons c later ih =>
      obtain ⟨hc, hlater⟩ := not_or.mp (mt List.mem_cons.mpr hpart)
      exact splitDots_cons (Ne.symm hc) (ih hlater)

/-- What stands before the first dot is the first part. -/
theorem splitDots_append (hpart : '.' ∉ part) (rest : List Char) :
    splitDots (part ++ '.' :: rest) = part :: splitDots rest := by
  induction part with
  | nil => rfl
  | cons c later ih =>
      obtain ⟨hc, hlater⟩ := not_or.mp (mt List.mem_cons.mpr hpart)
      exact splitDots_cons (Ne.symm hc) (ih hlater)

end

theorem dot_notMem_toDigits (n : Nat) : '.' ∉ Nat.toDigits 10 n := by
  intro hdot
  have hdigit := Text.isDigit_of_mem_toDigits hdot
  contradiction

/-- Every octet is read back from its decimal digits. -/
theorem octet?_toDigits (octet : UInt8) : octet? (Nat.toDigits 10 octet.toNat) = some octet := by
  have hlt := octet.toNat_lt
  have hlength : (Nat.toDigits 10 octet.toNat).length ≤ 3 :=
    (Nat.length_toDigits_le_iff (by decide) (by decide)).mpr (by omega)
  have hform : ((Nat.toDigits 10 octet.toNat).isEmpty ||
      decide ((Nat.toDigits 10 octet.toNat).length > 3) ||
        !(Nat.toDigits 10 octet.toNat).all Char.isDigit) = false := by
    simp only [Bool.or_eq_false_iff, List.isEmpty_eq_false_iff, decide_eq_false_iff_not,
      Bool.not_eq_false', List.all_eq_true]
    exact ⟨⟨Nat.toDigits_ne_nil, Nat.not_lt.mpr hlength⟩, fun c => Text.isDigit_of_mem_toDigits⟩
  have hlead : (decide ((Nat.toDigits 10 octet.toNat).length > 1) &&
      (Nat.toDigits 10 octet.toNat).head? == some '0') = false := by
    by_cases hzero : octet.toNat = 0
    · rw [hzero]
      rfl
    · simp only [Bool.and_eq_false_iff, beq_eq_false_iff_ne]
      exact .inr (Text.head?_toDigits_ne hzero)
  rw [octet?, hform, hlead]
  simp only [Bool.false_eq_true, ↓reduceIte, Nat.ofDigitChars_ten_toDigits, UInt8.ofNat_toNat]
  exact if_pos (Nat.le_of_lt_succ hlt)

/-- An address is read back from its dotted form. -/
theorem ofDotted?_dotted (address : Address) : ofDotted? address.dotted = some address := by
  have hsplit : splitDots address.dotted =
      [Nat.toDigits 10 address.octet0.toNat, Nat.toDigits 10 address.octet1.toNat,
        Nat.toDigits 10 address.octet2.toNat, Nat.toDigits 10 address.octet3.toNat] := by
    rw [dotted, splitDots_append (dot_notMem_toDigits _), splitDots_append (dot_notMem_toDigits _),
      splitDots_append (dot_notMem_toDigits _), splitDots_of_notMem (dot_notMem_toDigits _)]
  rw [ofDotted?, hsplit]
  simp only [octet?_toDigits, Option.bind_eq_bind, Option.bind_some, Option.pure_def]

theorem ofString?_toString (address : Address) : ofString? (toString address) = some address := by
  rw [ofString?]
  show ofDotted? (String.ofList address.dotted).toList = some address
  rw [String.toList_ofList, ofDotted?_dotted]

end RadioAdapter.Address
