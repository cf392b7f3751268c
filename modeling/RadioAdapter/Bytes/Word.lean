/-! # Little-endian words

A 32-bit word travels as four bytes, least significant first. The two
directions are inverse to each other, so a word and its four bytes carry the
same information.
-/

namespace RadioAdapter

/-- A byte string, as found in host buffers, records and files. -/
abbrev Bytes := List UInt8

namespace Word

/-- The four bytes of a word, least significant first. -/
def bytes (word : UInt32) : Bytes :=
  [UInt8.ofNat word.toNat, UInt8.ofNat (word.toNat / 256),
    UInt8.ofNat (word.toNat / 65536), UInt8.ofNat (word.toNat / 16777216)]

/-- The word with the given bytes, least significant first. -/
def ofBytes (b0 b1 b2 b3 : UInt8) : UInt32 :=
  UInt32.ofNat (b0.toNat + 256 * b1.toNat + 65536 * b2.toNat + 16777216 * b3.toNat)

/-- The four bytes of a signed word, in two's complement. -/
def signedBytes (word : Int32) : Bytes := bytes word.toUInt32

/-- The word that starts at `offset`, or zero where fewer than four bytes are left. -/
def startingAt (data : Bytes) (offset : Nat) : UInt32 :=
  match data.drop offset with
  | b0 :: b1 :: b2 :: b3 :: _ => ofBytes b0 b1 b2 b3
  | _ => 0

/-- The signed word that starts at `offset`. -/
def signedAt (data : Bytes) (offset : Nat) : Int32 := (startingAt data offset).toInt32

@[simp] theorem length_bytes (word : UInt32) : (bytes word).length = 4 := rfl

@[simp] theorem length_signedBytes (word : Int32) : (signedBytes word).length = 4 := rfl

theorem bytes_ofBytes (b0 b1 b2 b3 : UInt8) : bytes (ofBytes b0 b1 b2 b3) = [b0, b1, b2, b3] := by
  have h0 := b0.toNat_lt
  have h1 := b1.toNat_lt
  have h2 := b2.toNat_lt
  have h3 := b3.toNat_lt
  have hword : (ofBytes b0 b1 b2 b3).toNat =
      b0.toNat + 256 * b1.toNat + 65536 * b2.toNat + 16777216 * b3.toNat := by
    simp only [ofBytes, UInt32.toNat_ofNat']
    omega
  simp only [bytes, hword, List.cons.injEq, and_true]
  refine ⟨?_, ?_, ?_, ?_⟩ <;> apply UInt8.toNat_inj.1 <;>
    simp only [UInt8.toNat_ofNat'] <;> omega

theorem ofBytes_bytes (word : UInt32) :
    ofBytes (UInt8.ofNat word.toNat) (UInt8.ofNat (word.toNat / 256))
      (UInt8.ofNat (word.toNat / 65536)) (UInt8.ofNat (word.toNat / 16777216)) = word := by
  have hlt := word.toNat_lt
  apply UInt32.toNat_inj.1
  simp only [ofBytes, UInt8.toNat_ofNat', UInt32.toNat_ofNat']
  omega

/-- A byte of a word is what is left of it when the bits below are shifted out. -/
theorem ofNat_shiftRight (word : UInt32) {shift : Nat} (hshift : shift < 32) :
    UInt8.ofNat (word.toNat >>> shift) = (word >>> UInt32.ofNat shift).toUInt8 := by
  apply UInt8.toNat_inj.mp
  rw [UInt8.toNat_ofNat', UInt32.toNat_toUInt8, UInt32.toNat_shiftRight,
    UInt32.toNat_ofNat_of_lt' (Nat.lt_trans hshift (by decide)), Nat.mod_eq_of_lt hshift]

theorem bytes_eq_shifts (word : UInt32) :
    bytes word = [(word >>> 0).toUInt8, (word >>> 8).toUInt8, (word >>> 16).toUInt8,
      (word >>> 24).toUInt8] := by
  have hshift {shift : Nat} (hlt : shift < 32) := ofNat_shiftRight word hlt
  have h0 := hshift (show 0 < 32 by decide)
  have h8 := hshift (show 8 < 32 by decide)
  have h16 := hshift (show 16 < 32 by decide)
  have h24 := hshift (show 24 < 32 by decide)
  simp only [Nat.shiftRight_eq_div_pow, Nat.reducePow, Nat.div_one] at h0 h8 h16 h24
  rw [bytes, h0, h8, h16, h24]
  rfl

/-! ## Words within a byte string -/

theorem startingAt_eq {data rest : Bytes} {word : UInt32} {offset : Nat}
    (hdrop : data.drop offset = bytes word ++ rest) : startingAt data offset = word := by
  rw [startingAt, hdrop]
  exact ofBytes_bytes word

/-- A word that lies within a byte string has the bytes found there. -/
theorem bytes_startingAt {data : Bytes} {offset : Nat} (hlength : offset + 4 ≤ data.length) :
    bytes (startingAt data offset) = (data.drop offset).take 4 := by
  have hdrop : 4 ≤ (data.drop offset).length := by
    rw [List.length_drop]
    omega
  unfold startingAt
  split
  next b0 b1 b2 b3 rest heq =>
    rw [heq, bytes_ofBytes]
    rfl
  next hshort =>
    -- Four bytes are left, so the fallback does not apply.
    match data.drop offset, hdrop, hshort with
    | b0 :: b1 :: b2 :: b3 :: rest, _, hshort => exact absurd rfl (hshort b0 b1 b2 b3 rest)

theorem signedAt_eq {data rest : Bytes} {word : Int32} {offset : Nat}
    (hdrop : data.drop offset = signedBytes word ++ rest) : signedAt data offset = word :=
  congrArg UInt32.toInt32 (startingAt_eq hdrop)

theorem signedBytes_signedAt {data : Bytes} {offset : Nat} (hlength : offset + 4 ≤ data.length) :
    signedBytes (signedAt data offset) = (data.drop offset).take 4 :=
  bytes_startingAt hlength

end Word

end RadioAdapter
