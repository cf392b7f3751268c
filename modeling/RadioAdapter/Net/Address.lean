import RadioAdapter.Bytes.Word

/-! # IPv4 addresses

An address is four octets. Inside a record it travels as one signed word whose
bytes in memory are the octets in order, so the two forms determine each other.
In text it is a dotted quad.
-/

namespace RadioAdapter

/-- An IPv4 address, first octet first. -/
structure Address where
  octet0 : UInt8
  octet1 : UInt8
  octet2 : UInt8
  octet3 : UInt8
deriving DecidableEq, Repr

namespace Address

/-- The address 0.0.0.0, which stands for an absent one. -/
def unspecified : Address := ⟨0, 0, 0, 0⟩

def octets (address : Address) : Bytes :=
  [address.octet0, address.octet1, address.octet2, address.octet3]

/-- The wire word: the signed word whose bytes are the octets. -/
def toWire (address : Address) : Int32 :=
  (Word.ofBytes address.octet0 address.octet1 address.octet2 address.octet3).toInt32

/-- The address whose octets are the bytes of a wire word. -/
def ofWire (wire : Int32) : Address :=
  let n := wire.toUInt32.toNat
  ⟨UInt8.ofNat n, UInt8.ofNat (n / 256), UInt8.ofNat (n / 65536), UInt8.ofNat (n / 16777216)⟩

/-! ## Wire words -/

theorem toWire_ofWire (wire : Int32) : (ofWire wire).toWire = wire := by
  simp only [ofWire, toWire, Word.ofBytes_bytes]
  rfl

theorem signedBytes_toWire (address : Address) :
    Word.signedBytes address.toWire = address.octets := by
  simpa [Word.signedBytes, toWire, octets] using
    Word.bytes_ofBytes address.octet0 address.octet1 address.octet2 address.octet3

theorem ofWire_toWire (address : Address) : ofWire address.toWire = address := by
  have h := signedBytes_toWire address
  simp only [Word.signedBytes, Word.bytes, octets, List.cons.injEq, and_true] at h
  obtain ⟨h0, h1, h2, h3⟩ := h
  simp only [ofWire, h0, h1, h2, h3]

theorem ofWire_zero : ofWire 0 = unspecified := rfl

/-- Only the unspecified address has the wire word zero, which stands for an absent one. -/
theorem toWire_eq_zero_iff {address : Address} : address.toWire = 0 ↔ address = unspecified := by
  constructor
  · intro hzero
    rw [← ofWire_toWire address, hzero, ofWire_zero]
  · rintro rfl
    rfl

/-! ## Dotted quads -/

/-- The dotted form, each octet in decimal. -/
def dotted (address : Address) : List Char :=
  Nat.toDigits 10 address.octet0.toNat ++ '.' :: (Nat.toDigits 10 address.octet1.toNat ++
    '.' :: (Nat.toDigits 10 address.octet2.toNat ++ '.' :: Nat.toDigits 10 address.octet3.toNat))

instance : ToString Address := ⟨fun address => String.ofList address.dotted⟩

/-- An octet in decimal: one to three digits without a leading zero, at most 255. -/
def octet? (text : List Char) : Option UInt8 :=
  if text.isEmpty || text.length > 3 || !text.all Char.isDigit then none
  else if text.length > 1 && text.head? == some '0' then none
  else
    let value := Nat.ofDigitChars 10 text 0
    if value ≤ 255 then some (UInt8.ofNat value) else none

/-- Split a text at every dot; there is always a first part. -/
def splitDots : List Char → List (List Char)
  | [] => [[]]
  | '.' :: rest => [] :: splitDots rest
  | c :: rest =>
      match splitDots rest with
      | part :: parts => (c :: part) :: parts
      | [] => [[c]]

/-- Read a dotted quad: exactly four octets and nothing else. -/
def ofDotted? (text : List Char) : Option Address :=
  match splitDots text with
  | [a, b, c, d] => do return ⟨← octet? a, ← octet? b, ← octet? c, ← octet? d⟩
  | _ => none

def ofString? (text : String) : Option Address := ofDotted? text.toList

end Address

end RadioAdapter
