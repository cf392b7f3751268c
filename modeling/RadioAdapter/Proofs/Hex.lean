import RadioAdapter.Bytes.Hex
import RadioAdapter.Text.Utf8

/-! # Hexadecimal texts are read back

A byte is written as two digits, each of which is one byte of the text, and every pair is read as
the byte that it was written for, whichever letters it is written with. What is read is a pair of
digits at a time: reading succeeds on an even number of digits, and otherwise it names the first
byte that is none.
-/

namespace RadioAdapter.Hex

/-! ## Digits -/

/-- The digits that bytes are written with. -/
theorem exists_of_mem_digits {data : Bytes} {c : Char} (hc : c ∈ digits data) :
    ∃ value, value < 16 ∧ c = Nat.digitChar value := by
  induction data with
  | nil => contradiction
  | cons byte rest ih =>
      have hlt := byte.toNat_lt
      rcases List.mem_cons.mp hc with rfl | hc
      · exact ⟨byte.toNat / 16, by omega, rfl⟩
      · rcases List.mem_cons.mp hc with rfl | hc
        · exact ⟨byte.toNat % 16, by omega, rfl⟩
        · exact ih hc

/-- Whatever holds of the sixteen digits holds of every one that is written. -/
theorem forall_mem_digits {p : Char → Prop} (hp : ∀ value < 16, p (Nat.digitChar value))
    (data : Bytes) : ∀ c ∈ digits data, p c := by
  intro c hc
  obtain ⟨value, hvalue, rfl⟩ := exists_of_mem_digits hc
  exact hp value hvalue

/-- The byte of a digit. -/
def digitByte (c : Char) : UInt8 := UInt8.ofNat c.toNat

/-- The bytes of digits, with the letters of either case. -/
def IsDigit (byte : UInt8) : Prop :=
  (0x30 ≤ byte ∧ byte ≤ 0x39) ∨ (0x41 ≤ byte ∧ byte ≤ 0x46) ∨ (0x61 ≤ byte ∧ byte ≤ 0x66)

instance (byte : UInt8) : Decidable (IsDigit byte) := inferInstanceAs (Decidable (_ ∨ _ ∨ _))

theorem value?_cases (byte : UInt8) :
    (¬ IsDigit byte ∧ value? byte = none) ∨
      ∃ value < 16, IsDigit byte ∧ value? byte = some value ∧
        (Char.ofNat byte.toNat).toLower = Nat.digitChar value := by
  have hall : ∀ n < 256, (¬ IsDigit (UInt8.ofNat n) ∧ value? (UInt8.ofNat n) = none) ∨
      ∃ value < 16, IsDigit (UInt8.ofNat n) ∧ value? (UInt8.ofNat n) = some value ∧
        (Char.ofNat (UInt8.ofNat n).toNat).toLower = Nat.digitChar value := by decide +kernel
  simpa only [UInt8.ofNat_toNat] using hall byte.toNat byte.toNat_lt

theorem value?_of_refused {byte : UInt8} (hrefused : ¬ IsDigit byte) : value? byte = none := by
  rcases value?_cases byte with ⟨-, hnone⟩ | ⟨value, -, hdigit, -⟩
  · exact hnone
  · exact absurd hdigit hrefused

theorem exists_value?_of_isDigit {byte : UInt8} (hdigit : IsDigit byte) :
    ∃ value < 16, value? byte = some value ∧
      (Char.ofNat byte.toNat).toLower = Nat.digitChar value := by
  rcases value?_cases byte with ⟨hrefused, -⟩ | ⟨value, hvalue, -, hread, hlower⟩
  · exact absurd hdigit hrefused
  · exact ⟨value, hvalue, hread, hlower⟩

theorem lt_of_isDigit {byte : UInt8} (hdigit : IsDigit byte) : byte.toNat < 128 := by
  simp only [IsDigit, UInt8.le_iff_toNat_le, UInt8.reduceToNat] at hdigit
  omega

/-- What holds of the ASCII characters that are a digit but for their case holds of every such
character, because there are no others. -/
theorem of_toLower_eq_digitChar {p : Char → Nat → Prop}
    (hp : ∀ n < 128, ∀ value < 16, (Char.ofNat n).toLower = Nat.digitChar value →
      p (Char.ofNat n) value) {c : Char} {value : Nat} (hvalue : value < 16)
    (hlower : c.toLower = Nat.digitChar value) : p c value := by
  have hascii : c.toNat < 128 := by
    have hdigits : ∀ n < 16, (Nat.digitChar n).toNat < 128 := by decide
    unfold Char.toLower at hlower
    split at hlower
    next hupper =>
      have hle : c.toNat ≤ 'Z'.toNat := UInt32.le_iff_toNat_le.mp hupper.2
      exact Nat.lt_of_le_of_lt hle (by decide)
    next => exact hlower ▸ hdigits value hvalue
  have hchar := hp c.toNat hascii value hvalue
  rw [Char.ofNat_toNat] at hchar
  exact hchar hlower

theorem value?_digitByte {c : Char} {value : Nat} (hvalue : value < 16)
    (hlower : c.toLower = Nat.digitChar value) : value? (digitByte c) = some value :=
  of_toLower_eq_digitChar (p := fun c value => value? (digitByte c) = some value)
    (by decide +kernel) hvalue hlower

/-! ## Spellings -/

/-- A list of characters writes bytes: it has their digits, each in either case. -/
def Writes (written : List Char) (data : Bytes) : Prop := written.map Char.toLower = digits data

section

variable {written : List Char} {data bytes before after : Bytes} {byte : UInt8}

theorem writes_digits (data : Bytes) : Writes (digits data) data := by
  have hlower : ∀ c ∈ digits data, c.toLower = c := forall_mem_digits (by decide) data
  rw [Writes, List.map_congr_left hlower, List.map_id']

theorem Writes.forall_mem (hwrites : Writes written data) {p : Char → Prop}
    (hp : ∀ n < 128, ∀ value < 16, (Char.ofNat n).toLower = Nat.digitChar value →
      p (Char.ofNat n)) : ∀ c ∈ written, p c := by
  intro c hc
  have hmem : c.toLower ∈ digits data := hwrites ▸ List.mem_map_of_mem hc
  obtain ⟨value, hvalue, hlower⟩ := exists_of_mem_digits hmem
  exact of_toLower_eq_digitChar (p := fun c _ => p c) hp hvalue hlower

theorem Writes.utf8_eq (hwrites : Writes written data) :
    Text.utf8 (String.ofList written) = written.map digitByte := by
  have hsingle : ∀ c ∈ written, String.utf8EncodeChar c = [digitByte c] :=
    hwrites.forall_mem (by decide +kernel)
  rw [Text.utf8, String.toList_ofList, List.map_eq_flatMap, List.flatMap_def, List.flatMap_def,
    List.map_congr_left hsingle]

theorem decodePairs_of_writes (position : Nat) (hwrites : Writes written data) :
    decodePairs position (written.map digitByte) = .ok data := by
  induction data generalizing position written with
  | nil =>
      rw [List.map_eq_nil_iff.mp hwrites]
      rfl
  | cons byte rest ih =>
      have hlt := byte.toNat_lt
      have hbyte : 16 * (byte.toNat / 16) + byte.toNat % 16 = byte.toNat := Nat.div_add_mod _ 16
      obtain ⟨high, others, rfl, hhigh, hothers⟩ := List.map_eq_cons_iff.mp hwrites
      obtain ⟨low, later, rfl, hlow, hlater⟩ := List.map_eq_cons_iff.mp hothers
      simp only [List.map_cons, decodePairs, ih _ hlater, hbyte, UInt8.ofNat_toNat,
        value?_digitByte (show byte.toNat / 16 < 16 by omega) hhigh,
        value?_digitByte (show byte.toNat % 16 < 16 by omega) hlow]
      rfl

theorem length_of_writes (hwrites : Writes written data) : written.length = 2 * data.length := by
  rw [← length_digits, ← hwrites, List.length_map]

/-- What writes bytes is read as the bytes. -/
theorem decode_of_writes (hwrites : Writes written data) :
    decode (Text.utf8 (String.ofList written)) = .ok data := by
  have heven : (written.map digitByte).length % 2 ≠ 1 := by
    rw [List.length_map, length_of_writes hwrites]
    omega
  rw [hwrites.utf8_eq, decode, if_neg heven, decodePairs_of_writes 0 hwrites]

/-! ## Refusals -/

/-- An even number of digits writes bytes. -/
theorem exists_writes : ∀ {bytes : Bytes}, bytes.length % 2 = 0 → (∀ byte ∈ bytes, IsDigit byte) →
    ∃ data, Writes (bytes.map fun byte => Char.ofNat byte.toNat) data
  | [], _, _ => ⟨[], rfl⟩
  | [_], hodd, _ => absurd hodd (by simp)
  | high :: low :: rest, heven, hdigits => by
      obtain ⟨h, hh, -, hhigh⟩ := exists_value?_of_isDigit (hdigits high List.mem_cons_self)
      obtain ⟨l, hl, -, hlow⟩ := exists_value?_of_isDigit
        (hdigits low (List.mem_cons_of_mem _ List.mem_cons_self))
      have hrest : rest.length % 2 = 0 := by
        simp only [List.length_cons] at heven
        omega
      obtain ⟨data, hdata⟩ := exists_writes hrest fun byte hbyte =>
        hdigits byte (List.mem_cons_of_mem _ (List.mem_cons_of_mem _ hbyte))
      have hpair : (UInt8.ofNat (16 * h + l)).toNat = 16 * h + l :=
        UInt8.toNat_ofNat_of_lt' (show 16 * h + l < 256 by omega)
      have hfirst : (16 * h + l) / 16 = h := by omega
      have hsecond : (16 * h + l) % 16 = l := by omega
      refine ⟨UInt8.ofNat (16 * h + l) :: data, ?_⟩
      simp only [Writes, List.map_cons, digits, hpair, hfirst, hsecond, hhigh, hlow]
      rw [← hdata]

/-- Reading names the first byte that is no digit. -/
theorem decodePairs_of_refused (hbyte : ¬ IsDigit byte) : ∀ {before : Bytes} (position : Nat),
    (before ++ byte :: after).length % 2 = 0 → (∀ earlier ∈ before, IsDigit earlier) →
      decodePairs position (before ++ byte :: after) =
        .error (.invalidByte byte (position + before.length))
  | [], position, heven, _ => by
      cases after with
      | nil => exact absurd heven (by simp)
      | cons low rest =>
          simp only [List.nil_append, decodePairs, value?_of_refused hbyte]
          rfl
  | [high], position, _, hbefore => by
      obtain ⟨h, -, hhigh, -⟩ := exists_value?_of_isDigit (hbefore high List.mem_cons_self)
      simp only [List.cons_append, List.nil_append, decodePairs, hhigh, value?_of_refused hbyte]
      rfl
  | high :: low :: earlier, position, heven, hbefore => by
      obtain ⟨h, -, hhigh, -⟩ := exists_value?_of_isDigit (hbefore high List.mem_cons_self)
      obtain ⟨l, -, hlow, -⟩ := exists_value?_of_isDigit
        (hbefore low (List.mem_cons_of_mem _ List.mem_cons_self))
      have hrest : (earlier ++ byte :: after).length % 2 = 0 := by
        simp only [List.cons_append, List.length_cons] at heven
        omega
      have hlater := decodePairs_of_refused hbyte (position + 2) hrest fun other hother =>
        hbefore other (List.mem_cons_of_mem _ (List.mem_cons_of_mem _ hother))
      have hposition : position + 2 + earlier.length = position + (high :: low :: earlier).length := by
        simp only [List.length_cons]
        omega
      simp only [List.cons_append, decodePairs, hhigh, hlow, hlater, hposition]
      rfl

/-- If not every byte is a digit, there is a first one that is none. -/
theorem exists_first_refused (hrefused : ¬ ∀ byte ∈ bytes, IsDigit byte) :
    ∃ before byte after, bytes = before ++ byte :: after ∧ (∀ earlier ∈ before, IsDigit earlier) ∧
      ¬ IsDigit byte := by
  induction bytes with
  | nil => exact absurd (by simp) hrefused
  | cons first rest ih =>
      by_cases hfirst : IsDigit first
      · have hrest : ¬ ∀ byte ∈ rest, IsDigit byte := by
          intro hrest
          exact hrefused (List.forall_mem_cons.mpr ⟨hfirst, hrest⟩)
        obtain ⟨before, byte, after, rfl, hbefore, hbyte⟩ := ih hrest
        exact ⟨first :: before, byte, after, rfl, List.forall_mem_cons.mpr ⟨hfirst, hbefore⟩, hbyte⟩
      · exact ⟨[], first, rest, rfl, by simp, hfirst⟩

end

end RadioAdapter.Hex
