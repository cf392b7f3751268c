import RadioAdapter.Bytes.Word

/-! # UTF-8

The bytes of a text, and the text of bytes that are well-formed UTF-8. Lengths
that the adapter reports are lengths of this encoding.
-/

namespace RadioAdapter.Text

/-- The UTF-8 bytes of a text. -/
def utf8 (text : String) : Bytes := text.toList.flatMap String.utf8EncodeChar

/-- The text with these UTF-8 bytes, if they are well formed. -/
def ofUtf8? (data : Bytes) : Option String := String.fromUTF8? ⟨data.toArray⟩

/-- The text of ASCII bytes, one character for each byte. -/
def ofAscii (data : Bytes) : String := String.ofList (data.map fun byte => Char.ofNat byte.toNat)

theorem utf8_eq_nil_iff {text : String} : utf8 text = [] ↔ text = "" := by
  rw [utf8, List.flatMap_eq_nil_iff]
  constructor
  · intro hchars
    cases hlist : text.toList with
    | nil => simpa using hlist
    | cons char rest =>
        have hchar := congrArg List.length (hchars char (by simp [hlist]))
        rw [String.length_utf8EncodeChar] at hchar
        exact absurd hchar (Nat.ne_of_gt char.utf8Size_pos)
  · rintro rfl
    simp

theorem toByteArray_utf8 (text : String) :
    (⟨(utf8 text).toArray⟩ : ByteArray) = text.toByteArray := by
  rw [← text.utf8Encode_toList]
  apply ByteArray.ext
  exact List.data_toByteArray.symm

theorem ofUtf8?_utf8 (text : String) : ofUtf8? (utf8 text) = some text := by
  rw [ofUtf8?, String.fromUTF8?, toByteArray_utf8, dif_pos text.isValidUTF8]
  rfl

/-- The bytes of a text are the only ones that are read as it. -/
theorem ofUtf8?_eq_some_iff {data : Bytes} {text : String} :
    ofUtf8? data = some text ↔ data = utf8 text := by
  constructor
  · intro htext
    unfold ofUtf8? String.fromUTF8? at htext
    split at htext
    next hvalid =>
      have hbytes : text.toByteArray = ⟨data.toArray⟩ := by
        rw [← Option.some.inj htext]
        rfl
      rw [← toByteArray_utf8] at hbytes
      exact (Array.toList_inj.mpr (congrArg ByteArray.data hbytes)).symm
    next => contradiction
  · rintro rfl
    exact ofUtf8?_utf8 text

/-! ## ASCII -/

/-- Bytes below 128, each of which is a character of its own. -/
def IsAscii (data : Bytes) : Prop := ∀ byte ∈ data, byte.toNat < 128

theorem utf8EncodeChar_ofNat {byte : UInt8} (hascii : byte.toNat < 128) :
    String.utf8EncodeChar (Char.ofNat byte.toNat) = [byte] := by
  have hvalue : (Char.ofNat byte.toNat).val.toNat = byte.toNat := by
    rw [Char.ofNat, dif_pos (Or.inl (by omega))]
    rfl
  simp only [String.utf8EncodeChar, hvalue]
  rw [if_pos (by omega), UInt8.ofNat_toNat]

/-- A character whose bytes are ASCII has one byte, which is its own number. -/
theorem utf8EncodeChar_of_ascii {char : Char} (hascii : IsAscii (String.utf8EncodeChar char)) :
    ∃ byte, String.utf8EncodeChar char = [byte] ∧ Char.ofNat byte.toNat = char := by
  have hlead {lead : Nat} {rest : Bytes} (hlead : 128 ≤ lead % 256) :
      ¬ IsAscii (UInt8.ofNat lead :: rest) := by
    intro h
    have hfirst := h _ List.mem_cons_self
    rw [UInt8.toNat_ofNat'] at hfirst
    omega
  by_cases hone : char.val.toNat ≤ 127
  · refine ⟨UInt8.ofNat char.val.toNat, by simp only [String.utf8EncodeChar, if_pos hone], ?_⟩
    rw [UInt8.toNat_ofNat_of_lt' (Nat.lt_of_le_of_lt hone (by decide)), Char.toNat_val,
      Char.ofNat_toNat]
  · exfalso
    by_cases htwo : char.val.toNat ≤ 2047
    · simp only [String.utf8EncodeChar, if_neg hone, if_pos htwo] at hascii
      exact hlead (by omega) hascii
    · by_cases hthree : char.val.toNat ≤ 65535
      · simp only [String.utf8EncodeChar, if_neg hone, if_neg htwo, if_pos hthree] at hascii
        exact hlead (by omega) hascii
      · simp only [String.utf8EncodeChar, if_neg hone, if_neg htwo, if_neg hthree] at hascii
        exact hlead (by omega) hascii

theorem utf8_ofAscii {data : Bytes} (hascii : IsAscii data) : utf8 (ofAscii data) = data := by
  unfold utf8 ofAscii
  rw [String.toList_ofList]
  induction data with
  | nil => rfl
  | cons byte rest ih =>
      rw [List.map_cons, List.flatMap_cons, utf8EncodeChar_ofNat (hascii byte List.mem_cons_self),
        ih fun other hother => hascii other (List.mem_cons_of_mem _ hother)]
      rfl

theorem ofAscii_utf8 {text : String} (hascii : IsAscii (utf8 text)) :
    ofAscii (utf8 text) = text := by
  have hchars : ∀ chars : List Char, IsAscii (chars.flatMap String.utf8EncodeChar) →
      (chars.flatMap String.utf8EncodeChar).map (fun byte => Char.ofNat byte.toNat) = chars := by
    intro chars hchars
    induction chars with
    | nil => rfl
    | cons char rest ih =>
        rw [List.flatMap_cons] at hchars
        have hfirst : IsAscii (String.utf8EncodeChar char) :=
          fun other hother => hchars other (List.mem_append_left _ hother)
        obtain ⟨byte, hencode, hchar⟩ := utf8EncodeChar_of_ascii hfirst
        rw [List.flatMap_cons, List.map_append,
          ih fun other hother => hchars other (List.mem_append_right _ hother), hencode,
          List.map_singleton, hchar]
        rfl
  unfold ofAscii
  rw [utf8, hchars text.toList hascii, String.ofList_toList]

end RadioAdapter.Text
