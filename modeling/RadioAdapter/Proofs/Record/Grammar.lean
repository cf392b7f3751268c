import RadioAdapter.Proofs.Record.RoundTrip

/-! # What the record codec accepts and what it refuses

A buffer is refused for the first thing that is wrong with it: its length, the end
of its name, an empty name, a byte of the name. A record is refused for its name
only, and for a bad byte before it is for its length. Everything else is accepted,
and the record that is read has the name and the numbers that the buffer spells.
-/

namespace RadioAdapter

/-! ## Numbers in bytes -/

/-- The number that bytes spell, the lowest first. -/
def Word.numeral : Bytes → Nat
  | [] => 0
  | byte :: rest => byte.toNat + 256 * numeral rest

/-- The number that four bytes from an offset on spell. -/
def Word.numeralAt (data : Bytes) (offset : Nat) : Nat := numeral ((data.drop offset).take 4)

theorem Word.startingAt_eq_numeralAt {data : Bytes} {offset : Nat}
    (hlength : offset + 4 ≤ data.length) :
    startingAt data offset = UInt32.ofNat (numeralAt data offset) := by
  have hbytes := bytes_startingAt hlength
  rw [numeralAt, ← hbytes]
  generalize startingAt data offset = word
  have hlt := word.toNat_lt
  apply UInt32.toNat_inj.mp
  simp only [bytes, numeral, UInt8.toNat_ofNat', UInt32.toNat_ofNat']
  omega

namespace Record

/-- A buffer that holds a record: it is long enough, and its name ends within the name
buffer, is not empty and has visible ASCII bytes only. -/
structure WellFormed (data : Bytes) : Prop where
  length : 36 ≤ data.length
  terminated : 0 ∈ data.take 16
  nonempty : data[0]? ≠ some 0
  visible : ∀ byte ∈ data.takeWhile (· != 0), 0x21 ≤ byte ∧ byte ≤ 0x7E

/-- The record has the name and the numbers that a buffer spells. -/
structure SpelledBy (record : Record) (data : Bytes) : Prop where
  ifname : Text.utf8 record.ifname = data.takeWhile (· != 0)
  ipaddr : record.ipaddr = Int32.ofNat (Word.numeralAt data 16)
  prefixLength : record.prefixLength = UInt32.ofNat (Word.numeralAt data 20)
  gateway : record.gateway = Int32.ofNat (Word.numeralAt data 24)
  dns0 : record.dns0 = Int32.ofNat (Word.numeralAt data 28)
  dns1 : record.dns1 = Int32.ofNat (Word.numeralAt data 32)

section

variable {record : Record} {name data : Bytes} {error : Error}

/-- Exactly one record is spelled by a buffer whose name is in order. -/
theorem spelledBy_iff (hlength : size ≤ data.length)
    (hname : checkName (data.takeWhile (· != 0)) = .ok ()) :
    record.SpelledBy data ↔ record = reading data := by
  have hascii := isAscii_of_nameBytes (checkName_eq_ok_iff.mp hname).2
  have hword {offset : Nat} (hoffset : offset ≤ 32) : Word.startingAt data offset =
      UInt32.ofNat (Word.numeralAt data offset) :=
    Word.startingAt_eq_numeralAt (Nat.le_trans (Nat.add_le_add_right hoffset 4) hlength)
  have hsigned {offset : Nat} (hoffset : offset ≤ 32) : Word.signedAt data offset =
      Int32.ofNat (Word.numeralAt data offset) :=
    congrArg UInt32.toInt32 (hword hoffset)
  constructor
  · rintro ⟨hifname, hipaddr, hprefix, hgateway, hdns0, hdns1⟩
    have htext : record.ifname = Text.ofAscii (data.takeWhile (· != 0)) := by
      rw [← hifname, Text.ofAscii_utf8 (hifname ▸ hascii)]
    cases record
    simp only [reading, mk.injEq]
    exact ⟨htext, hipaddr.trans (hsigned (by decide)).symm, hprefix.trans (hword (by decide)).symm,
      hgateway.trans (hsigned (by decide)).symm, hdns0.trans (hsigned (by decide)).symm,
      hdns1.trans (hsigned (by decide)).symm⟩
  · rintro rfl
    exact ⟨Text.utf8_ofAscii hascii, hsigned (by decide), hword (by decide),
      hsigned (by decide), hsigned (by decide), hsigned (by decide)⟩

/-! ## Errors -/

theorem checkName_eq_error_iff :
    checkName name = .error error ↔
      (name = [] ∧ error = .emptyName) ∨
        (∃ byte ∈ name, isNameByte byte = false) ∧ error = .invalidName := by
  constructor
  · intro hrefused
    by_cases hempty : name = []
    · subst hempty
      exact Or.inl ⟨rfl, (Except.error.inj hrefused).symm⟩
    · by_cases hinvalid : ∃ byte ∈ name, isNameByte byte = false
      · obtain ⟨byte, hbyte, hbad⟩ := hinvalid
        rw [checkName_of_invalid hbyte hbad] at hrefused
        exact Or.inr ⟨⟨byte, hbyte, hbad⟩, (Except.error.inj hrefused).symm⟩
      · rw [checkName_of_valid hempty (by simpa using hinvalid)] at hrefused
        contradiction
  · rintro (⟨rfl, rfl⟩ | ⟨⟨byte, hbyte, hbad⟩, rfl⟩)
    · rfl
    · exact checkName_of_invalid hbyte hbad

theorem decode_eq_error_iff :
    decode data = .error error ↔
      (data.length < size ∧ error = .tooShort data.length) ∨
        (size ≤ data.length ∧ 0 ∉ data.take nameSize ∧ error = .unterminatedName) ∨
          (size ≤ data.length ∧ 0 ∈ data.take nameSize ∧
            checkName (data.takeWhile (· != 0)) = .error error) := by
  by_cases hlength : size ≤ data.length
  · have hlong := Nat.not_lt.mpr hlength
    by_cases hnul : 0 ∈ data.take nameSize
    · rw [decode_of_terminated hlength hnul]
      cases checkName (data.takeWhile (· != 0)) with
      | error refusal => simp [Except.map, hlength, hlong, hnul]
      | ok => simp [Except.map, hlong, hnul]
    · simp [decode_of_unterminated hlength hnul, hlength, hlong, hnul, eq_comm]
  · have hshort := Nat.not_le.mp hlength
    simp [decode_of_short hshort, hshort, hlength, eq_comm]

theorem encode_eq_error_iff :
    record.encode = .error error ↔
      checkName (Text.utf8 record.ifname) = .error error ∨
        (checkName (Text.utf8 record.ifname) = .ok () ∧
          nameSize ≤ (Text.utf8 record.ifname).length ∧
            error = .nameTooLong (Text.utf8 record.ifname).length) := by
  cases hname : checkName (Text.utf8 record.ifname) with
  | error refusal => simp [encode_of_error hname]
  | ok =>
      by_cases hlong : nameSize ≤ (Text.utf8 record.ifname).length
      · simp [encode_of_long hname hlong, hlong, eq_comm]
      · simp [encode_of_fits hname (Nat.not_le.mp hlong), hlong]

/-! ## One condition for each outcome -/

theorem takeWhile_eq_nil_iff (hlength : 0 < data.length) :
    data.takeWhile (· != 0) = [] ↔ data[0]? = some 0 := by
  cases data with
  | nil => contradiction
  | cons first rest =>
      by_cases hfirst : first = 0
      · simp [hfirst]
      · simp [hfirst]

theorem decode_eq_emptyName_iff :
    decode data = .error .emptyName ↔ size ≤ data.length ∧ data[0]? = some 0 := by
  have hchecked : checkName (data.takeWhile (· != 0)) = .error .emptyName ↔
      data.takeWhile (· != 0) = [] := by
    simp [checkName_eq_error_iff]
  simp only [decode_eq_error_iff, reduceCtorEq, and_false, false_or, hchecked]
  constructor
  · rintro ⟨hlength, _, hempty⟩
    exact ⟨hlength, (takeWhile_eq_nil_iff (Nat.lt_of_lt_of_le (by decide) hlength)).mp hempty⟩
  · rintro ⟨hlength, hfirst⟩
    refine ⟨hlength, ?_, (takeWhile_eq_nil_iff (Nat.lt_of_lt_of_le (by decide) hlength)).mpr hfirst⟩
    rw [← List.getElem?_take_of_lt (show 0 < nameSize by decide)] at hfirst
    exact List.mem_of_getElem? hfirst

theorem decode_eq_invalidName_iff :
    decode data = .error .invalidName ↔
      size ≤ data.length ∧ 0 ∈ data.take nameSize ∧
        ∃ byte ∈ data.takeWhile (· != 0), isNameByte byte = false := by
  simp [decode_eq_error_iff, checkName_eq_error_iff]

theorem exists_decode_iff : (∃ record, decode data = .ok record) ↔ WellFormed data := by
  constructor
  · rintro ⟨record, hdecode⟩
    obtain ⟨hlength, hnul, hname, _⟩ := decode_eq_ok_iff.mp hdecode
    obtain ⟨hempty, hbytes⟩ := checkName_eq_ok_iff.mp hname
    have hfirst : data[0]? ≠ some 0 := fun hnul =>
      hempty ((takeWhile_eq_nil_iff (Nat.lt_of_lt_of_le (by decide) hlength)).mpr hnul)
    exact ⟨hlength, hnul, hfirst, fun byte hbyte => isNameByte_iff.mp (hbytes byte hbyte)⟩
  · rintro ⟨hlength, hnul, hfirst, hvisible⟩
    have hempty : data.takeWhile (· != 0) ≠ [] := fun hnil =>
      hfirst ((takeWhile_eq_nil_iff (Nat.lt_of_lt_of_le (by decide) hlength)).mp hnil)
    have hname : checkName (data.takeWhile (· != 0)) = .ok () :=
      checkName_of_valid hempty fun byte hbyte => isNameByte_iff.mpr (hvisible byte hbyte)
    exact ⟨reading data, decode_eq_ok_iff.mpr ⟨hlength, hnul, hname, rfl⟩⟩

theorem decode_eq_ok_iff_spelledBy :
    decode data = .ok record ↔ WellFormed data ∧ record.SpelledBy data := by
  constructor
  · intro hdecode
    obtain ⟨hlength, _, hname, hrecord⟩ := decode_eq_ok_iff.mp hdecode
    exact ⟨exists_decode_iff.mp ⟨record, hdecode⟩, (spelledBy_iff hlength hname).mpr hrecord⟩
  · rintro ⟨hdata, hspelled⟩
    obtain ⟨held, hdecode⟩ := exists_decode_iff.mpr hdata
    obtain ⟨hlength, _, hname, hheld⟩ := decode_eq_ok_iff.mp hdecode
    rw [hdecode, hheld, (spelledBy_iff hlength hname).mp hspelled]

theorem encode_eq_emptyName_iff : record.encode = .error .emptyName ↔ record.ifname = "" := by
  simp [encode_eq_error_iff, checkName_eq_error_iff, Text.utf8_eq_nil_iff]

theorem encode_eq_invalidName_iff :
    record.encode = .error .invalidName ↔
      ∃ byte ∈ Text.utf8 record.ifname, isNameByte byte = false := by
  simp [encode_eq_error_iff, checkName_eq_error_iff]

theorem encode_eq_nameTooLong_iff {length : Nat} :
    record.encode = .error (.nameTooLong length) ↔
      (∀ byte ∈ Text.utf8 record.ifname, isNameByte byte = true) ∧
        nameSize ≤ length ∧ length = (Text.utf8 record.ifname).length := by
  simp only [encode_eq_error_iff, checkName_eq_error_iff, reduceCtorEq, and_false, false_or,
    checkName_eq_ok_iff, Error.nameTooLong.injEq]
  constructor
  · rintro ⟨⟨_, hbytes⟩, hlong, rfl⟩
    exact ⟨hbytes, hlong, rfl⟩
  · rintro ⟨hbytes, hlong, rfl⟩
    exact ⟨⟨List.length_pos_iff.mp (Nat.lt_of_lt_of_le (by decide) hlong), hbytes⟩, hlong, rfl⟩

end

/-- Every buffer and every record, classified. The name in a buffer is what stands before
the first NUL. -/
theorem codec_classification :
    (∀ data : Bytes,
      (∀ length, decode data = .error (.tooShort length) ↔
        data.length < 36 ∧ length = data.length) ∧
      (decode data = .error .unterminatedName ↔ 36 ≤ data.length ∧ 0 ∉ data.take 16) ∧
      (decode data = .error .emptyName ↔ 36 ≤ data.length ∧ data[0]? = some 0) ∧
      (decode data = .error .invalidName ↔
        36 ≤ data.length ∧ 0 ∈ data.take 16 ∧
          ∃ byte ∈ data.takeWhile (· != 0), ¬ (0x21 ≤ byte ∧ byte ≤ 0x7E)) ∧
      ((∃ record, decode data = .ok record) ↔ WellFormed data) ∧
      (∀ record, decode data = .ok record ↔ WellFormed data ∧ record.SpelledBy data) ∧
      ∀ length, decode data ≠ .error (.nameTooLong length)) ∧
    ∀ record : Record,
      (record.encode = .error .emptyName ↔ record.ifname = "") ∧
      (record.encode = .error .invalidName ↔
        ∃ byte ∈ Text.utf8 record.ifname, ¬ (0x21 ≤ byte ∧ byte ≤ 0x7E)) ∧
      (∀ length, record.encode = .error (.nameTooLong length) ↔
        (∀ byte ∈ Text.utf8 record.ifname, 0x21 ≤ byte ∧ byte ≤ 0x7E) ∧
          16 ≤ length ∧ length = (Text.utf8 record.ifname).length) ∧
      ((∃ data, record.encode = .ok data) ↔
        record.ifname ≠ "" ∧
          (∀ byte ∈ Text.utf8 record.ifname, 0x21 ≤ byte ∧ byte ≤ 0x7E) ∧
            (Text.utf8 record.ifname).length < 16) ∧
      (∀ length, record.encode ≠ .error (.tooShort length)) ∧
        record.encode ≠ .error .unterminatedName := by
  simp only [← isNameByte_iff, Bool.not_eq_true]
  constructor
  · intro data
    refine ⟨?_, ?_, decode_eq_emptyName_iff, decode_eq_invalidName_iff, exists_decode_iff,
      fun record => decode_eq_ok_iff_spelledBy, ?_⟩
    · intro length
      simp [decode_eq_error_iff, checkName_eq_error_iff, size, nameSize]
    · simp [decode_eq_error_iff, checkName_eq_error_iff, size, nameSize]
    · intro length
      simp [decode_eq_error_iff, checkName_eq_error_iff]
  · intro record
    refine ⟨encode_eq_emptyName_iff, encode_eq_invalidName_iff,
      fun length => encode_eq_nameTooLong_iff, ?_, ?_, ?_⟩
    · rw [exists_encode_iff, ne_eq, Text.utf8_eq_nil_iff]
      exact Iff.rfl
    · intro length
      simp [encode_eq_error_iff, checkName_eq_error_iff]
    · simp [encode_eq_error_iff, checkName_eq_error_iff]

end Record

end RadioAdapter
