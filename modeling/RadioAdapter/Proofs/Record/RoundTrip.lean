import RadioAdapter.Net.Record

/-! # Records there and back

Writing a record and reading it again gives the record, whatever bytes follow it.
Reading a buffer and writing its record gives the buffer back up to what reading
does not look at: the bytes after the name's first NUL and those after the record.
-/

namespace RadioAdapter.Record

section

variable {record : Record} {name data rest : Bytes}

/-! ## Names in their buffer -/

theorem padName_eq (hfits : name.length < nameSize) :
    padName name = name ++ 0 :: List.replicate (nameSize - name.length - 1) 0 := by
  have hcount : nameSize - name.length = (nameSize - name.length - 1) + 1 := by omega
  rw [padName, hcount, List.replicate_succ]
  rfl

theorem length_padName (hfits : name.length ≤ nameSize) : (padName name).length = nameSize := by
  rw [padName, List.length_append, List.length_replicate]
  omega

theorem length_words (record : Record) : record.words.length = 20 := rfl

theorem isAscii_of_nameBytes (hbytes : ∀ byte ∈ name, isNameByte byte = true) :
    Text.IsAscii name := by
  intro byte hbyte
  have hle : byte.toNat ≤ (0x7E : UInt8).toNat := (isNameByte_iff.mp (hbytes byte hbyte)).2
  exact Nat.lt_of_le_of_lt hle (by decide)

theorem nul_notMem_of_nameBytes (hbytes : ∀ byte ∈ name, isNameByte byte = true) : 0 ∉ name := by
  intro hnul
  have hvalid := hbytes 0 hnul
  contradiction

/-! ## Writing, then reading -/

theorem encode_eq_ok_iff :
    record.encode = .ok data ↔
      checkName (Text.utf8 record.ifname) = .ok () ∧
        (Text.utf8 record.ifname).length < nameSize ∧
          data = padName (Text.utf8 record.ifname) ++ record.words := by
  cases hname : checkName (Text.utf8 record.ifname) with
  | error error => simp [encode_of_error hname]
  | ok =>
      by_cases hfits : (Text.utf8 record.ifname).length < nameSize
      · simp [encode_of_fits hname hfits, hfits, eq_comm]
      · simp [encode_of_long hname (Nat.not_lt.mp hfits), hfits]

/-- A buffer that is laid out as a record reads as that record. -/
theorem decode_layout (hname : checkName (Text.utf8 record.ifname) = .ok ())
    (hfits : (Text.utf8 record.ifname).length < nameSize) (rest : Bytes) :
    decode (padName (Text.utf8 record.ifname) ++ record.words ++ rest) = .ok record := by
  obtain ⟨_, hbytes⟩ := checkName_eq_ok_iff.mp hname
  have hpad := length_padName (Nat.le_of_lt hfits)
  rw [List.append_assoc]
  have hlength : size ≤
      (padName (Text.utf8 record.ifname) ++ (record.words ++ rest)).length := by
    rw [List.length_append, List.length_append, hpad, length_words, size]
    omega
  have hnul : 0 ∈ (padName (Text.utf8 record.ifname) ++ (record.words ++ rest)).take nameSize := by
    rw [List.take_left' hpad, padName_eq hfits]
    exact List.mem_append_right _ List.mem_cons_self
  have hbefore : (padName (Text.utf8 record.ifname) ++ (record.words ++ rest)).takeWhile (· != 0) =
      Text.utf8 record.ifname := by
    rw [padName_eq hfits, List.append_assoc, List.cons_append]
    exact takeWhile_append_nul (nul_notMem_of_nameBytes hbytes)
  rw [decode_of_terminated hlength hnul, hbefore, hname]
  generalize padName (Text.utf8 record.ifname) = buffer at hpad hbefore
  -- Each word is found behind the buffer and the words before it.
  have hdrop (offset : Nat) : (buffer ++ (record.words ++ rest)).drop (nameSize + offset) =
      (record.words ++ rest).drop offset := by
    rw [← hpad, List.drop_length_add_append]
  have hfirst : Word.signedAt (buffer ++ (record.words ++ rest)) nameSize = record.ipaddr :=
    Word.signedAt_eq (hdrop 0)
  show Except.ok (reading _) = _
  rw [reading, hbefore, Text.ofAscii_utf8 (isAscii_of_nameBytes hbytes), hfirst,
    Word.startingAt_eq (hdrop 4), Word.signedAt_eq (hdrop 8), Word.signedAt_eq (hdrop 12),
    Word.signedAt_eq (hdrop 16)]

theorem length_of_encode (hencode : record.encode = .ok data) : data.length = size := by
  obtain ⟨_, hfits, rfl⟩ := encode_eq_ok_iff.mp hencode
  rw [List.length_append, length_padName (Nat.le_of_lt hfits), length_words]
  rfl

theorem decode_append_of_encode (hencode : record.encode = .ok data) (rest : Bytes) :
    decode (data ++ rest) = .ok record := by
  obtain ⟨hname, hfits, rfl⟩ := encode_eq_ok_iff.mp hencode
  exact decode_layout hname hfits rest

theorem exists_encode_iff :
    (∃ data, record.encode = .ok data) ↔
      Text.utf8 record.ifname ≠ [] ∧ (∀ byte ∈ Text.utf8 record.ifname, isNameByte byte = true) ∧
        (Text.utf8 record.ifname).length < nameSize := by
  simp only [encode_eq_ok_iff, checkName_eq_ok_iff, exists_and_left, exists_eq, and_true,
    and_assoc]

/-! ## Reading, then writing -/

theorem decode_eq_ok_iff :
    decode data = .ok record ↔
      size ≤ data.length ∧ 0 ∈ data.take nameSize ∧
        checkName (data.takeWhile (· != 0)) = .ok () ∧ record = reading data := by
  by_cases hlength : size ≤ data.length
  · by_cases hnul : 0 ∈ data.take nameSize
    · rw [decode_of_terminated hlength hnul]
      cases hname : checkName (data.takeWhile (· != 0)) with
      | error error => simp [Except.map]
      | ok => simp [Except.map, hlength, hnul, eq_comm]
    · simp [decode_of_unterminated hlength hnul, hnul]
  · simp [decode_of_short (Nat.not_le.mp hlength), hlength]

/-- The words that are read from a buffer have the bytes found there. -/
theorem words_reading (hlength : size ≤ data.length) :
    (reading data).words = (data.drop nameSize).take (size - nameSize) := by
  have hword {offset : Nat} (hoffset : offset ≤ 32) : offset + 4 ≤ data.length :=
    Nat.le_trans (Nat.add_le_add_right hoffset 4) hlength
  have hsplit : size - nameSize = 4 + (4 + (4 + (4 + 4))) := rfl
  rw [hsplit, List.take_add, List.take_add, List.take_add, List.take_add]
  simp only [words, reading, List.drop_drop]
  rw [Word.signedBytes_signedAt (hword (by decide)), Word.bytes_startingAt (hword (by decide)),
    Word.signedBytes_signedAt (hword (by decide)), Word.signedBytes_signedAt (hword (by decide)),
    Word.signedBytes_signedAt (hword (by decide))]

/-- A terminated buffer splits at its first NUL, which is within the first 16 bytes. -/
theorem exists_split_of_terminated (hnul : 0 ∈ data.take nameSize) :
    ∃ name rest, data = name ++ 0 :: rest ∧ 0 ∉ name ∧ name.length < nameSize := by
  obtain ⟨name, rest, hbuffer, hname⟩ := List.eq_append_cons_of_mem hnul
  refine ⟨name, rest ++ data.drop nameSize, ?_, hname, ?_⟩
  · rw [← List.cons_append, ← List.append_assoc, ← hbuffer, List.take_append_drop]
  · have hlength : (name ++ 0 :: rest).length ≤ nameSize := by
      rw [← hbuffer]
      exact List.length_take_le _ _
    rw [List.length_append, List.length_cons] at hlength
    omega

theorem canonical_eq (hnul : 0 ∈ data.take nameSize) :
    canonical data = padName (data.takeWhile (· != 0)) ++
      (data.drop nameSize).take (size - nameSize) := by
  rw [canonical, takeWhile_take hnul]

theorem encode_reading (hlength : size ≤ data.length) (hnul : 0 ∈ data.take nameSize)
    (hname : checkName (data.takeWhile (· != 0)) = .ok ()) :
    (reading data).encode = .ok (canonical data) := by
  obtain ⟨_, hbytes⟩ := checkName_eq_ok_iff.mp hname
  have hifname : Text.utf8 (reading data).ifname = data.takeWhile (· != 0) :=
    Text.utf8_ofAscii (isAscii_of_nameBytes hbytes)
  have hfits : (data.takeWhile (· != 0)).length < nameSize := by
    obtain ⟨name, rest, rfl, hnot, hfits⟩ := exists_split_of_terminated hnul
    rw [takeWhile_append_nul hnot]
    exact hfits
  rw [canonical_eq hnul, ← words_reading hlength, ← hifname]
  rw [← hifname] at hname hfits
  exact encode_of_fits hname hfits

theorem getElem?_padName {position : Nat} (hposition : position < nameSize) :
    (padName name)[position]? = if position < name.length then name[position]? else some 0 := by
  rw [padName, List.getElem?_append]
  split
  next => rfl
  next hafter => rw [List.getElem?_replicate_of_lt (by omega)]

/-- A beginning of a buffer reaches its first NUL if it is longer than the name. -/
theorem nul_mem_take_iff (hname : 0 ∉ name) (position : Nat) :
    0 ∈ (name ++ 0 :: rest).take position ↔ name.length < position := by
  constructor
  · intro hnul
    refine Nat.lt_of_not_le fun hle => ?_
    rw [List.take_append_of_le_length hle] at hnul
    exact hname (List.mem_of_mem_take hnul)
  · intro hlt
    have hcount : position - name.length = (position - name.length - 1) + 1 := by omega
    rw [List.take_append, hcount, List.take_succ_cons]
    exact List.mem_append_right _ List.mem_cons_self

/-- Padding a name clears what comes after the NUL that ends it. -/
theorem getElem?_padName_of_split (hname : 0 ∉ name) {position : Nat}
    (hposition : position < nameSize) :
    (padName name)[position]? =
      if 0 ∈ (name ++ 0 :: rest).take position then some 0
      else (name ++ 0 :: rest)[position]? := by
  rw [getElem?_padName hposition]
  by_cases hbefore : position < name.length
  · rw [if_pos hbefore, if_neg (by rw [nul_mem_take_iff hname]; omega),
      List.getElem?_append_left hbefore]
  · rw [if_neg hbefore]
    split
    next => rfl
    next hfirst =>
      -- The NUL that ends the name is kept, and it is one already.
      rw [nul_mem_take_iff hname] at hfirst
      have hend : position - name.length = 0 := by omega
      rw [List.getElem?_append_right (Nat.not_lt.mp hbefore), hend]
      rfl

/-- The canonical form byte by byte: the first 36 bytes, cleared within the name buffer
from the first NUL on. -/
theorem getElem?_canonical (hnul : 0 ∈ data.take nameSize) (position : Nat) :
    (canonical data)[position]? =
      if 36 ≤ position then none
      else if position < 16 ∧ 0 ∈ data.take position then some 0
      else data[position]? := by
  obtain ⟨name, rest, rfl, hname, hfits⟩ := exists_split_of_terminated hnul
  have hpad : (padName name).length = 16 := length_padName (Nat.le_of_lt hfits)
  have hcanonical : canonical (name ++ 0 :: rest) =
      padName name ++ ((name ++ 0 :: rest).drop 16).take 20 := by
    rw [canonical_eq hnul, takeWhile_append_nul hname]
    rfl
  rw [hcanonical]
  by_cases hwithin : position < 16
  · have hsmall : ¬ 36 ≤ position := by omega
    rw [List.getElem?_append_left (by omega), if_neg hsmall]
    simp only [hwithin, true_and]
    exact getElem?_padName_of_split hname hwithin
  · rw [List.getElem?_append_right (by omega), hpad, List.getElem?_take, List.getElem?_drop]
    by_cases hbeyond : 36 ≤ position
    · rw [if_neg (by omega), if_pos hbeyond]
    · have hoffset : 16 + (position - 16) = position := by omega
      rw [if_pos (by omega), if_neg hbeyond, if_neg fun h => hwithin h.1, hoffset]

end

/-! ## Main statements -/

/-- What a record is written as has 36 bytes and reads as the record, whatever follows
it; and a record can be written exactly if its name has 1 to 15 bytes, all of them
visible ASCII. -/
theorem decode_of_encode (record : Record) (rest : Bytes) :
    (∀ data, record.encode = .ok data →
        data.length = 36 ∧ decode (data ++ rest) = .ok record) ∧
      ((∃ data, record.encode = .ok data) ↔
        1 ≤ (Text.utf8 record.ifname).length ∧ (Text.utf8 record.ifname).length ≤ 15 ∧
          ∀ byte ∈ Text.utf8 record.ifname, 0x21 ≤ byte ∧ byte ≤ 0x7E) := by
  constructor
  · intro data hencode
    exact ⟨length_of_encode hencode, decode_append_of_encode hencode rest⟩
  · simp only [exists_encode_iff, isNameByte_iff]
    constructor
    · rintro ⟨hname, hbytes, hfits⟩
      exact ⟨List.length_pos_iff.mpr hname, Nat.le_of_lt_succ hfits, hbytes⟩
    · rintro ⟨hname, hfits, hbytes⟩
      exact ⟨List.length_pos_iff.mp hname, hbytes, Nat.lt_succ_of_le hfits⟩

/-- A name that fills its buffer, words at the ends of their ranges, and bytes behind. -/
theorem decode_of_encode_longest_name :
    let record : Record :=
      { ifname := "abcdefghijklmno", ipaddr := -2147483648, prefixLength := 4294967295
        gateway := -1, dns0 := 2147483647, dns1 := 1 }
    let data : Bytes :=
      [97, 98, 99, 100, 101, 102, 103, 104, 105, 106, 107, 108, 109, 110, 111, 0,
        0, 0, 0, 128, 255, 255, 255, 255, 255, 255, 255, 255, 255, 255, 255, 127, 1, 0, 0, 0]
    record.encode = .ok data ∧ data.length = 36 ∧ decode (data ++ [0, 7]) = .ok record := by
  intro record data
  have hdecode : decode data = .ok record := rfl
  obtain ⟨hlength, hnul, hname, hread⟩ := decode_eq_ok_iff.mp hdecode
  have hencode : record.encode = .ok data := by
    rw [hread]
    exact encode_reading hlength hnul hname
  exact ⟨hencode, (decode_of_encode record [0, 7]).1 data hencode⟩

/-- Writing what was read gives the canonical form of the buffer, which reads as the
same record; so two buffers read as one record exactly if their canonical forms are
the same. The canonical form keeps the first 36 bytes, but for those in the name
buffer that come after a NUL. -/
theorem encode_of_decode {data : Bytes} {record : Record} (hdecode : decode data = .ok record) :
    record.encode = .ok (canonical data) ∧
      decode (canonical data) = .ok record ∧
      (∀ position, (canonical data)[position]? =
        if 36 ≤ position then none
        else if position < 16 ∧ 0 ∈ data.take position then some 0
        else data[position]?) ∧
      ∀ other otherRecord, decode other = .ok otherRecord →
        (record = otherRecord ↔ canonical data = canonical other) := by
  have hback {buffer : Bytes} {held : Record} (hheld : decode buffer = .ok held) :
      held.encode = .ok (canonical buffer) ∧ decode (canonical buffer) = .ok held := by
    obtain ⟨hlength, hnul, hname, rfl⟩ := decode_eq_ok_iff.mp hheld
    have hencode := encode_reading hlength hnul hname
    have hagain := decode_append_of_encode hencode []
    rw [List.append_nil] at hagain
    exact ⟨hencode, hagain⟩
  obtain ⟨hencode, hagain⟩ := hback hdecode
  refine ⟨hencode, hagain, getElem?_canonical (decode_eq_ok_iff.mp hdecode).2.1, ?_⟩
  intro other otherRecord hother
  obtain ⟨hencodeOther, hagainOther⟩ := hback hother
  constructor
  · rintro rfl
    rw [hencode] at hencodeOther
    exact Except.ok.inj hencodeOther
  · intro hcanonical
    rw [hcanonical, hagainOther] at hagain
    exact (Except.ok.inj hagain).symm

/-- Two buffers that differ after the name and after the record only. -/
theorem encode_of_decode_garbage :
    let words : Bytes := [10, 0, 0, 1, 33, 0, 0, 0, 255, 255, 255, 255, 8, 8, 8, 8, 0, 0, 0, 128]
    let data : Bytes := [114, 109, 0] ++ List.replicate 13 255 ++ words ++ [1, 2]
    let other : Bytes := [114, 109, 0] ++ List.replicate 13 0 ++ words
    let record : Record :=
      { ifname := "rm", ipaddr := 16777226, prefixLength := 33, gateway := -1
        dns0 := 134744072, dns1 := -2147483648 }
    decode data = .ok record ∧ decode other = .ok record ∧ data ≠ other ∧
      record.encode = .ok other ∧ canonical data = canonical other := by
  intro words data other record
  have hdata : decode data = .ok record := rfl
  have hother : decode other = .ok record := rfl
  obtain ⟨hencode, _, _, hsame⟩ := encode_of_decode hdata
  have hcanonical : canonical data = other := rfl
  refine ⟨hdata, hother, by decide, ?_, (hsame other record hother).mp rfl⟩
  rw [hencode, hcanonical]

end RadioAdapter.Record
