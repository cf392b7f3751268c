import RadioAdapter.Bytes.Word
import RadioAdapter.Net.Address
import RadioAdapter.Text.Utf8

/-! # Interface records

A record asks for one network interface to be configured or torn down. On the
wire it has 36 bytes: the interface name in a buffer of 16 bytes, padded with
NULs, then five little-endian words. Reading looks at the first 36 bytes only,
and at the name only up to its first NUL.
-/

namespace RadioAdapter

/-- A request to configure an interface, or to tear it down when the address is
zero. Addresses are wire words. -/
structure Record where
  ifname : String
  ipaddr : Int32
  prefixLength : UInt32
  gateway : Int32
  dns0 : Int32
  dns1 : Int32
deriving DecidableEq, Repr

namespace Record

/-- The size of the name buffer. -/
def nameSize : Nat := 16

/-- The size of a record on the wire. -/
def size : Nat := nameSize + 5 * 4

/-- Why a record cannot be written or read. -/
inductive Error where
  | tooShort (length : Nat)
  | unterminatedName
  | emptyName
  | invalidName
  | nameTooLong (length : Nat)
deriving DecidableEq, Repr

def Error.message : Error → String
  | .tooShort length =>
      "record too short: " ++ toString length ++ " bytes (expected " ++ toString size ++ ")"
  | .unterminatedName =>
      "interface name is not NUL-terminated within " ++ toString nameSize ++ " bytes"
  | .emptyName => "interface name is empty"
  | .invalidName => "interface name is not printable ASCII"
  | .nameTooLong length =>
      "interface name too long: " ++ toString length ++ " bytes (maximum " ++
        toString (nameSize - 1) ++ ")"

/-! ## Building records -/

/-- The record that assigns an address; whatever is absent is sent as zero. -/
def configure (ifname : String) (address : Address) (prefixLength : UInt32)
    (gateway dns0 dns1 : Option Address) : Record :=
  { ifname, prefixLength
    ipaddr := address.toWire
    gateway := gateway.elim 0 Address.toWire
    dns0 := dns0.elim 0 Address.toWire
    dns1 := dns1.elim 0 Address.toWire }

/-- The record that removes all configuration from an interface. -/
def teardown (ifname : String) : Record :=
  configure ifname .unspecified 0 none none none

/-- Whether the record asks for the interface to be torn down. -/
def isTeardown (record : Record) : Bool := record.ipaddr == 0

/-! ## The wire form -/

/-- The bytes that a name may hold: visible ASCII, without the space. -/
def isNameByte (byte : UInt8) : Bool := 0x21 ≤ byte && byte ≤ 0x7E

/-- Check a name: it has a byte, and only bytes that a name may hold. -/
def checkName (name : Bytes) : Except Error Unit :=
  if name.isEmpty then .error .emptyName
  else if name.all isNameByte then .ok ()
  else .error .invalidName

/-- A name in its buffer, with NULs up to the buffer's end. -/
def padName (name : Bytes) : Bytes := name ++ List.replicate (nameSize - name.length) 0

/-- The wire form of a record. A bad name is reported before a long one. -/
def encode (record : Record) : Except Error Bytes := do
  let name := Text.utf8 record.ifname
  checkName name
  if nameSize ≤ name.length then .error (.nameTooLong name.length)
  else .ok (padName name ++ Word.signedBytes record.ipaddr ++ Word.bytes record.prefixLength ++
    Word.signedBytes record.gateway ++ Word.signedBytes record.dns0 ++
    Word.signedBytes record.dns1)

/-- Read a record from the bytes that start with it. -/
def decode (data : Bytes) : Except Error Record := do
  if data.length < size then .error (.tooShort data.length)
  else
    let buffer := data.take nameSize
    if buffer.contains 0 then
      let name := buffer.takeWhile (· != 0)
      checkName name
      .ok { ifname := Text.ofAscii name
            ipaddr := Word.signedAt data nameSize
            prefixLength := Word.startingAt data (nameSize + 4)
            gateway := Word.signedAt data (nameSize + 8)
            dns0 := Word.signedAt data (nameSize + 12)
            dns1 := Word.signedAt data (nameSize + 16) }
    else .error .unterminatedName

/-- The canonical form of a buffer: its record's bytes, with everything after
the name's first NUL cleared. -/
def canonical (data : Bytes) : Bytes :=
  padName ((data.take nameSize).takeWhile (· != 0)) ++ (data.drop nameSize).take (size - nameSize)

/-! ## Names -/

theorem isNameByte_iff {byte : UInt8} : isNameByte byte = true ↔ 0x21 ≤ byte ∧ byte ≤ 0x7E := by
  simp only [isNameByte, Bool.and_eq_true, decide_eq_true_eq]

section

variable {name rest data : Bytes} {record : Record} {error : Error}

theorem checkName_of_valid (hname : name ≠ []) (hbytes : ∀ byte ∈ name, isNameByte byte = true) :
    checkName name = .ok () := by
  rw [checkName, if_neg (by simpa using hname), if_pos (List.all_eq_true.mpr hbytes)]

theorem checkName_of_invalid {byte : UInt8} (hbyte : byte ∈ name)
    (hinvalid : isNameByte byte = false) : checkName name = .error .invalidName := by
  have hname : name ≠ [] := List.ne_nil_of_mem hbyte
  have hall : ¬ name.all isNameByte = true := by
    intro hall
    rw [List.all_eq_true.mp hall byte hbyte] at hinvalid
    contradiction
  rw [checkName, if_neg (by simpa using hname), if_neg hall]

theorem checkName_eq_ok_iff :
    checkName name = .ok () ↔ name ≠ [] ∧ ∀ byte ∈ name, isNameByte byte = true := by
  constructor
  · intro hok
    refine ⟨?_, ?_⟩
    · rintro rfl
      contradiction
    · intro byte hbyte
      cases hvalid : isNameByte byte with
      | true => rfl
      | false =>
          rw [checkName_of_invalid hbyte hvalid] at hok
          contradiction
  · rintro ⟨hname, hbytes⟩
    exact checkName_of_valid hname hbytes

/-- A name without NULs is what stands before the first NUL. -/
theorem takeWhile_append_nul (hname : 0 ∉ name) :
    (name ++ 0 :: rest).takeWhile (· != 0) = name := by
  have hnul : ∀ byte ∈ name, (byte != 0) = true := by
    intro byte hbyte
    simp only [bne_iff_ne]
    rintro rfl
    exact hname hbyte
  rw [List.takeWhile_append_of_pos hnul, List.takeWhile_cons_of_neg (by simp), List.append_nil]

/-- In a buffer that is terminated, the first NUL of the buffer is that of the whole. -/
theorem takeWhile_take (hnul : 0 ∈ data.take nameSize) :
    (data.take nameSize).takeWhile (· != 0) = data.takeWhile (· != 0) := by
  obtain ⟨name, rest, hbuffer, hname⟩ := List.eq_append_cons_of_mem hnul
  have hdata : data = name ++ 0 :: (rest ++ data.drop nameSize) := by
    rw [← List.cons_append, ← List.append_assoc, ← hbuffer, List.take_append_drop]
  rw [hbuffer, takeWhile_append_nul hname, hdata, takeWhile_append_nul hname]

/-! ## Outcomes -/

/-- The bytes of a record's five words, in wire order. -/
def words (record : Record) : Bytes :=
  Word.signedBytes record.ipaddr ++ (Word.bytes record.prefixLength ++
    (Word.signedBytes record.gateway ++ (Word.signedBytes record.dns0 ++
      Word.signedBytes record.dns1)))

theorem encode_of_error (hname : checkName (Text.utf8 record.ifname) = .error error) :
    record.encode = .error error := by
  rw [encode, hname]
  rfl

theorem encode_of_long (hname : checkName (Text.utf8 record.ifname) = .ok ())
    (hlong : nameSize ≤ (Text.utf8 record.ifname).length) :
    record.encode = .error (.nameTooLong (Text.utf8 record.ifname).length) := by
  rw [encode, hname]
  exact if_pos hlong

theorem encode_of_fits (hname : checkName (Text.utf8 record.ifname) = .ok ())
    (hfits : (Text.utf8 record.ifname).length < nameSize) :
    record.encode = .ok (padName (Text.utf8 record.ifname) ++ record.words) := by
  rw [encode, hname]
  simp only [words, List.append_assoc]
  exact if_neg (Nat.not_le.mpr hfits)

theorem decode_of_short (hshort : data.length < size) :
    decode data = .error (.tooShort data.length) :=
  if_pos hshort

theorem decode_of_unterminated (hlength : size ≤ data.length) (hnul : 0 ∉ data.take nameSize) :
    decode data = .error .unterminatedName := by
  rw [decode, if_neg (Nat.not_lt.mpr hlength)]
  exact if_neg (by simpa using hnul)

/-- The record that a buffer holds if its name is in order. -/
def reading (data : Bytes) : Record :=
  { ifname := Text.ofAscii (data.takeWhile (· != 0))
    ipaddr := Word.signedAt data nameSize
    prefixLength := Word.startingAt data (nameSize + 4)
    gateway := Word.signedAt data (nameSize + 8)
    dns0 := Word.signedAt data (nameSize + 12)
    dns1 := Word.signedAt data (nameSize + 16) }

theorem decode_of_terminated (hlength : size ≤ data.length) (hnul : 0 ∈ data.take nameSize) :
    decode data = (checkName (data.takeWhile (· != 0))).map fun _ => reading data := by
  rw [decode, if_neg (Nat.not_lt.mpr hlength)]
  simp only [takeWhile_take hnul]
  rw [if_pos (by simpa using hnul)]
  cases checkName (data.takeWhile (· != 0)) <;> rfl

end

end Record

end RadioAdapter
