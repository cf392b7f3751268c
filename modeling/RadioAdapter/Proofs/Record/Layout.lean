import RadioAdapter.Proofs.Record.RoundTrip

/-! # How a record is laid out

A record has the name, padded with NULs, and then five words. The addresses among them keep their
octets in network order, although each of them travels as a signed number; the length of the
prefix is a number, with its lowest byte first. An address that is absent is sent as zeros, and
the same zeros in the place of the address to assign are what asks for a teardown.
-/

namespace RadioAdapter

namespace Address

variable (address : Option Address)

theorem signedBytes_elim_toWire :
    Word.signedBytes (address.elim 0 toWire) = address.elim [0, 0, 0, 0] octets := by
  cases address with
  | none => rfl
  | some address => exact signedBytes_toWire address

theorem ofWire_elim_toWire : ofWire (address.elim 0 toWire) = address.getD ⟨0, 0, 0, 0⟩ := by
  cases address with
  | none => rfl
  | some address => exact ofWire_toWire address

end Address

namespace Record

theorem isTeardown_configure (ifname : String) (address : Address) (prefixLength : UInt32)
    (gateway dns0 dns1 : Option Address) :
    (configure ifname address prefixLength gateway dns0 dns1).isTeardown =
      decide (address = .unspecified) := by
  have hword : (configure ifname address prefixLength gateway dns0 dns1).ipaddr = address.toWire :=
    rfl
  rw [Bool.eq_iff_iff, decide_eq_true_iff, isTeardown, hword, beq_iff_eq]
  exact Address.toWire_eq_zero_iff

/-- The words of a record to configure an interface: the octets of its addresses, with the length
of the prefix among them. -/
theorem words_configure (ifname : String) (address : Address) (prefixLength : UInt32)
    (gateway dns0 dns1 : Option Address) :
    (configure ifname address prefixLength gateway dns0 dns1).words =
      address.octets ++ (Word.bytes prefixLength ++
        (gateway.elim [0, 0, 0, 0] Address.octets ++ (dns0.elim [0, 0, 0, 0] Address.octets ++
          dns1.elim [0, 0, 0, 0] Address.octets))) := by
  simp only [words, configure, Address.signedBytes_toWire, Address.signedBytes_elim_toWire]

theorem words_teardown (ifname : String) : (teardown ifname).words = List.replicate 20 0 := by
  rw [teardown, words_configure]
  rfl

/-- A name of 1 to 15 visible bytes is in order, whatever the words of the record are. -/
theorem encode_of_visible (record : Record) (hname : 1 ≤ (Text.utf8 record.ifname).length)
    (hfits : (Text.utf8 record.ifname).length ≤ 15)
    (hbytes : ∀ byte ∈ Text.utf8 record.ifname, 0x21 ≤ byte ∧ byte ≤ 0x7E) :
    record.encode = .ok (padName (Text.utf8 record.ifname) ++ record.words) := by
  refine encode_of_fits (checkName_of_valid ?_ fun byte hbyte => ?_) (Nat.lt_succ_of_le hfits)
  · exact List.length_pos_iff.mp hname
  · exact isNameByte_iff.mpr (hbytes byte hbyte)

/-- Addresses and wire words stand for each other. What a record to configure an interface is
written as has the octets of its addresses in order, zeros for an absent one, and between them the
length of the prefix with its lowest byte first; it is read as the record, which has the addresses.
Only the address 0.0.0.0 makes it a teardown, and the bytes of a plain teardown are zeros behind
the name. -/
theorem addresses_keep_network_order :
    (∀ address : Address, Address.ofWire address.toWire = address) ∧
      (∀ wire : Int32, (Address.ofWire wire).toWire = wire) ∧
      ∀ (ifname : String) (address : Address) (prefixLength : UInt32)
        (gateway dns0 dns1 : Option Address),
        let record := configure ifname address prefixLength gateway dns0 dns1
        (record.isTeardown = true ↔ address = ⟨0, 0, 0, 0⟩) ∧
          (1 ≤ (Text.utf8 ifname).length → (Text.utf8 ifname).length ≤ 15 →
            (∀ byte ∈ Text.utf8 ifname, 0x21 ≤ byte ∧ byte ≤ 0x7E) →
              let name := Text.utf8 ifname ++ List.replicate (16 - (Text.utf8 ifname).length) 0
              let data := name ++
                ([address.octet0, address.octet1, address.octet2, address.octet3] ++
                  ([(prefixLength >>> 0).toUInt8, (prefixLength >>> 8).toUInt8,
                      (prefixLength >>> 16).toUInt8, (prefixLength >>> 24).toUInt8] ++
                    (gateway.elim [0, 0, 0, 0] Address.octets ++
                      (dns0.elim [0, 0, 0, 0] Address.octets ++
                        dns1.elim [0, 0, 0, 0] Address.octets))))
              record.encode = .ok data ∧ decode data = .ok record ∧
                Address.ofWire record.ipaddr = address ∧
                Address.ofWire record.gateway = gateway.getD ⟨0, 0, 0, 0⟩ ∧
                Address.ofWire record.dns0 = dns0.getD ⟨0, 0, 0, 0⟩ ∧
                Address.ofWire record.dns1 = dns1.getD ⟨0, 0, 0, 0⟩ ∧
                (teardown ifname).encode = .ok (name ++ List.replicate 20 0)) := by
  refine ⟨Address.ofWire_toWire, Address.toWire_ofWire, ?_⟩
  intro ifname address prefixLength gateway dns0 dns1 record
  refine ⟨?_, ?_⟩
  · rw [isTeardown_configure, decide_eq_true_iff]
    exact Iff.rfl
  · intro hname hfits hbytes name data
    have hencode : record.encode = .ok data := by
      rw [encode_of_visible record hname hfits hbytes, words_configure, Word.bytes_eq_shifts]
      rfl
    have hdecode := decode_append_of_encode hencode []
    rw [List.append_nil] at hdecode
    refine ⟨hencode, hdecode, Address.ofWire_toWire address, Address.ofWire_elim_toWire gateway,
      Address.ofWire_elim_toWire dns0, Address.ofWire_elim_toWire dns1, ?_⟩
    rw [encode_of_visible (teardown ifname) hname hfits hbytes, words_teardown]
    rfl

/-- An address whose last octet makes its word negative, a prefix length with four different
bytes, and no gateway. -/
theorem addresses_keep_network_order_of_negative_word :
    let address : Address := ⟨192, 168, 1, 200⟩
    let server : Address := ⟨255, 255, 255, 255⟩
    let record := configure "wlan0" address 0x01020304 none (some server) none
    let name : Bytes := [119, 108, 97, 110, 48, 0, 0, 0, 0, 0, 0, 0, 0, 0, 0, 0]
    let words : Bytes := [192, 168, 1, 200, 4, 3, 2, 1, 0, 0, 0, 0, 255, 255, 255, 255, 0, 0, 0, 0]
    record.ipaddr < 0 ∧ record.isTeardown = false ∧ record.encode = .ok (name ++ words) ∧
      decode (name ++ words) = .ok record ∧ Address.ofWire record.ipaddr = address ∧
      Address.ofWire record.gateway = ⟨0, 0, 0, 0⟩ ∧ Address.ofWire record.dns0 = server ∧
      (teardown "wlan0").encode = .ok (name ++ List.replicate 20 0) := by
  intro address server record name words
  obtain ⟨-, -, hlayout⟩ := addresses_keep_network_order
  obtain ⟨hteardown, hwritten⟩ := hlayout "wlan0" address 0x01020304 none (some server) none
  obtain ⟨hencode, hdecode, hipaddr, hgateway, hdns0, -, hplain⟩ :=
    hwritten (by decide) (by decide) (by decide +kernel)
  refine ⟨by decide, ?_, hencode, hdecode, hipaddr, hgateway, hdns0, hplain⟩
  exact eq_false_of_ne_true (mt hteardown.mp (by decide))

end Record

end RadioAdapter
