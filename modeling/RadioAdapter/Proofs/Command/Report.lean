import RadioAdapter.Proofs.Address
import RadioAdapter.Proofs.Command.Spelling
import RadioAdapter.Proofs.Json.Forms
import RadioAdapter.Proofs.Record.Layout

/-! # Reports on records

The command writes records in hexadecimal and reports on what it reads. A report says all that
its record holds: it is read as JSON, and what it says is enough to have the record written
again, byte by byte but for those that reading does not look at.
-/

namespace RadioAdapter

theorem Address.toString_ofWire_elim (address : Option Address) :
    toString (ofWire (address.elim 0 toWire)) = address.elim "0.0.0.0" toString := by
  cases address with
  | none => rfl
  | some address => rw [Option.elim_some, Option.elim_some, ofWire_toWire]

namespace Command

/-! ## Records in hexadecimal -/

theorem hexBytes_encode (data : Bytes) : hexBytes (Hex.encode data) = .ok data :=
  hexBytes_of_spells (spells_encode data)

/-- The command reports on the records of texts that hold one. -/
theorem decodeText_eq_ok_iff {text output : String} :
    decodeText text = .ok output ↔
      ∃ data record, hexBytes text = .ok data ∧ Record.decode data = .ok record ∧
        output = Json.prettyText (recordReport record) := by
  constructor
  · intro hdecode
    cases hbytes : hexBytes text with
    | error error =>
        simp only [decodeText, hbytes] at hdecode
        contradiction
    | ok data =>
        cases hrecord : Record.decode data with
        | error error =>
            simp only [decodeText, hbytes, hrecord] at hdecode
            contradiction
        | ok record =>
            simp only [decodeText, hbytes, hrecord, Except.ok.injEq] at hdecode
            exact ⟨data, record, rfl, hrecord, hdecode.symm⟩
  · rintro ⟨data, record, hbytes, hrecord, rfl⟩
    simp only [decodeText, hbytes, hrecord]

theorem recordText_eq_ok_iff {record : Record} {text : String} :
    recordText record = .ok text ↔ ∃ data, record.encode = .ok data ∧ text = Hex.encode data := by
  unfold recordText
  cases record.encode with
  | error error => simp
  | ok data => simp [eq_comm]

/-- A record is written as the digits of its bytes, and these are reported on as the record. -/
theorem decodeText_of_recordText {record : Record} {text : String}
    (hwritten : recordText record = .ok text) :
    decodeText text = .ok (Json.prettyText (recordReport record)) := by
  obtain ⟨data, hencode, rfl⟩ := recordText_eq_ok_iff.mp hwritten
  have hdecode := Record.decode_append_of_encode hencode []
  rw [List.append_nil] at hdecode
  exact decodeText_eq_ok_iff.mpr ⟨data, record, hexBytes_encode data, hdecode, rfl⟩

/-! ## What a report says -/

/-- What a report says of a record. -/
structure Report where
  record : Record
  teardown : Bool
  ipaddr : String
  gateway : String
  dns : List String
deriving DecidableEq, Repr

/-- The value that stands under a name, if one does and no other. -/
def member? (name : String) : Value → Option Value
  | .table entries =>
      match Value.allAt name entries with
      | [value] => some value
      | _ => none
  | _ => none

/-- Read a report from its JSON text. -/
def Report.ofText? (text : String) : Option Report := do
  let document ← Json.read text.toList
  let record ← (← member? "record" document) |> Record.form.read?
  let teardown ← (← member? "teardown" document).bool?
  let addresses ← member? "addresses" document
  let ipaddr ← (← member? "ipaddr" addresses).text?
  let gateway ← (← member? "gateway" addresses).text?
  let dns ← (← member? "dns" addresses).texts?
  return { record, teardown, ipaddr, gateway, dns }

/-- The report that a record asks for: its addresses are in dotted form. -/
def Report.ofRecord (record : Record) : Report :=
  { record
    teardown := record.isTeardown
    ipaddr := toString (Address.ofWire record.ipaddr)
    gateway := toString (Address.ofWire record.gateway)
    dns := [toString (Address.ofWire record.dns0), toString (Address.ofWire record.dns1)] }

theorem plain_recordReport (record : Record) : Json.Plain (recordReport record) := by
  have haddresses : Json.Plain (.array [addressValue record.dns0, addressValue record.dns1]) :=
    plain_texts [toString (Address.ofWire record.dns0), toString (Address.ofWire record.dns1)]
  refine .table fun entry hentry => ?_
  simp only [List.mem_cons, List.not_mem_nil, or_false] at hentry
  rcases hentry with rfl | rfl | rfl
  · refine .table fun entry hentry => ?_
    simp only [List.mem_cons, List.not_mem_nil, or_false] at hentry
    rcases hentry with rfl | rfl | rfl
    · exact haddresses
    · exact .text _
    · exact .text _
  · exact record.plain_toValue
  · exact .bool _

/-- A report is read back from its text. -/
theorem Report.ofText?_prettyText (record : Record) :
    ofText? (Json.prettyText (recordReport record)) = some (ofRecord record) := by
  have hread := (plain_recordReport record).read_prettyText
  have hrecord : Record.form.read? record.toValue = some record :=
    Record.lawful_form.read record _ (.refl _)
  have hmember : member? "record" (recordReport record) = some record.toValue := rfl
  rw [ofText?, hread]
  simp only [Option.bind_eq_bind, Option.bind_some, hmember, hrecord]
  rfl

/-! ## Main statements -/

theorem exists_recordText_iff {record : Record} :
    (∃ text, recordText record = .ok text) ↔
      1 ≤ (Text.utf8 record.ifname).length ∧ (Text.utf8 record.ifname).length ≤ 15 ∧
        ∀ byte ∈ Text.utf8 record.ifname, 0x21 ≤ byte ∧ byte ≤ 0x7E := by
  have hencode : (∃ text, recordText record = .ok text) ↔ ∃ data, record.encode = .ok data := by
    simp only [recordText_eq_ok_iff]
    constructor
    · rintro ⟨text, data, hdata, -⟩
      exact ⟨data, hdata⟩
    · rintro ⟨data, hdata⟩
      exact ⟨_, data, hdata, rfl⟩
  have hsize : (Text.utf8 record.ifname).length < Record.nameSize ↔
      (Text.utf8 record.ifname).length ≤ 15 := Nat.lt_succ_iff
  simp only [hencode, Record.exists_encode_iff, hsize, Record.isNameByte_iff, Nat.one_le_iff_ne_zero,
    ne_eq, List.length_eq_zero_iff]
  exact ⟨fun ⟨hname, hbytes, hfits⟩ => ⟨hname, hfits, hbytes⟩,
    fun ⟨hname, hfits, hbytes⟩ => ⟨hname, hbytes, hfits⟩⟩

/-- The command shows what it was given. It writes a record exactly if there are at most two name
servers and the name has 1 to 15 bytes, all of them visible ASCII; too many servers are reported
whatever the name. What it writes has 72 lower-case hexadecimal digits, and the report on them says
that they configure the interface as it was asked for, each absent address being 0.0.0.0. -/
theorem report_of_encodeText (ifname : String) (address : Address) (prefixLength : UInt32)
    (gateway : Option Address) (servers : List Address) :
    let written := encodeText ifname address prefixLength gateway servers
    ((∃ text, written = .ok text) ↔
        servers.length ≤ 2 ∧ 1 ≤ (Text.utf8 ifname).length ∧ (Text.utf8 ifname).length ≤ 15 ∧
          ∀ byte ∈ Text.utf8 ifname, 0x21 ≤ byte ∧ byte ≤ 0x7E) ∧
      (2 < servers.length → written = .error (.tooManyServers servers.length)) ∧
      ∀ text, written = .ok text →
        text.length = 72 ∧ (∀ c ∈ text.toList, c ∈ "0123456789abcdef".toList) ∧
          ∃ output, decodeText text = .ok output ∧
            Report.ofText? output = some
              { record := .configure ifname address prefixLength gateway servers[0]? servers[1]?
                teardown := decide (address = .unspecified)
                ipaddr := toString address
                gateway := gateway.elim "0.0.0.0" toString
                dns := [servers[0]?.elim "0.0.0.0" toString,
                  servers[1]?.elim "0.0.0.0" toString] } := by
  intro written
  have hmany (hservers : 2 < servers.length) :
      written = .error (.tooManyServers servers.length) := if_pos hservers
  have hfew (hservers : ¬ 2 < servers.length) : written =
      recordText (.configure ifname address prefixLength gateway servers[0]? servers[1]?) :=
    if_neg hservers
  refine ⟨?_, hmany, ?_⟩
  · by_cases hservers : 2 < servers.length
    · simp [hmany hservers, Nat.not_le.mpr hservers]
    · rw [hfew hservers, exists_recordText_iff]
      exact ⟨fun hname => ⟨Nat.not_lt.mp hservers, hname⟩, fun hname => hname.2⟩
  · intro text htext
    have hservers : ¬ 2 < servers.length := by
      intro hservers
      rw [hmany hservers] at htext
      contradiction
    rw [hfew hservers] at htext
    have hreport := decodeText_of_recordText htext
    obtain ⟨data, hencode, rfl⟩ := recordText_eq_ok_iff.mp htext
    refine ⟨?_, ?_, _, hreport, ?_⟩
    · rw [Hex.encode, String.length_ofList, Hex.length_digits, Record.length_of_encode hencode]
      rfl
    · rw [Hex.encode, String.toList_ofList]
      exact Hex.forall_mem_digits (by decide) data
    · rw [Report.ofText?_prettyText, Report.ofRecord, Record.isTeardown_configure]
      simp only [Record.configure, Address.toString_ofWire_elim, Address.ofWire_toWire]

/-- A name that JSON has to escape, an address whose last octet makes its word negative, one name
server, and with an empty name three of them. -/
theorem report_of_encodeText_escaped_name :
    let name := "wl\"\\0"
    let address : Address := ⟨10, 0, 0, 200⟩
    let server : Address := ⟨255, 255, 255, 255⟩
    let text := "776c225c300000000000000000000000" ++ "0a0000c8ffffffff00000000ffffffff00000000"
    encodeText name address 4294967295 none [server] = .ok text ∧ text.length = 72 ∧
      (∃ output, decodeText text = .ok output ∧
        Report.ofText? output = some
          { record := .configure name address 4294967295 none (some server) none
            teardown := false
            ipaddr := "10.0.0.200"
            gateway := "0.0.0.0"
            dns := ["255.255.255.255", "0.0.0.0"] }) ∧
      encodeText "" address 24 none [server, server, server] = .error (.tooManyServers 3) := by
  intro name address server text
  have hwritten : encodeText name address 4294967295 none [server] = .ok text := by
    subst name address server text
    decide +kernel
  obtain ⟨-, -, hreport⟩ := report_of_encodeText name address 4294967295 none [server]
  obtain ⟨hlength, -, output, hdecode, hsaid⟩ := hreport text hwritten
  obtain ⟨-, hmany, -⟩ := report_of_encodeText "" address 24 none [server, server, server]
  have hipaddr : toString address = "10.0.0.200" := by
    subst address
    decide +kernel
  have hserver : toString server = "255.255.255.255" := by
    subst server
    decide +kernel
  refine ⟨hwritten, hlength, ⟨output, hdecode, ?_⟩, hmany (by decide)⟩
  rw [← hipaddr, ← hserver]
  exact hsaid

/-- What a report says is enough to have its record written again: the addresses are read from
their dotted form, and what is written are the bytes that the reported text had, those after the
record left out and those after the name cleared. They are reported on with the same words. -/
theorem encodeText_of_report {text output : String} (hdecode : decodeText text = .ok output) :
    ∃ data report address gateway dns0 dns1,
      hexBytes text = .ok data ∧ Report.ofText? output = some report ∧
        Address.ofString? report.ipaddr = some address ∧
        Address.ofString? report.gateway = some gateway ∧
        report.dns.mapM Address.ofString? = some [dns0, dns1] ∧
        encodeText report.record.ifname address report.record.prefixLength (some gateway)
            [dns0, dns1] = .ok (Hex.encode (Record.canonical data)) ∧
        decodeText (Hex.encode (Record.canonical data)) = .ok output := by
  obtain ⟨data, record, hbytes, hrecord, rfl⟩ := decodeText_eq_ok_iff.mp hdecode
  obtain ⟨hlength, hnul, hname, hreading⟩ := Record.decode_eq_ok_iff.mp hrecord
  have hencode : record.encode = .ok (Record.canonical data) := by
    rw [hreading]
    exact Record.encode_reading hlength hnul hname
  have hwritten : recordText record = .ok (Hex.encode (Record.canonical data)) :=
    recordText_eq_ok_iff.mpr ⟨_, hencode, rfl⟩
  refine ⟨data, .ofRecord record, .ofWire record.ipaddr, .ofWire record.gateway,
    .ofWire record.dns0, .ofWire record.dns1, hbytes, Report.ofText?_prettyText record,
    Address.ofString?_toString _, Address.ofString?_toString _, ?_, ?_,
    decodeText_of_recordText hwritten⟩
  · simp only [Report.ofRecord, List.mapM_cons, List.mapM_nil, Address.ofString?_toString,
      Option.bind_eq_bind, Option.bind_some, Option.pure_def]
  · have hsame : Record.configure record.ifname (.ofWire record.ipaddr) record.prefixLength
        (some (.ofWire record.gateway)) (some (.ofWire record.dns0))
          (some (.ofWire record.dns1)) = record := by
      simp only [Record.configure, Option.elim_some, Address.toWire_ofWire]
    rw [← hwritten]
    exact congrArg recordText hsame

/-- Capital digits after a `0x`, bytes behind the name and behind the record, and a name that JSON
has to escape. -/
theorem encodeText_of_report_garbage :
    let text := "0x6122 00FFFFFFFFFFFFFFFFFFFFFFFFFF " ++
      "0A0000C8 FFFFFFFF FFFFFFFF 08080808 00000080 07"
    let again := "61220000000000000000000000000000" ++ "0a0000c8ffffffffffffffff0808080800000080"
    ∃ output report address gateway dns0 dns1,
      decodeText text = .ok output ∧ Report.ofText? output = some report ∧
        Address.ofString? report.ipaddr = some address ∧
        Address.ofString? report.gateway = some gateway ∧
        report.dns.mapM Address.ofString? = some [dns0, dns1] ∧
        encodeText report.record.ifname address report.record.prefixLength (some gateway)
            [dns0, dns1] = .ok again ∧
        decodeText again = .ok output := by
  intro text again
  let words : Bytes :=
    [10, 0, 0, 200, 255, 255, 255, 255, 255, 255, 255, 255, 8, 8, 8, 8, 0, 0, 0, 128]
  let held : Bytes := [97, 34, 0] ++ List.replicate 13 255 ++ words ++ [7]
  have hheld : hexBytes text = .ok held := by
    subst text held words
    decide +kernel
  have hrecord : Record.decode held = .ok (Record.reading held) := by
    subst held words
    decide +kernel
  have hagain : Hex.encode (Record.canonical held) = again := by
    subst held words again
    decide +kernel
  have hdecode := decodeText_eq_ok_iff.mpr ⟨held, Record.reading held, hheld, hrecord, rfl⟩
  obtain ⟨data, report, address, gateway, dns0, dns1, hbytes, hreport, hipaddr, hgateway, hdns,
    hencode, hsame⟩ := encodeText_of_report hdecode
  rw [hheld] at hbytes
  cases hbytes
  rw [hagain] at hencode hsame
  exact ⟨_, report, address, gateway, dns0, dns1, hdecode, hreport, hipaddr, hgateway, hdns,
    hencode, hsame⟩

end Command

end RadioAdapter
