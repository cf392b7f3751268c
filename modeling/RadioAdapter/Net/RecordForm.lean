import RadioAdapter.Data.Value
import RadioAdapter.Net.Record

/-! # Records as documents

The document form of an interface record: a table with one field for each of
the record's words, the two name servers in one array.
-/

namespace RadioAdapter.Record

/-- The names of the fields, in order. -/
def fieldNames : List String := ["ifname", "ipaddr", "prefix_length", "gateway", "dns"]

def servers? : Value → Option (Int32 × Int32)
  | .array [first, second] => do return (← first.int32?, ← second.int32?)
  | _ => none

/-- The document form of a record, with ascending keys. -/
def toValue (record : Record) : Value :=
  .table
    [("dns", .array [.integer record.dns0.toInt, .integer record.dns1.toInt]),
      ("gateway", .integer record.gateway.toInt),
      ("ifname", .text record.ifname),
      ("ipaddr", .integer record.ipaddr.toInt),
      ("prefix_length", .integer record.prefixLength.toNat)]

/-- Read a record from its document form. All fields must be there. -/
def ofValue (value : Value) : Except FieldError Record := do
  let entries ← value.fields fieldNames
  let ifname ← Value.field entries "ifname" Value.text?
  let ipaddr ← Value.field entries "ipaddr" Value.int32?
  let prefixLength ← Value.field entries "prefix_length" Value.uint32?
  let gateway ← Value.field entries "gateway" Value.int32?
  let (dns0, dns1) ← Value.field entries "dns" servers?
  return { ifname, ipaddr, prefixLength, gateway, dns0, dns1 }

end RadioAdapter.Record
