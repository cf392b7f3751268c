import RadioAdapter.Bytes.Hex
import RadioAdapter.Config.Source
import RadioAdapter.Json.Printer
import RadioAdapter.Net.RecordForm

/-! # Reports

What the command prints: the hexadecimal form of a record, and, as JSON spread
over lines, what a record says and what a configuration launches.
-/

namespace RadioAdapter

/-- Whether a character is white space: the ASCII blanks, next line, the
no-break space, and the space and separator characters beyond Latin-1. -/
def Text.isBlank (c : Char) : Bool :=
  let code := c.toNat
  (9 ≤ code && code ≤ 13) || code == 0x20 || code == 0x85 || code == 0xA0 || code == 0x1680 ||
    (0x2000 ≤ code && code ≤ 0x200A) || code == 0x2028 || code == 0x2029 || code == 0x202F ||
    code == 0x205F || code == 0x3000

namespace Command

/-- Why a record cannot be written or shown. -/
inductive InputError where
  | tooManyServers (count : Nat)
  | record (error : Record.Error)
  | hex (error : Hex.Error)
deriving DecidableEq, Repr

def InputError.message : InputError → String
  | .tooManyServers count =>
      "at most two --dns servers fit in a record, got " ++ toString count
  | .record error => error.message
  | .hex error => error.message

/-! ## Writing records -/

/-- The hexadecimal form of a record. -/
def recordText (record : Record) : Except InputError String :=
  match record.encode with
  | .ok data => .ok (Hex.encode data)
  | .error error => .error (.record error)

/-- The hexadecimal form of the record that configures an interface. Too many name
servers are reported before a bad name. -/
def encodeText (ifname : String) (address : Address) (prefixLength : UInt32)
    (gateway : Option Address) (servers : List Address) : Except InputError String :=
  if 2 < servers.length then .error (.tooManyServers servers.length)
  else recordText (.configure ifname address prefixLength gateway servers[0]? servers[1]?)

/-- The hexadecimal form of the record that tears an interface down. -/
def teardownText (ifname : String) : Except InputError String := recordText (.teardown ifname)

/-! ## Showing records -/

/-- The text of a wire word's address. -/
def addressValue (wire : Int32) : Value := .text (toString (Address.ofWire wire))

/-- What a record says, with its addresses in dotted form. -/
def recordReport (record : Record) : Value :=
  .table
    [("addresses", .table
        [("dns", .array [addressValue record.dns0, addressValue record.dns1]),
          ("gateway", addressValue record.gateway),
          ("ipaddr", addressValue record.ipaddr)]),
      ("record", record.toValue),
      ("teardown", .bool record.isTeardown)]

/-- A text without its white space and without one leading `0x`. -/
def hexPart (text : String) : String :=
  match text.toList.filter (!Text.isBlank ·) with
  | '0' :: 'x' :: rest => String.ofList rest
  | rest => String.ofList rest

/-- The bytes that a text writes in hexadecimal. -/
def hexBytes (text : String) : Except Hex.Error Bytes := Hex.decode (Text.utf8 (hexPart text))

/-- The report on the record that a text writes in hexadecimal. -/
def decodeText (text : String) : Except InputError String :=
  match hexBytes text with
  | .error error => .error (.hex error)
  | .ok data =>
      match Record.decode data with
      | .error error => .error (.record error)
      | .ok record => .ok (Json.prettyText (recordReport record))

/-! ## Showing configurations -/

def configReport (config : BridgeConfig) : Value :=
  let launch := config.launchOptions
  .table
    [("env", launch.environment.toValue),
      ("hosted_class", .text config.hostedClass),
      ("ignore_unrecognized", .bool launch.ignoreUnrecognized),
      ("options", .array (launch.options.map .text))]

/-- The report on the configuration in a file. -/
def checkConfigText (file : FileContent) : Except FileError String :=
  (BridgeConfig.ofFile file).map fun config => Json.prettyText (configReport config)

end Command

end RadioAdapter
