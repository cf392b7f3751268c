import RadioAdapter.Bytes.Word
import RadioAdapter.Text.Quoted

/-! # Requests

The host names a request by a code and identifies it by a token, which the
adapter only compares and echoes. A request carries as many bytes of the host's
buffer as both the buffer and the length declared with it allow.
-/

namespace RadioAdapter

/-- The interface version that every dispatch table advertises. -/
def interfaceVersion : Nat := 9

/-! ## Codes and tokens -/

/-- The code of a kind of request. -/
structure RequestCode where
  raw : Int32
deriving DecidableEq, Repr

namespace RequestCode

/-- The vendor hook, whose payload is opaque to the radio interface. -/
def oemHookRaw : RequestCode := ⟨59⟩

def description (code : RequestCode) : String :=
  if code = oemHookRaw then "OEM_HOOK_RAW" else "request " ++ toString code.raw.toInt

end RequestCode

/-- The host's name for one request in flight. -/
structure Token where
  bits : UInt64
deriving DecidableEq, Repr

/-- A token for a reader, in hexadecimal. -/
def Token.description (token : Token) : String :=
  "Token(0x" ++ String.ofList (Text.hexNumber token.bits.toNat) ++ ")"

/-! ## Requests -/

/-- A request with its own copy of the payload. -/
structure Request where
  code : RequestCode
  data : Bytes
  token : Token
deriving DecidableEq, Repr

/-- The request that the host makes with a buffer and a declared length: its
payload ends where the shorter of the two does. -/
def Request.ofBuffer (code : RequestCode) (buffer : Bytes) (declared : Nat) (token : Token) :
    Request :=
  { code, token, data := buffer.take declared }

end RadioAdapter
