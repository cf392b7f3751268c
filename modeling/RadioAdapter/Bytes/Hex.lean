import RadioAdapter.Bytes.Word
import RadioAdapter.Text.Digit
import RadioAdapter.Text.Quoted

/-! # Hexadecimal text

Bytes are written as two lower-case digits each. Reading takes either case and
works on the bytes of the text, so that a position counts bytes and a refused
byte can be named whatever character it belongs to.
-/

namespace RadioAdapter.Hex

/-- The digits of a byte string, two for each byte, high half first. -/
def digits : Bytes → List Char
  | [] => []
  | byte :: rest =>
      Nat.digitChar (byte.toNat / 16) :: Nat.digitChar (byte.toNat % 16) :: digits rest

def encode (data : Bytes) : String := String.ofList (digits data)

/-- The value of a digit, given as the byte of its character. -/
def value? (byte : UInt8) : Option Nat := Text.hexValue? (Char.ofNat byte.toNat)

/-- Why a text is no hexadecimal text. -/
inductive Error where
  | oddLength
  | invalidByte (byte : UInt8) (position : Nat)
deriving DecidableEq, Repr

/-- The text of an error. A refused byte is shown as the character of its value. -/
def Error.message : Error → String
  | .oddLength => "Odd number of digits"
  | .invalidByte byte position =>
      "Invalid character " ++ Text.quoteChar (Char.ofNat byte.toNat) ++
        " at position " ++ toString position

/-- Read digits pair by pair; `position` is that of the first byte given. -/
def decodePairs (position : Nat) : Bytes → Except Error Bytes
  | high :: low :: rest =>
      match value? high, value? low with
      | some h, some l => (decodePairs (position + 2) rest).map (UInt8.ofNat (16 * h + l) :: ·)
      | none, _ => .error (.invalidByte high position)
      | some _, none => .error (.invalidByte low (position + 1))
  | _ => .ok []

/-- Read the bytes of a hexadecimal text. An odd length is reported first. -/
def decode (text : Bytes) : Except Error Bytes :=
  if text.length % 2 = 1 then .error .oddLength else decodePairs 0 text

@[simp] theorem length_digits (data : Bytes) : (digits data).length = 2 * data.length := by
  induction data with
  | nil => rfl
  | cons byte rest ih => simp only [digits, List.length_cons, ih]; omega

end RadioAdapter.Hex
