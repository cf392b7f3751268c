import RadioAdapter.Data.Value
import RadioAdapter.Text.Digit
import RadioAdapter.Toml.Scan

/-! # Numbers

Integers are decimal, hexadecimal, octal or binary and fit 64 bits with a sign.
A single underscore may stand between two digits. A number with a fraction or a
power of ten is kept by its digits; one that is too great for a binary
floating-point number of 64 bits is refused.
-/

namespace RadioAdapter.Toml

/-! ## Digits -/

/-- Read further digits, each with or without an underscore before it. -/
def moreDigits (isDigit : Char → Bool) : List Char → List Char × List Char
  | [] => ([], [])
  | '_' :: c :: rest =>
      if isDigit c then
        let (digits, rest) := moreDigits isDigit rest
        (c :: digits, rest)
      else ([], '_' :: c :: rest)
  | c :: rest =>
      if isDigit c then
        let (digits, rest) := moreDigits isDigit rest
        (c :: digits, rest)
      else ([], c :: rest)

def readDigits (isDigit : Char → Bool) : Reader (List Char)
  | [] => none
  | c :: rest =>
      if isDigit c then
        let (digits, rest) := moreDigits isDigit rest
        some (c :: digits, rest)
      else none

/-- Read the digits of a whole number: a zero leads only where it stands alone. -/
def readWhole : Reader (List Char)
  | '0' :: rest => some (['0'], rest)
  | text => readDigits Char.isDigit text

/-- Read a sign, if there is one: whether the number is negative, and the sign. -/
def readSign : List Char → (Bool × List Char) × List Char
  | '-' :: rest => ((true, ['-']), rest)
  | '+' :: rest => ((false, ['+']), rest)
  | text => ((false, []), text)

/-! ## Integers -/

def isHexDigit (c : Char) : Bool := (Text.hexValue? c).isSome

def isOctalDigit (c : Char) : Bool := '0' ≤ c && c ≤ '7'

def isBinaryDigit (c : Char) : Bool := c == '0' || c == '1'

/-- The number that digits write in a base up to sixteen. -/
def numberOf (base : Nat) (digits : List Char) : Nat :=
  digits.foldl (fun number c => base * number + (Text.hexValue? c).getD 0) 0

/-- An integer, if it fits 64 bits with a sign. -/
def integer? (value : Int) : Option Value :=
  if -9223372036854775808 ≤ value ∧ value ≤ 9223372036854775807 then some (.integer value) else none

/-- Read an integer without a sign in a base that is marked before it. -/
def readInBase (base : Nat) (isDigit : Char → Bool) : Reader Value := fun text => do
  let (digits, rest) ← readDigits isDigit text
  return (← integer? (numberOf base digits), rest)

def readDecimal : Reader Value := fun text => do
  let ((negative, _), text) := readSign text
  let (digits, rest) ← readWhole text
  let magnitude := numberOf 10 digits
  return (← integer? (if negative then -(magnitude : Int) else magnitude), rest)

def readInteger : Reader Value
  | '0' :: 'x' :: rest => readInBase 16 isHexDigit rest
  | '0' :: 'o' :: rest => readInBase 8 isOctalDigit rest
  | '0' :: 'b' :: rest => readInBase 2 isBinaryDigit rest
  | text => readDecimal text

/-! ## Fractions and powers of ten -/

/-- A power of ten after a mark: its sign and digits. -/
def readExponent : Reader (Bool × List Char)
  | c :: rest =>
      if c = 'e' ∨ c = 'E' then do
        let ((negative, _), rest) := readSign rest
        let (digits, rest) ← readDigits Char.isDigit rest
        return ((negative, digits), rest)
      else none
  | [] => none

def readFraction : Reader (List Char)
  | '.' :: rest => readDigits Char.isDigit rest
  | _ => none

/-- The least whole number that is too great to round to a floating-point number
of 64 bits: it lies half a step above the greatest. -/
def overflowBound : Nat := Nat.pow 2 1024 - Nat.pow 2 970

/-- Whether the number `digits · 10 ^ exponent` is too great. Numbers far from the
bound are told by their count of digits alone. -/
def overflows (digits : List Char) (exponent : Int) : Bool :=
  let mantissa := numberOf 10 digits
  let scale : Int := (Nat.toDigits 10 mantissa).length + exponent
  if mantissa = 0 then false
  else if scale > 400 then true
  else if scale < 300 then false
  else if exponent < 0 then overflowBound * Nat.pow 10 exponent.natAbs ≤ mantissa
  else overflowBound ≤ mantissa * Nat.pow 10 exponent.natAbs

/-- Read a number with a fraction, a power of ten, or both. -/
def readScaled : Reader Value := fun text => do
  let ((negative, sign), text) := readSign text
  let (whole, text) ← readWhole text
  let (fraction, text) := (readFraction text).getD ([], text)
  let power := readExponent text
  if fraction.isEmpty && power.isNone then none
  else
    let ((down, digits), text) := power.getD ((false, []), text)
    let exponent : Int := numberOf 10 digits
    let shift := (if down then -exponent else exponent) - fraction.length
    if !negative && overflows (whole ++ fraction) shift then none
    else
      let point := if fraction.isEmpty then [] else '.' :: fraction
      let mark := if digits.isEmpty then [] else 'e' :: (if down then ['-'] else []) ++ digits
      return (.float (String.ofList (sign ++ whole ++ point ++ mark)), text)

/-- Read an infinite number, or one that is none. -/
def readSpecial : Reader Value := fun text =>
  let ((_, sign), text) := readSign text
  match text with
  | 'i' :: 'n' :: 'f' :: rest => some (.float (String.ofList (sign ++ ['i', 'n', 'f'])), rest)
  | 'n' :: 'a' :: 'n' :: rest => some (.float (String.ofList (sign ++ ['n', 'a', 'n'])), rest)
  | _ => none

def readNumber : Reader Value := fun text =>
  readScaled text <|> readSpecial text <|> readInteger text

end RadioAdapter.Toml
