import RadioAdapter.Data.Value
import RadioAdapter.Text.Digit

/-! # Reading JSON

A text is read as one value with blanks around it. An integer literal is read as
an integer, except for minus zero, which only a fractional number has. Half a
surrogate pair in a text is no mistake of writing, but the text that has it is
unreadable.
-/

namespace RadioAdapter.Json

def isBlank (c : Char) : Bool := c == ' ' || c == '\t' || c == '\n' || c == '\r'

/-- A text without the blanks that it starts with. -/
def skipBlanks (text : List Char) : List Char := text.dropWhile isBlank

/-! ## Texts -/

/-- The number that four hexadecimal digits write. -/
def unit? (a b c d : Char) : Option Nat := do
  return 4096 * (← Text.hexValue? a) + 256 * (← Text.hexValue? b) +
    16 * (← Text.hexValue? c) + (← Text.hexValue? d)

/-- Whether a code unit is the first half of a surrogate pair. -/
def isLeading (unit : Nat) : Bool := 0xD800 ≤ unit && unit ≤ 0xDBFF

/-- Whether a code unit is the second half of a surrogate pair. -/
def isTrailing (unit : Nat) : Bool := 0xDC00 ≤ unit && unit ≤ 0xDFFF

/-- The character of a surrogate pair. -/
def pairChar (leading trailing : Nat) : Char :=
  Char.ofNat (0x10000 + 1024 * (leading - 0xD800) + (trailing - 0xDC00))

/-- The character of an escape of one letter. -/
def escaped? (c : Char) : Option Char :=
  if c = '"' ∨ c = '\\' ∨ c = '/' then some c
  else if c = 'b' then some '\x08'
  else if c = 'f' then some '\x0c'
  else if c = 'n' then some '\n'
  else if c = 'r' then some '\r'
  else if c = 't' then some '\t'
  else none

/-- Read a text up to its closing quote, as the numbers of its characters and of
the code units that it names by escapes. -/
def readUnits : List Char → Option (List Nat × List Char)
  | [] => none
  | '"' :: rest => some ([], rest)
  | '\\' :: 'u' :: a :: b :: c :: d :: rest => do
      let unit ← unit? a b c d
      let (units, rest) ← readUnits rest
      return (unit :: units, rest)
  | '\\' :: c :: rest => do
      let character ← escaped? c
      let (units, rest) ← readUnits rest
      return (character.toNat :: units, rest)
  | c :: rest =>
      if c.toNat < 0x20 ∨ c = '\\' then none
      else do
        let (units, rest) ← readUnits rest
        return (c.toNat :: units, rest)

/-- The characters of a list of numbers, if every half of a surrogate pair stands
with its other half. -/
def joinUnits : List Nat → Option (List Char)
  | [] => some []
  | unit :: rest =>
      if isLeading unit then
        match rest with
        | [] => none
        | next :: rest =>
            if isTrailing next then (joinUnits rest).map (pairChar unit next :: ·) else none
      else if isTrailing unit then none
      else (joinUnits rest).map (Char.ofNat unit :: ·)

/-- Read a text up to its closing quote: its characters, or nothing if it is
unreadable, and the rest. -/
def readQuoted (text : List Char) : Option (Option (List Char) × List Char) := do
  let (units, rest) ← readUnits text
  return (joinUnits units, rest)

/-! ## Numbers -/

/-- The digits that a text starts with, and the rest. -/
def spanDigits (text : List Char) : List Char × List Char := text.span Char.isDigit

def readDigits (text : List Char) : Option (List Char × List Char) :=
  let (digits, rest) := spanDigits text
  if digits.isEmpty then none else some (digits, rest)

/-- Read the whole part of a number: no zero may lead. -/
def readWhole : List Char → Option (List Char × List Char)
  | '0' :: rest => some (['0'], rest)
  | text => readDigits text

/-- Read a fraction, if there is one. -/
def readFraction : List Char → Option (List Char × List Char)
  | '.' :: rest => do
      let (digits, rest) ← readDigits rest
      return ('.' :: digits, rest)
  | text => some ([], text)

/-- Read a power of ten, if there is one. -/
def readExponent : List Char → Option (List Char × List Char)
  | e :: rest =>
      if e = 'e' ∨ e = 'E' then
        match rest with
        | sign :: after =>
            if sign = '+' ∨ sign = '-' then do
              let (digits, rest) ← readDigits after
              return (e :: sign :: digits, rest)
            else do
              let (digits, rest) ← readDigits rest
              return (e :: digits, rest)
        | [] => none
      else some ([], e :: rest)
  | [] => some ([], [])

/-- The number of a sign, a whole part, a fraction and a power of ten. -/
def numberValue (negative : Bool) (whole fraction exponent : List Char) : Value :=
  let magnitude := Nat.ofDigitChars 10 whole 0
  if fraction.isEmpty && exponent.isEmpty && !(negative && magnitude == 0) then
    .integer (if negative then -(magnitude : Int) else magnitude)
  else .float (String.ofList ((if negative then ['-'] else []) ++ whole ++ fraction ++ exponent))

def readNumber (text : List Char) : Option (Value × List Char) := do
  let (negative, text) := match text with
    | '-' :: rest => (true, rest)
    | _ => (false, text)
  let (whole, text) ← readWhole text
  let (fraction, text) ← readFraction text
  let (exponent, text) ← readExponent text
  return (numberValue negative whole fraction exponent, text)

/-! ## Values -/

/-- A text, if it is readable. -/
def textValue (characters : Option (List Char)) : Value :=
  characters.elim .unreadable fun characters => .text (String.ofList characters)

/-- Put an entry in front of a table's entries. A key that is unreadable makes
the table unreadable. -/
def pushEntry (key : Option (List Char)) (value : Value)
    (entries : Option (List (String × Value))) : Option (List (String × Value)) := do
  return (String.ofList (← key), value) :: (← entries)

mutual

/-- Read a value. The fuel bounds the nesting of readers. -/
def readValue : Nat → List Char → Option (Value × List Char)
  | 0, _ => none
  | fuel + 1, text =>
      match skipBlanks text with
      | 'n' :: 'u' :: 'l' :: 'l' :: rest => some (.null, rest)
      | 't' :: 'r' :: 'u' :: 'e' :: rest => some (.bool true, rest)
      | 'f' :: 'a' :: 'l' :: 's' :: 'e' :: rest => some (.bool false, rest)
      | '"' :: rest => do
          let (characters, rest) ← readQuoted rest
          return (textValue characters, rest)
      | '[' :: rest =>
          match skipBlanks rest with
          | ']' :: rest => some (.array [], rest)
          | _ => do
              let (items, rest) ← readItems fuel rest
              return (.array items, rest)
      | '\x7b' :: rest =>
          match skipBlanks rest with
          | '\x7d' :: rest => some (.table [], rest)
          | _ => do
              let (entries, rest) ← readEntries fuel rest
              return (entries.elim .unreadable .table, rest)
      | text => readNumber text

/-- Read the items of an array, at least one, up to its closing bracket. -/
def readItems : Nat → List Char → Option (List Value × List Char)
  | 0, _ => none
  | fuel + 1, text => do
      let (item, rest) ← readValue fuel text
      match skipBlanks rest with
      | ']' :: rest => return ([item], rest)
      | ',' :: rest =>
          let (items, rest) ← readItems fuel rest
          return (item :: items, rest)
      | _ => none

/-- Read the entries of a table, at least one, up to its closing brace. -/
def readEntries : Nat → List Char → Option (Option (List (String × Value)) × List Char)
  | 0, _ => none
  | fuel + 1, text =>
      match skipBlanks text with
      | '"' :: rest => do
          let (key, rest) ← readQuoted rest
          match skipBlanks rest with
          | ':' :: rest =>
              let (value, rest) ← readValue fuel rest
              match skipBlanks rest with
              | '\x7d' :: rest => return (pushEntry key value (some []), rest)
              | ',' :: rest =>
                  let (entries, rest) ← readEntries fuel rest
                  return (pushEntry key value entries, rest)
              | _ => none
          | _ => none
      | _ => none

end

/-- Read a whole text as one value. Each reader that another one calls is either
behind a character that was consumed or the first to look at what is left, so
twice the length is fuel enough. -/
def read (text : List Char) : Option Value := do
  let (value, rest) ← readValue (2 * text.length + 2) text
  if (skipBlanks rest).isEmpty then return value else none

end RadioAdapter.Json
