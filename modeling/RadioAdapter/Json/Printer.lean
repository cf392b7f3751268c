import RadioAdapter.Data.Value

/-! # Writing JSON

A value is written on one line without blanks, or spread over lines with two
spaces for each level. Quotes, backslashes and control characters are escaped;
everything else stands for itself. The few values that JSON does not know are
written as the nearest that it does.
-/

namespace RadioAdapter.Json

/-- How a character stands between quotes. -/
def escapeChar (c : Char) : List Char :=
  if c = '"' then ['\\', '"']
  else if c = '\\' then ['\\', '\\']
  else if c.toNat < 0x20 then
    if c.toNat = 8 then ['\\', 'b']
    else if c.toNat = 9 then ['\\', 't']
    else if c.toNat = 10 then ['\\', 'n']
    else if c.toNat = 12 then ['\\', 'f']
    else if c.toNat = 13 then ['\\', 'r']
    else ['\\', 'u', '0', '0', Nat.digitChar (c.toNat / 16), Nat.digitChar (c.toNat % 16)]
  else [c]

def quote (text : String) : List Char := '"' :: (text.toList.flatMap escapeChar ++ ['"'])

def integerText (value : Int) : List Char :=
  if value < 0 then '-' :: Nat.toDigits 10 value.natAbs else Nat.toDigits 10 value.natAbs

mutual

def compact : Value → List Char
  | .null => "null".toList
  | .bool true => "true".toList
  | .bool false => "false".toList
  | .integer value => integerText value
  | .float literal => literal.toList
  | .text value => quote value
  | .dateTime value => quote value.text
  | .unreadable => "null".toList
  | .array items => '[' :: (compactItems items ++ [']'])
  | .table entries => '\x7b' :: (compactEntries entries ++ ['\x7d'])

/-- Items on one line, with commas between them. -/
def compactItems : List Value → List Char
  | [] => []
  | [item] => compact item
  | item :: next :: rest => compact item ++ ',' :: compactItems (next :: rest)

/-- Entries on one line, with commas between them. -/
def compactEntries : List (String × Value) → List Char
  | [] => []
  | [(key, value)] => quote key ++ ':' :: compact value
  | (key, value) :: next :: rest =>
      quote key ++ ':' :: (compact value ++ ',' :: compactEntries (next :: rest))

end

/-- The start of a line at a level. -/
def newline (level : Nat) : List Char := '\n' :: List.replicate (2 * level) ' '

mutual

/-- A value spread over lines; `level` is that of the line it starts on. -/
def pretty (level : Nat) : Value → List Char
  | .array [] => ['[', ']']
  | .array (item :: rest) =>
      '[' :: (prettyItems (level + 1) (item :: rest) ++ newline level ++ [']'])
  | .table [] => ['\x7b', '\x7d']
  | .table (entry :: rest) =>
      '\x7b' :: (prettyEntries (level + 1) (entry :: rest) ++ newline level ++ ['\x7d'])
  | value => compact value

/-- Items on lines of their own, with commas between them. -/
def prettyItems (level : Nat) : List Value → List Char
  | [] => []
  | [item] => newline level ++ pretty level item
  | item :: next :: rest =>
      newline level ++ pretty level item ++ ',' :: prettyItems level (next :: rest)

/-- Entries on lines of their own, with commas between them. -/
def prettyEntries (level : Nat) : List (String × Value) → List Char
  | [] => []
  | [(key, value)] => newline level ++ quote key ++ ':' :: ' ' :: pretty level value
  | (key, value) :: next :: rest =>
      newline level ++ quote key ++ ':' :: ' ' :: (pretty level value ++
        ',' :: prettyEntries level (next :: rest))

end

def compactText (value : Value) : String := String.ofList (compact value)

def prettyText (value : Value) : String := String.ofList (pretty 0 value)

end RadioAdapter.Json
