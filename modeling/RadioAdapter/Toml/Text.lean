import RadioAdapter.Text.Digit
import RadioAdapter.Toml.Scan

/-! # Quoted texts

A basic text stands between double quotes and knows escapes; a literal text
stands between single quotes and does not. Both have a form over several lines,
between three quotes, in which a line end is a single line feed, a line end
right after the opening quotes is skipped, and up to two quotes may stand before
the closing ones.
-/

namespace RadioAdapter.Toml

/-- A character that may stand in a quoted text: everything but the control
characters, of which the tab is allowed. -/
def isTextChar (c : Char) : Bool := c == '\t' || (0x20 ≤ c.toNat && c.toNat != 0x7F)

/-- The number that hexadecimal digits write. -/
def hexNumber? (digits : List Char) : Option Nat :=
  digits.foldlM (fun number c => do return 16 * number + (← Text.hexValue? c)) 0

/-- The character with a code point that is no half of a surrogate pair. -/
def scalar? (code : Nat) : Option Char :=
  if h : code.isValidChar then some (Char.ofNatAux code h) else none

/-- The character of an escape of one letter. -/
def escaped? (c : Char) : Option Char :=
  if c = 'b' then some '\x08'
  else if c = 't' then some '\t'
  else if c = 'n' then some '\n'
  else if c = 'f' then some '\x0c'
  else if c = 'r' then some '\r'
  else if c = '"' ∨ c = '\\' then some c
  else none

/-- Put a character in front of what is read. -/
def push (c : Char) (read : Option (List Char × List Char)) : Option (List Char × List Char) :=
  read.map fun (text, rest) => (c :: text, rest)

/-! ## One line -/

/-- Read a basic text up to its closing quote. -/
def readBasic : Reader (List Char)
  | [] => none
  | '"' :: rest => some ([], rest)
  | '\\' :: 'u' :: a :: b :: c :: d :: rest => do
      push (← scalar? (← hexNumber? [a, b, c, d])) (readBasic rest)
  | '\\' :: 'U' :: a :: b :: c :: d :: e :: f :: g :: h :: rest => do
      push (← scalar? (← hexNumber? [a, b, c, d, e, f, g, h])) (readBasic rest)
  | '\\' :: c :: rest => do push (← escaped? c) (readBasic rest)
  | c :: rest => if isTextChar c && c != '\\' then push c (readBasic rest) else none

/-- Read a literal text up to its closing quote. -/
def readLiteral : Reader (List Char)
  | [] => none
  | '\'' :: rest => some ([], rest)
  | c :: rest => if isTextChar c then push c (readLiteral rest) else none

/-! ## Several lines -/

/-- The end of a text over several lines, if it is here: up to two quotes that still
belong to the text, with the three that close it. -/
def closingQuotes? (quote : Char) : List Char → Option (List Char × List Char)
  | a :: b :: c :: rest =>
      if a = quote ∧ b = quote ∧ c = quote then
        match rest with
        | d :: e :: after =>
            if d = quote ∧ e = quote then some ([quote, quote], after)
            else if d = quote then some ([quote], e :: after)
            else some ([], d :: e :: after)
        | [d] => if d = quote then some ([quote], []) else some ([], [d])
        | [] => some ([], [])
      else none
  | _ => none

/-- A text without the blanks and line ends that it starts with. -/
def skipBreaks : List Char → List Char
  | [] => []
  | '\r' :: '\n' :: rest => skipBreaks rest
  | c :: rest => if isBlank c || c == '\n' then skipBreaks rest else c :: rest

/-- What a line break that a backslash hides leaves of a text: all blanks and
line ends up to the next other character go with it. -/
def hiddenBreak? (text : List Char) : Option (List Char) :=
  (lineEnd? (skipBlanks text)).map skipBreaks

/-- Read a basic text over several lines up to its closing quotes. The fuel bounds
the number of characters. -/
def readBasicLines : Nat → Reader (List Char)
  | 0, _ => none
  | fuel + 1, text =>
      match closingQuotes? '"' text with
      | some closed => some closed
      | none =>
          match lineEnd? text with
          | some rest => push '\n' (readBasicLines fuel rest)
          | none =>
              match text with
              | [] => none
              | '\\' :: 'u' :: a :: b :: c :: d :: rest => do
                  push (← scalar? (← hexNumber? [a, b, c, d])) (readBasicLines fuel rest)
              | '\\' :: 'U' :: a :: b :: c :: d :: e :: f :: g :: h :: rest => do
                  push (← scalar? (← hexNumber? [a, b, c, d, e, f, g, h]))
                    (readBasicLines fuel rest)
              | '\\' :: rest =>
                  match hiddenBreak? rest with
                  | some rest => readBasicLines fuel rest
                  | none =>
                      match rest with
                      | c :: rest => do push (← escaped? c) (readBasicLines fuel rest)
                      | [] => none
              | c :: rest => if isTextChar c then push c (readBasicLines fuel rest) else none

/-- Read a literal text over several lines up to its closing quotes. The fuel
bounds the number of characters. -/
def readLiteralLines : Nat → Reader (List Char)
  | 0, _ => none
  | fuel + 1, text =>
      match closingQuotes? '\'' text with
      | some closed => some closed
      | none =>
          match lineEnd? text with
          | some rest => push '\n' (readLiteralLines fuel rest)
          | none =>
              match text with
              | [] => none
              | c :: rest => if isTextChar c then push c (readLiteralLines fuel rest) else none

/-- A text without the line end that it starts with, if it does. -/
def skipFirstBreak (text : List Char) : List Char := (lineEnd? text).getD text

/-! ## All forms -/

def readQuotedLine : Reader (List Char)
  | '"' :: rest => readBasic rest
  | '\'' :: rest => readLiteral rest
  | _ => none

def readQuoted : Reader (List Char)
  | '"' :: '"' :: '"' :: rest => readBasicLines (rest.length + 1) (skipFirstBreak rest)
  | '\'' :: '\'' :: '\'' :: rest => readLiteralLines (rest.length + 1) (skipFirstBreak rest)
  | text => readQuotedLine text

end RadioAdapter.Toml
