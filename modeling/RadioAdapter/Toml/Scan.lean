/-! # Blanks, line ends and comments

A line ends with a line feed, which a carriage return may precede; a carriage
return stands nowhere else. Within a line, spaces and tabs are blanks. A comment
runs from a number sign to the end of its line and holds no control characters
but tabs.
-/

namespace RadioAdapter.Toml

/-- A reader takes a part off the front of a text, or fails. -/
abbrev Reader (α : Type) := List Char → Option (α × List Char)

def isBlank (c : Char) : Bool := c == ' ' || c == '\t'

/-- A text without the blanks that it starts with. -/
def skipBlanks (text : List Char) : List Char := text.dropWhile isBlank

/-- The rest of a text after the line end that it starts with. -/
def lineEnd? : List Char → Option (List Char)
  | '\n' :: rest => some rest
  | '\r' :: '\n' :: rest => some rest
  | _ => none

/-- A character that a comment may hold. -/
def isCommentChar (c : Char) : Bool := c == '\t' || (0x20 ≤ c.toNat && c.toNat != 0x7F)

/-- A text without the comment that it starts with, if it does. -/
def skipComment : List Char → List Char
  | '#' :: rest => rest.dropWhile isCommentChar
  | text => text

/-- The rest of a text after the end of a line: blanks, a comment, and a line end
unless the text ends. -/
def endOfLine? (text : List Char) : Option (List Char) :=
  match skipComment (skipBlanks text) with
  | [] => some []
  | rest => lineEnd? rest

/-- A text without the blanks, comments and line ends that it starts with. A
comment counts only together with its line end. The fuel bounds the number of
lines. -/
def skipLines : Nat → List Char → List Char
  | 0, text => text
  | fuel + 1, text =>
      let text := skipBlanks text
      match lineEnd? (skipComment text) with
      | some rest => skipLines fuel rest
      | none => text

/-- A text without the blanks, comments and line ends that it starts with. -/
def skipGap (text : List Char) : List Char := skipLines text.length text

end RadioAdapter.Toml
