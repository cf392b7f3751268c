import RadioAdapter.Toml.Value

/-! # Documents

A document is a sequence of lines: assignments, headers of tables and of tables
in arrays, comments and empty lines. An assignment goes to the table of the
header before it, and to the document itself where there is none.
-/

namespace RadioAdapter.Toml

/-- Why a text is no document. -/
inductive Error where
  /-- The line with this number is not written correctly. -/
  | malformed (line : Nat)
  /-- A line of the document contradicts an earlier one. -/
  | conflict (error : TreeError)
deriving DecidableEq, Repr

def Error.message : Error → String
  | .malformed line => "invalid syntax at line " ++ toString line
  | .conflict error => error.message

/-- What one line says. -/
inductive Statement where
  | assign (path : List String) (key : String) (value : Value)
  | header (path : List String) (key : String)
  | itemHeader (path : List String) (key : String)

/-- A document while it is read, with the path of the table that is open. -/
structure Draft where
  entries : Entries := []
  current : List String := []

/-- Take a line into a document. -/
def Draft.add (draft : Draft) : Statement → Except TreeError Draft
  | .assign path key value => do
      let entries ← draft.entries.descend false (Entries.assign path key value) draft.current
        .defined
      return { draft with entries }
  | .header path key => do
      return { entries := ← draft.entries.openTable path key, current := path ++ [key] }
  | .itemHeader path key => do
      return { entries := ← draft.entries.openItem path key, current := path ++ [key] }

/-- Read one line that says something. -/
def readStatement : Reader Statement
  | '[' :: '[' :: rest => do
      let ((path, key), rest) ← readKey rest
      match rest with
      | ']' :: ']' :: rest => return (.itemHeader path key, ← endOfLine? rest)
      | _ => none
  | '[' :: rest => do
      let ((path, key), rest) ← readKey rest
      match rest with
      | ']' :: rest => return (.header path key, ← endOfLine? rest)
      | _ => none
  | text => do
      let (((path, key), value), rest) ← readPair readValue text
      return (.assign path key value, ← endOfLine? rest)

/-- The number of lines that a text starts. -/
def lineCount (text : List Char) : Nat := text.count '\n'

/-- Read the lines of a text into a document. The fuel bounds the number of lines. -/
def readLines (whole : List Char) : Nat → Draft → List Char → Except Error Draft
  | 0, draft, _ => .ok draft
  | fuel + 1, draft, text =>
      let malformed := Error.malformed (lineCount whole - lineCount text + 1)
      match skipBlanks text with
      | [] => .ok draft
      | c :: rest =>
          if c = '#' ∨ c = '\n' ∨ c = '\r' then
            match endOfLine? (c :: rest) with
            | none => .error malformed
            | some rest => readLines whole fuel draft rest
          else
            match readStatement (c :: rest) with
            | none => .error malformed
            | some (statement, rest) =>
                match draft.add statement with
                | .error error => .error (.conflict error)
                | .ok draft => readLines whole fuel draft rest

/-- A text without the byte order mark that it may start with. -/
def skipMark : List Char → List Char
  | '\ufeff' :: rest => rest
  | text => text

/-- Read a document as the entries of its top table. -/
def read (text : String) : Except Error (List (String × Value)) := do
  let whole := skipMark text.toList
  let draft ← readLines whole (whole.length + 1) {} whole
  return entriesValues draft.entries

end RadioAdapter.Toml
