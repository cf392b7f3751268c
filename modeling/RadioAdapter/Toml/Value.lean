import RadioAdapter.Toml.Number
import RadioAdapter.Toml.Text
import RadioAdapter.Toml.Time
import RadioAdapter.Toml.Tree

/-! # Keys and values

A key is one or more parts with dots between them; each part is bare or quoted
on one line. A value is a text, a number, a date-time, a truth value, an array
or a table between braces. Arrays may run over lines; tables between braces may
not.
-/

namespace RadioAdapter.Toml

/-! ## Keys -/

/-- The greatest depth of nested arrays and tables, and of parts of a key. -/
def depthLimit : Nat := 79

/-- A character of a bare key. -/
def isBareChar (c : Char) : Bool :=
  c.isDigit || ('a' ≤ c && c ≤ 'z') || ('A' ≤ c && c ≤ 'Z') || c == '-' || c == '_'

/-- Read one part of a key. -/
def readPart : Reader String := fun text =>
  match readQuotedLine text with
  | some (characters, rest) => some (String.ofList characters, rest)
  | none =>
      let (bare, rest) := text.span isBareChar
      if bare.isEmpty then none else some (String.ofList bare, rest)

/-- Read at most this many parts of a key with dots between them: the parts before
the last, and the last. -/
def readParts : Nat → Reader (List String × String)
  | 0, _ => none
  | count + 1, text => do
      let (part, rest) ← readPart (skipBlanks text)
      match skipBlanks rest with
      | '.' :: rest =>
          let ((path, key), rest) ← readParts count rest
          return ((part :: path, key), rest)
      | rest => return (([], part), rest)

def readKey : Reader (List String × String) := readParts depthLimit

/-! ## Values -/

/-- Read a value that is neither an array nor a table. -/
def readScalar : Reader Value
  | [] => none
  | c :: rest =>
      if c = '"' ∨ c = '\'' then do
        let (characters, rest) ← readQuoted (c :: rest)
        return (.text (String.ofList characters), rest)
      else
        match c :: rest with
        | 't' :: 'r' :: 'u' :: 'e' :: rest => some (.bool true, rest)
        | 'f' :: 'a' :: 'l' :: 's' :: 'e' :: rest => some (.bool false, rest)
        | text =>
            match readDateTime text with
            | some (value, rest) => some (.dateTime value, rest)
            | none => readNumber text

/-- Read the items of an array up to its closing bracket. A comma may follow the
last item. The fuel bounds the number of items. -/
def readItems (item : Reader Value) : Nat → Reader (List Value)
  | 0, _ => none
  | fuel + 1, text =>
      match skipGap text with
      | ']' :: rest => some ([], rest)
      | text => do
          let (value, rest) ← item text
          match skipGap rest with
          | ',' :: rest =>
              let (values, rest) ← readItems item fuel rest
              return (value :: values, rest)
          | ']' :: rest => return ([value], rest)
          | _ => none

/-- Read a key, an equals sign and a value. -/
def readPair (item : Reader Value) : Reader ((List String × String) × Value) := fun text => do
  let (key, rest) ← readKey text
  match rest with
  | '=' :: rest =>
      let (value, rest) ← item (skipBlanks rest)
      return ((key, value), rest)
  | _ => none

/-- Read the pairs of a table up to its closing brace, at least one. No comma
follows the last pair. The fuel bounds the number of pairs. -/
def readPairs (item : Reader Value) : Nat → Entries → Reader Entries
  | 0, _, _ => none
  | fuel + 1, entries, text => do
      let (((path, key), value), rest) ← readPair item text
      let entries ← (entries.assign path key value .defined).toOption
      match skipBlanks rest with
      | ',' :: rest => readPairs item fuel entries rest
      | '\x7d' :: rest => return (entries, rest)
      | _ => none

/-- Read a value in which arrays and tables nest at most to the given depth. -/
def readNested : Nat → Reader Value
  | 0, text => readScalar text
  | depth + 1, text =>
      match text with
      | '[' :: rest => do
          let (items, rest) ← readItems (readNested depth) (rest.length + 1) rest
          return (.array items, rest)
      | '\x7b' :: rest =>
          match skipBlanks rest with
          | '\x7d' :: rest => some (.table [], rest)
          | _ => do
              let (entries, rest) ← readPairs (readNested depth) rest.length [] rest
              return (.table (entriesValues entries), rest)
      | text => readScalar text

def readValue : Reader Value := readNested depthLimit

end RadioAdapter.Toml
