import RadioAdapter.Data.Value

/-! # Trees of tables

While a document is read, its tables remember how they came about, because that
decides what may still be added to them. A table with a header of its own can be
defined once; a table that a longer header only passed through can still get its
header; a table that dotted keys made can only be extended by dotted keys or
passed through. Of the tables in an array, the last one is the one that is open.
-/

namespace RadioAdapter.Toml

/-- How a table came about. -/
inductive TableKind where
  /-- By a header of its own, between braces, or as the document itself. -/
  | defined
  /-- On the way to the table of a longer header. -/
  | implied
  /-- On the way to the value of a dotted key. -/
  | dotted
deriving DecidableEq, Repr

/-- What stands under a key while a document is read. -/
inductive Node where
  | value (value : Value)
  | table (kind : TableKind) (entries : List (String × Node))
  | tables (items : List (List (String × Node)))

/-- The entries of a table while a document is read. -/
abbrev Entries := List (String × Node)

/-- Why a key cannot be added. -/
inductive TreeError where
  /-- The key is there already, or its table may not be extended in this way. -/
  | duplicateKey (key : String)
  /-- The key stands for something that is no table. -/
  | notATable (key : String)
deriving DecidableEq, Repr

def TreeError.message : TreeError → String
  | .duplicateKey key => "duplicate key " ++ key
  | .notATable key => "key " ++ key ++ " is not a table"

namespace Entries

/-- Put something under a key, in place of what is there. -/
def place (key : String) (node : Node) : Entries → Entries
  | [] => [(key, node)]
  | (other, old) :: rest =>
      if other = key then (key, node) :: rest else (other, old) :: place key node rest

/-- Change the table at the end of a path and make what is missing of the way.
`dotted` tells whether the path is that of a dotted key. -/
def descend (dotted : Bool) (change : TableKind → Entries → Except TreeError Entries) :
    List String → TableKind → Entries → Except TreeError Entries
  | [], kind, entries => change kind entries
  | key :: path, _, entries =>
      match entries.lookup key with
      | none => do
          let fresh := if dotted then TableKind.dotted else .implied
          return place key (.table fresh (← descend dotted change path fresh [])) entries
      | some (.value _) => .error (.notATable key)
      | some (.tables []) => .error (.notATable key)
      | some (.tables (last :: earlier)) => do
          let last ← descend dotted change path .defined last
          return place key (.tables (last :: earlier)) entries
      | some (.table kind inner) =>
          if dotted && kind == .defined then .error (.duplicateKey key)
          else do return place key (.table kind (← descend dotted change path kind inner)) entries

/-- Put a value under a key of one table. A key alone goes to a table that dotted
keys did not make, and the last part of a dotted key only to one that they did. -/
def addValue (isDotted : Bool) (key : String) (value : Value) (kind : TableKind)
    (entries : Entries) : Except TreeError Entries :=
  if isDotted != (kind == .dotted) then .error (.duplicateKey key)
  else if (entries.lookup key).isSome then .error (.duplicateKey key)
  else .ok (entries ++ [(key, .value value)])

/-- Put a value under a key, dotted or not, of one table. -/
def assign (path : List String) (key : String) (value : Value) :
    TableKind → Entries → Except TreeError Entries :=
  descend true (addValue (!path.isEmpty) key value) path

/-- Open the table of a header. -/
def openTable (path : List String) (key : String) (entries : Entries) :
    Except TreeError Entries :=
  descend false (fun _ entries =>
    match entries.lookup key with
    | none => .ok (place key (.table .defined []) entries)
    | some (.table .implied inner) => .ok (place key (.table .defined inner) entries)
    | some _ => .error (.duplicateKey key)) path .defined entries

/-- Open a new table in the array of a header. -/
def openItem (path : List String) (key : String) (entries : Entries) : Except TreeError Entries :=
  descend false (fun _ entries =>
    match entries.lookup key with
    | none => .ok (place key (.tables [[]]) entries)
    | some (.tables items) => .ok (place key (.tables ([] :: items)) entries)
    | some _ => .error (.duplicateKey key)) path .defined entries

end Entries

mutual

/-- What a node stands for, once the document has been read. -/
def Node.toValue : Node → Value
  | .value value => value
  | .table _ entries => .table (entriesValues entries)
  | .tables items => .array (itemsValues items).reverse

/-- The values of a table's entries. -/
def entriesValues : List (String × Node) → List (String × Value)
  | [] => []
  | (key, node) :: rest => (key, node.toValue) :: entriesValues rest

/-- The values of the tables in an array. -/
def itemsValues : List (List (String × Node)) → List Value
  | [] => []
  | item :: rest => .table (entriesValues item) :: itemsValues rest

end

end RadioAdapter.Toml
