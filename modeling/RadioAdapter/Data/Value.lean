import RadioAdapter.Data.DateTime

/-! # Document values

The values that a configuration document or a record text is made of, whichever
format it is written in. Tables keep their entries in the order of the text,
and keep an entry that is written twice.

A structured value is written as a table of named fields, of which each known
one stands at most once, or as an array of the fields in order. Fields that
nobody knows are skipped whatever their value.
-/

namespace RadioAdapter

/-- A value of a document. -/
inductive Value where
  | null
  | bool (value : Bool)
  | integer (value : Int)
  /-- A number that is not written as an integer, by its digits. -/
  | float (literal : String)
  | text (value : String)
  | dateTime (value : DateTime)
  /-- A text, or a table with a key, that is written correctly but names half of
  a surrogate pair and so denotes no Unicode text. -/
  | unreadable
  | array (items : List Value)
  | table (entries : List (String × Value))
deriving Inhabited

/-- Why a value has not the fields of the structure that is read. -/
inductive FieldError where
  /-- The value is neither a table nor an array. -/
  | notFields
  | missing (field : String)
  | repeated (field : String)
  | wrongType (field : String)
  /-- An array has more items than there are fields. -/
  | tooMany (count : Nat)
deriving DecidableEq, Repr

def FieldError.message : FieldError → String
  | .notFields => "expected a table"
  | .missing field => "missing field " ++ field
  | .repeated field => "duplicate field " ++ field
  | .wrongType field => "invalid value for field " ++ field
  | .tooMany count => "too many fields: " ++ toString count

namespace Value

/-! ## Equality -/

mutual

/-- Whether two values are the same. -/
def same : Value → Value → Bool
  | .null, .null => true
  | .bool first, .bool second => first == second
  | .integer first, .integer second => first == second
  | .float first, .float second => first == second
  | .text first, .text second => first == second
  | .dateTime first, .dateTime second => decide (first = second)
  | .unreadable, .unreadable => true
  | .array first, .array second => sameItems first second
  | .table first, .table second => sameEntries first second
  | _, _ => false

def sameItems : List Value → List Value → Bool
  | [], [] => true
  | first :: rest, second :: others => same first second && sameItems rest others
  | _, _ => false

def sameEntries : List (String × Value) → List (String × Value) → Bool
  | [], [] => true
  | (key, first) :: rest, (other, second) :: others =>
      key == other && same first second && sameEntries rest others
  | _, _ => false

end

mutual

theorem same_iff (first second : Value) : first.same second = true ↔ first = second := by
  cases first with
  | array items =>
      cases second with
      | array others => rw [same, sameItems_iff items others, array.injEq]
      | _ => simp [same]
  | table entries =>
      cases second with
      | table others => rw [same, sameEntries_iff entries others, table.injEq]
      | _ => simp [same]
  | _ => cases second <;> simp [same]

theorem sameItems_iff (items others : List Value) :
    sameItems items others = true ↔ items = others := by
  cases items with
  | nil => cases others <;> simp [sameItems]
  | cons first rest =>
      cases others with
      | nil => simp [sameItems]
      | cons second others =>
          rw [sameItems, Bool.and_eq_true, same_iff first second, sameItems_iff rest others,
            List.cons.injEq]

theorem sameEntries_iff (entries others : List (String × Value)) :
    sameEntries entries others = true ↔ entries = others := by
  cases entries with
  | nil => cases others <;> simp [sameEntries]
  | cons entry rest =>
      obtain ⟨key, first⟩ := entry
      cases others with
      | nil => simp [sameEntries]
      | cons other others =>
          obtain ⟨otherKey, second⟩ := other
          rw [sameEntries, Bool.and_eq_true, Bool.and_eq_true, beq_iff_eq, same_iff first second,
            sameEntries_iff rest others, List.cons.injEq, Prod.mk.injEq]

end

instance : DecidableEq Value := fun first second => decidable_of_iff _ (same_iff first second)

/-! ## Single values -/

/-- All values under a key, in order. -/
def allAt (key : String) (entries : List (String × Value)) : List Value :=
  entries.filterMap fun entry => if entry.1 = key then some entry.2 else none

def text? : Value → Option String
  | .text value => some value
  | _ => none

def bool? : Value → Option Bool
  | .bool value => some value
  | _ => none

/-- An integer that fits a signed word. -/
def int32? : Value → Option Int32
  | .integer value =>
      if -2147483648 ≤ value ∧ value ≤ 2147483647 then some (Int32.ofInt value) else none
  | _ => none

/-- An integer that fits an unsigned word. -/
def uint32? : Value → Option UInt32
  | .integer value =>
      if 0 ≤ value ∧ value ≤ 4294967295 then some (UInt32.ofNat value.toNat) else none
  | _ => none

def texts? : Value → Option (List String)
  | .array items => items.mapM text?
  | _ => none

/-- The name of a choice without content: the name alone, or a table with the
name as its only key and nothing under it. -/
def choice? : Value → Option String
  | .text name => some name
  | .table [(name, .null)] => some name
  | _ => none

/-! ## Fields -/

/-- The fields of a value, given their names in order. -/
def fields (names : List String) : Value → Except FieldError (List (String × Value))
  | .table entries => .ok entries
  | .array items =>
      if items.length ≤ names.length then .ok (names.zip items) else .error (.tooMany items.length)
  | _ => .error .notFields

/-- A field that may be absent. -/
def field? {α : Type} (entries : List (String × Value)) (name : String)
    (read : Value → Option α) : Except FieldError (Option α) :=
  match allAt name entries with
  | [] => .ok none
  | [value] =>
      match read value with
      | some result => .ok (some result)
      | none => .error (.wrongType name)
  | _ => .error (.repeated name)

/-- A field that must be there. -/
def field {α : Type} (entries : List (String × Value)) (name : String)
    (read : Value → Option α) : Except FieldError α := do
  match ← field? entries name read with
  | some result => .ok result
  | none => .error (.missing name)

def fieldD {α : Type} (entries : List (String × Value)) (name : String)
    (read : Value → Option α) (default : α) : Except FieldError α :=
  return (← field? entries name read).getD default

end Value

end RadioAdapter
