import RadioAdapter.Json.Reader
import RadioAdapter.Toml.Document

/-! # Tables as they are read

The two formats keep different things out of a table. A TOML document never has a key twice at its
top: whatever a line adds, it either replaces what stands under a key or looks first whether the
key is free. A JSON text may write a key twice, but it has no dates.
-/

namespace RadioAdapter

theorem bind_eq_ok_iff {ε α β : Type} {result : Except ε α} {next : α → Except ε β} {value : β} :
    (result >>= next) = .ok value ↔ ∃ made, result = .ok made ∧ next made = .ok value := by
  cases result with
  | error error => simp [bind, Except.bind]
  | ok made => simp [bind, Except.bind]

/-! ## Keys of a TOML document -/

namespace Toml

section

variable {entries changed : Entries} {key : String}

namespace Entries

/-- No key stands twice. -/
def Distinct (entries : Entries) : Prop := (entries.map Prod.fst).Nodup

theorem fst_place (key : String) (node : Node) (entries : Entries) :
    (place key node entries).map Prod.fst =
      if key ∈ entries.map Prod.fst then entries.map Prod.fst
      else entries.map Prod.fst ++ [key] := by
  induction entries with
  | nil => rfl
  | cons entry rest ih =>
      obtain ⟨other, old⟩ := entry
      by_cases hkey : other = key
      · simp [place, hkey]
      · simp only [place, if_neg hkey, List.map_cons, ih, List.mem_cons, Ne.symm hkey, false_or]
        split <;> rfl

theorem Distinct.append (hdistinct : entries.Distinct) (hfree : key ∉ entries.map Prod.fst) :
    (entries.map Prod.fst ++ [key]).Nodup := by
  refine List.nodup_append.mpr ⟨hdistinct, List.pairwise_singleton _ key, ?_⟩
  intro other hother last hlast hsame
  rw [hsame, List.mem_singleton.mp hlast] at hother
  exact hfree hother

theorem Distinct.place (hdistinct : entries.Distinct) (key : String) (node : Node) :
    Distinct (place key node entries) := by
  rw [Distinct, fst_place]
  split
  next => exact hdistinct
  next hfree => exact hdistinct.append hfree

/-- A change that never brings in a key twice. -/
def Keeps (change : TableKind → Entries → Except TreeError Entries) : Prop :=
  ∀ kind entries changed, entries.Distinct → change kind entries = .ok changed → changed.Distinct

theorem keeps_addValue (isDotted : Bool) (key : String) (value : Value) :
    Keeps (addValue isDotted key value) := by
  intro kind entries changed hdistinct hadd
  rw [addValue] at hadd
  split at hadd
  · contradiction
  · split at hadd
    next => contradiction
    next hfree =>
      cases hadd
      rw [Distinct, List.map_append]
      refine hdistinct.append fun hmem => ?_
      obtain ⟨entry, hentry, hkey⟩ := List.mem_map.mp hmem
      exact hfree (List.lookup_isSome_iff.mpr ⟨entry, hentry, beq_iff_eq.mpr hkey.symm⟩)

/-- Where a path leads on, one key of the table at hand is replaced or made. -/
theorem keeps_descend {change : TableKind → Entries → Except TreeError Entries}
    (hchange : Keeps change) (dotted : Bool) (path : List String) :
    Keeps (descend dotted change path) := by
  intro kind entries changed hdistinct hdescend
  cases path with
  | nil => exact hchange kind entries changed hdistinct hdescend
  | cons key path =>
      have hplaced {inner : Except TreeError Entries} {node : Entries → Node}
          (hbind : (inner >>= fun table => pure (place key (node table) entries)) = .ok changed) :
          changed.Distinct := by
        obtain ⟨table, -, hchanged⟩ := bind_eq_ok_iff.mp hbind
        cases hchanged
        exact hdistinct.place key _
      rw [descend] at hdescend
      split at hdescend
      next => exact hplaced hdescend
      next => contradiction
      next => contradiction
      next => exact hplaced hdescend
      next =>
        split at hdescend
        · contradiction
        · exact hplaced hdescend

theorem keeps_assign (path : List String) (key : String) (value : Value) :
    Keeps (assign path key value) :=
  keeps_descend (keeps_addValue _ key value) true path

/-- Putting something under a key never brings the key in twice. -/
theorem keeps_of_place {change : TableKind → Entries → Except TreeError Entries} (key : String)
    (hplace : ∀ kind entries changed, change kind entries = .ok changed →
      ∃ node, changed = place key node entries) : Keeps change := by
  intro kind entries changed hdistinct hchange
  obtain ⟨node, rfl⟩ := hplace kind entries changed hchange
  exact hdistinct.place key node

theorem distinct_openTable {path : List String} (hdistinct : entries.Distinct)
    (hopen : entries.openTable path key = .ok changed) : changed.Distinct := by
  refine keeps_descend (keeps_of_place key fun kind entries changed hchange => ?_) false path
    .defined entries changed hdistinct hopen
  split at hchange
  · exact ⟨_, (Except.ok.inj hchange).symm⟩
  · exact ⟨_, (Except.ok.inj hchange).symm⟩
  · contradiction

theorem distinct_openItem {path : List String} (hdistinct : entries.Distinct)
    (hopen : entries.openItem path key = .ok changed) : changed.Distinct := by
  refine keeps_descend (keeps_of_place key fun kind entries changed hchange => ?_) false path
    .defined entries changed hdistinct hopen
  split at hchange
  · exact ⟨_, (Except.ok.inj hchange).symm⟩
  · exact ⟨_, (Except.ok.inj hchange).symm⟩
  · contradiction

end Entries

/-- One line leaves the keys of a document distinct. -/
theorem Draft.distinct_add {draft next : Draft} {statement : Statement}
    (hdistinct : draft.entries.Distinct) (hadd : draft.add statement = .ok next) :
    next.entries.Distinct := by
  cases statement with
  | assign path key value =>
      obtain ⟨entries, hentries, hnext⟩ := bind_eq_ok_iff.mp hadd
      cases hnext
      exact Entries.keeps_descend (Entries.keeps_assign path key value) false draft.current
        .defined _ _ hdistinct hentries
  | header path key =>
      obtain ⟨entries, hentries, hnext⟩ := bind_eq_ok_iff.mp hadd
      cases hnext
      exact Entries.distinct_openTable hdistinct hentries
  | itemHeader path key =>
      obtain ⟨entries, hentries, hnext⟩ := bind_eq_ok_iff.mp hadd
      cases hnext
      exact Entries.distinct_openItem hdistinct hentries

/-- And so do all lines. -/
theorem distinct_readLines {whole text : List Char} {fuel : Nat} {draft made : Draft}
    (hdistinct : draft.entries.Distinct) (hread : readLines whole fuel draft text = .ok made) :
    made.entries.Distinct := by
  induction fuel generalizing draft text with
  | zero =>
      cases hread
      exact hdistinct
  | succ fuel ih =>
      rw [readLines] at hread
      split at hread
      next =>
        cases hread
        exact hdistinct
      next =>
        split at hread
        · -- An empty line or a comment says nothing.
          split at hread
          · contradiction
          · exact ih hdistinct hread
        · split at hread
          · contradiction
          · split at hread
            next => contradiction
            next hadd => exact ih (Draft.distinct_add hdistinct hadd) hread

theorem fst_entriesValues (entries : Entries) :
    (entriesValues entries).map Prod.fst = entries.map Prod.fst := by
  induction entries with
  | nil => rfl
  | cons entry rest ih => rw [entriesValues, List.map_cons, List.map_cons, ih]

/-- A document that is read has no key twice at its top. -/
theorem nodup_keys_of_read {text : String} {table : List (String × Value)}
    (hread : read text = .ok table) : (table.map Prod.fst).Nodup := by
  obtain ⟨draft, hlines, htable⟩ := bind_eq_ok_iff.mp hread
  cases htable
  have hempty : Entries.Distinct [] := List.nodup_nil
  rw [fst_entriesValues]
  exact distinct_readLines hempty hlines

end

end Toml

/-! ## Values of a JSON text -/

namespace Json

/-- Values without date-times, at whatever depth. -/
inductive Dateless : Value → Prop where
  | null : Dateless .null
  | bool (value : Bool) : Dateless (.bool value)
  | integer (value : Int) : Dateless (.integer value)
  | float (literal : String) : Dateless (.float literal)
  | text (value : String) : Dateless (.text value)
  | unreadable : Dateless .unreadable
  | array {items : List Value} (hitems : ∀ item ∈ items, Dateless item) : Dateless (.array items)
  | table {entries : List (String × Value)} (hentries : ∀ entry ∈ entries, Dateless entry.2) :
      Dateless (.table entries)

/-- What the readers that share this fuel read has no date-times. -/
structure ReadsDateless (fuel : Nat) : Prop where
  value {text rest : List Char} {value : Value}
    (hread : readValue fuel text = some (value, rest)) : Dateless value
  items {text rest : List Char} {items : List Value}
    (hread : readItems fuel text = some (items, rest)) : ∀ item ∈ items, Dateless item
  entries {text rest : List Char} {entries : List (String × Value)}
    (hread : readEntries fuel text = some (some entries, rest)) :
    ∀ entry ∈ entries, Dateless entry.2

section

variable {text rest : List Char} {value : Value} {fuel : Nat}

theorem dateless_textValue (characters : Option (List Char)) : Dateless (textValue characters) := by
  cases characters with
  | none => exact .unreadable
  | some characters => exact .text _

theorem dateless_numberValue (negative : Bool) (whole fraction exponent : List Char) :
    Dateless (numberValue negative whole fraction exponent) := by
  rw [numberValue]
  split
  · exact .integer _
  · exact .float _

theorem dateless_of_readNumber (hread : readNumber text = some (value, rest)) : Dateless value := by
  simp only [readNumber, Option.bind_eq_bind, Option.bind_eq_some_iff, Option.pure_def,
    Option.some.injEq, Prod.mk.injEq] at hread
  obtain ⟨whole, -, fraction, -, exponent, -, rfl, -⟩ := hread
  exact dateless_numberValue _ _ _ _

theorem dateless_of_readValue (hfuel : ReadsDateless fuel)
    (hread : readValue (fuel + 1) text = some (value, rest)) : Dateless value := by
  rw [readValue] at hread
  split at hread
  next =>
    cases hread
    exact .null
  next =>
    cases hread
    exact .bool true
  next =>
    cases hread
    exact .bool false
  next =>
    obtain ⟨made, -, hvalue⟩ := Option.bind_eq_some_iff.mp hread
    cases hvalue
    exact dateless_textValue _
  next =>
    split at hread
    · cases hread
      exact .array nofun
    · obtain ⟨made, hitems, hvalue⟩ := Option.bind_eq_some_iff.mp hread
      cases hvalue
      exact .array (hfuel.items hitems)
  next =>
    split at hread
    · cases hread
      exact .table nofun
    · obtain ⟨⟨entries, after⟩, hentries, hvalue⟩ := Option.bind_eq_some_iff.mp hread
      cases hvalue
      cases entries with
      | none => exact .unreadable
      | some entries => exact .table (hfuel.entries hentries)
  next => exact dateless_of_readNumber hread

theorem dateless_of_readItems (hfuel : ReadsDateless fuel) {items : List Value}
    (hread : readItems (fuel + 1) text = some (items, rest)) : ∀ item ∈ items, Dateless item := by
  rw [readItems] at hread
  obtain ⟨⟨first, after⟩, hfirst, hread⟩ := Option.bind_eq_some_iff.mp hread
  simp only at hread
  split at hread
  next =>
    cases hread
    exact List.forall_mem_singleton.mpr (hfuel.value hfirst)
  next =>
    obtain ⟨⟨others, after⟩, hothers, hread⟩ := Option.bind_eq_some_iff.mp hread
    cases hread
    exact List.forall_mem_cons.mpr ⟨hfuel.value hfirst, hfuel.items hothers⟩
  next => contradiction

/-- An entry that is put in front of others is the only one that is new. -/
theorem dateless_of_pushEntry {key : Option (List Char)} {others : Option (List (String × Value))}
    {entries : List (String × Value)} (hpush : pushEntry key value others = some entries)
    (hvalue : Dateless value)
    (hothers : ∀ made, others = some made → ∀ entry ∈ made, Dateless entry.2) :
    ∀ entry ∈ entries, Dateless entry.2 := by
  obtain ⟨characters, -, hpush⟩ := Option.bind_eq_some_iff.mp hpush
  obtain ⟨made, hmade, hentries⟩ := Option.bind_eq_some_iff.mp hpush
  cases hentries
  exact List.forall_mem_cons.mpr ⟨hvalue, hothers made hmade⟩

theorem dateless_of_readEntries (hfuel : ReadsDateless fuel) {entries : List (String × Value)}
    (hread : readEntries (fuel + 1) text = some (some entries, rest)) :
    ∀ entry ∈ entries, Dateless entry.2 := by
  rw [readEntries] at hread
  split at hread
  next =>
    obtain ⟨⟨key, after⟩, -, hread⟩ := Option.bind_eq_some_iff.mp hread
    simp only at hread
    split at hread
    next =>
      obtain ⟨⟨value, after⟩, hvalue, hread⟩ := Option.bind_eq_some_iff.mp hread
      simp only at hread
      split at hread
      next =>
        obtain ⟨hpush, -⟩ := Prod.mk.inj (Option.some.inj hread)
        refine dateless_of_pushEntry hpush (hfuel.value hvalue) fun made hmade => ?_
        cases hmade
        exact nofun
      next =>
        obtain ⟨⟨others, after⟩, hothers, hread⟩ := Option.bind_eq_some_iff.mp hread
        obtain ⟨hpush, -⟩ := Prod.mk.inj (Option.some.inj hread)
        refine dateless_of_pushEntry hpush (hfuel.value hvalue) fun made hmade => ?_
        cases hmade
        exact hfuel.entries hothers
      next => contradiction
    next => contradiction
  next => contradiction

/-- The readers call one another with less fuel only. -/
theorem readsDateless (fuel : Nat) : ReadsDateless fuel := by
  induction fuel with
  | zero => exact ⟨nofun, nofun, nofun⟩
  | succ fuel ih =>
      exact ⟨dateless_of_readValue ih, dateless_of_readItems ih, dateless_of_readEntries ih⟩

/-- A JSON text has no date-times. -/
theorem dateless_of_read (hread : read text = some value) : Dateless value := by
  obtain ⟨⟨made, rest⟩, hmade, hread⟩ := Option.bind_eq_some_iff.mp hread
  simp only at hread
  split at hread
  · cases hread
    exact (readsDateless _).value hmade
  · contradiction

end

end Json

end RadioAdapter
