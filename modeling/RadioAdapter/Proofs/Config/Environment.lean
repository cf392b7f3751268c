import Mathlib.Data.List.Forall2
import RadioAdapter.Proofs.Json.Forms

/-! # Environments and the tables that they are read from

An environment is read from a table of texts. It has what the table has under each name, so it
matters neither in which order the names stand nor how the table is spelled otherwise; and as its
own names ascend, nothing but what it has makes it the environment that it is.
-/

namespace RadioAdapter

/-! ## Values but for their spelling -/

namespace Value

/-- Two values are the same but for how they are spelled: the keys of a table stand in whatever
order, and a number that is no integer has whatever digits. -/
inductive Alike : Value → Value → Prop where
  | refl (value : Value) : Alike value value
  | float (literal other : String) : Alike (.float literal) (.float other)
  | array {items others : List Value} (hitems : List.Forall₂ Alike items others) :
      Alike (.array items) (.array others)
  | table {entries others : List (String × Value)}
      (hvalues : ∀ key, List.Forall₂ Alike (allAt key entries) (allAt key others)) :
      Alike (.table entries) (.table others)

section

variable {entries others : List (String × Value)} {name : String} {value other : Value}

theorem mem_allAt : value ∈ allAt name entries ↔ (name, value) ∈ entries := by
  simp only [allAt, List.mem_filterMap, Option.ite_none_right_eq_some, Option.some.injEq]
  constructor
  · rintro ⟨⟨_, _⟩, hentry, rfl, rfl⟩
    exact hentry
  · intro hentry
    exact ⟨_, hentry, rfl, rfl⟩

theorem allAt_cons (name : String) (entry : String × Value) (entries : List (String × Value)) :
    allAt name (entry :: entries) =
      if entry.1 = name then entry.2 :: allAt name entries else allAt name entries := by
  rw [allAt, List.filterMap_cons]
  split <;> simp_all [allAt]

/-- Distinct keys have at most one value each. -/
theorem length_allAt_le_one (hnodup : (entries.map Prod.fst).Nodup) (name : String) :
    (allAt name entries).length ≤ 1 := by
  induction entries with
  | nil => exact Nat.zero_le 1
  | cons entry rest ih =>
      obtain ⟨hfirst, hrest⟩ := List.nodup_cons.mp hnodup
      rw [allAt_cons]
      split
      next hname =>
        have hnone : allAt name rest = [] := by
          refine List.eq_nil_iff_forall_not_mem.mpr fun value hvalue => hfirst ?_
          rw [hname]
          exact List.mem_map_of_mem (mem_allAt.mp hvalue)
        rw [hnone]
        exact Nat.le_refl 1
      next => exact ih hrest

theorem text?_eq_some_iff {text : String} : value.text? = some text ↔ value = .text text := by
  cases value <;> simp [text?]

theorem bool?_eq_some_iff {flag : Bool} : value.bool? = some flag ↔ value = .bool flag := by
  cases value <;> simp [bool?]

/-- A list is read as some results exactly if it is what they are written as. -/
theorem mapM_eq_some_iff {α β : Type} {write : α → β} {read : β → Option α}
    (hread : ∀ {item result}, read item = some result ↔ item = write result) {items : List β}
    {results : List α} : items.mapM read = some results ↔ items = results.map write := by
  constructor
  · intro hitems
    induction items generalizing results with
    | nil =>
        cases hitems
        rfl
    | cons item rest ih =>
        simp only [List.mapM_cons, Option.bind_eq_bind, Option.bind_eq_some_iff, Option.pure_def,
          Option.some.injEq] at hitems
        obtain ⟨first, hfirst, others, hothers, rfl⟩ := hitems
        rw [hread.mp hfirst, ih hothers, List.map_cons]
  · rintro rfl
    exact mapM_map_eq_some (fun item => hread.mpr rfl) results

theorem texts?_eq_some_iff {texts : List String} :
    value.texts? = some texts ↔ value = .array (texts.map .text) := by
  cases value with
  | array items => rw [texts?, mapM_eq_some_iff text?_eq_some_iff, Value.array.injEq]
  | _ => simp [texts?]

/-! ## Reading values that are alike -/

theorem Alike.text?_eq (halike : Alike value other) : value.text? = other.text? := by
  cases halike <;> rfl

theorem Alike.bool?_eq (halike : Alike value other) : value.bool? = other.bool? := by
  cases halike <;> rfl

theorem map_text?_of_alike {values likes : List Value}
    (halike : List.Forall₂ Alike values likes) : values.map text? = likes.map text? := by
  induction halike with
  | nil => rfl
  | cons hvalue _ ih => rw [List.map_cons, List.map_cons, hvalue.text?_eq, ih]

theorem Alike.texts?_eq (halike : Alike value other) : value.texts? = other.texts? := by
  cases halike with
  | array hitems =>
      have hread (items : List Value) : items.mapM text? = (items.map text?).mapM id := by
        rw [List.mapM_map, Function.id_comp]
      rw [texts?, texts?, hread, hread, map_text?_of_alike hitems]
  | _ => rfl

end

end Value

/-! ## Environments -/

namespace Environment

section

variable {entries : List (String × Value)} {environment : Environment} {name text : String}

/-- The entries of an environment as those of a table. -/
def entryValue (entry : String × String) : String × Value := (entry.1, .text entry.2)

/-- An environment has the texts of a table. Under a key that stands more than once, the last one
counts. -/
def Has (environment : Environment) (entries : List (String × Value)) : Prop :=
  ∀ name text, (name, text) ∈ environment.entries ↔
    (Value.allAt name entries).getLast? = some (.text text)

theorem exists_map_entryValue (htexts : ∀ entry ∈ entries, ∃ text, entry.2 = .text text) :
    ∃ pairs : List (String × String), entries = pairs.map entryValue := by
  induction entries with
  | nil => exact ⟨[], rfl⟩
  | cons entry rest ih =>
      obtain ⟨hfirst, hrest⟩ := List.forall_mem_cons.mp htexts
      obtain ⟨text, htext⟩ := hfirst
      obtain ⟨pairs, hpairs⟩ := ih hrest
      refine ⟨(entry.1, text) :: pairs, ?_⟩
      rw [List.map_cons, ← hpairs, entryValue, ← htext]

theorem entry?_eq_some_iff {entry : String × Value} {result : String × String} :
    entry? entry = some result ↔ entry = entryValue result := by
  obtain ⟨name, value⟩ := entry
  obtain ⟨other, text⟩ := result
  simp only [ entry?, entryValue, Option.map_eq_some_iff, Value.text?_eq_some_iff, Prod.mk.injEq]
  constructor
  · rintro ⟨_, rfl, rfl, rfl⟩
    exact ⟨rfl, rfl⟩
  · rintro ⟨rfl, rfl⟩
    exact ⟨_, rfl, rfl, rfl⟩

/-- A name before all others is not among them. -/
theorem notMem_of_forall_lt {entries : List (String × String)}
    (hlt : ∀ entry ∈ entries, name < entry.1) : (name, text) ∉ entries :=
  fun hmem => String.lt_irrefl name (hlt _ hmem)

/-- Nothing else is left under the name of an entry that is put into ascending ones. -/
theorem mem_insertEntry_self {entries : List (String × String)} {value : String}
    (hascending : entries.Pairwise (fun a b => a.1 < b.1)) :
    (name, text) ∈ insertEntry name value entries ↔ text = value := by
  induction entries with
  | nil => simp [insertEntry]
  | cons first rest ih =>
      obtain ⟨hfirst, hrest⟩ := List.pairwise_cons.mp hascending
      rw [insertEntry]
      split
      next hbefore =>
        have hnone : (name, text) ∉ first :: rest := by
          refine notMem_of_forall_lt (List.forall_mem_cons.mpr ⟨hbefore, ?_⟩)
          exact fun entry hentry => String.lt_trans hbefore (hfirst entry hentry)
        rw [List.mem_cons, or_iff_left hnone, Prod.mk.injEq, and_iff_right rfl]
      next hnotBefore =>
        split
        next hafter =>
          have hother : (name, text) ≠ first := by
            rintro rfl
            exact String.lt_irrefl _ hafter
          rw [List.mem_cons, or_iff_right hother, ih hrest]
        next hnotAfter =>
          have hsame : name = first.1 :=
            String.le_antisymm (Std.not_lt.mp hnotAfter) (Std.not_lt.mp hnotBefore)
          have hnone : (name, text) ∉ rest := notMem_of_forall_lt (hsame ▸ hfirst)
          rw [List.mem_cons, or_iff_left hnone, Prod.mk.injEq, and_iff_right rfl]

/-- What stands under other names stays. -/
theorem mem_insertEntry_of_ne {entries : List (String × String)} {other value : String}
    (hname : name ≠ other) :
    (name, text) ∈ insertEntry other value entries ↔ (name, text) ∈ entries := by
  have hput : (name, text) ≠ (other, value) := fun heq => hname (Prod.mk.inj heq).1
  induction entries with
  | nil => simpa [insertEntry] using hput
  | cons first rest ih =>
      rw [insertEntry]
      split
      next => rw [List.mem_cons, or_iff_right hput]
      next hnotBefore =>
        split
        next => exact List.mem_cons.trans ((or_congr_right ih).trans List.mem_cons.symm)
        next hnotAfter =>
          have hsame : other = first.1 :=
            String.le_antisymm (Std.not_lt.mp hnotAfter) (Std.not_lt.mp hnotBefore)
          have hgone : (name, text) ≠ first := by
            rintro rfl
            exact hname hsame.symm
          rw [List.mem_cons, or_iff_right hput, List.mem_cons, or_iff_right hgone]

theorem mem_insert {other value : String} :
    (name, text) ∈ (environment.insert other value).entries ↔
      if name = other then text = value else (name, text) ∈ environment.entries := by
  split
  next hname =>
    subst hname
    exact mem_insertEntry_self environment.ascending
  next hname => exact mem_insertEntry_of_ne hname

/-- Of the entries that are put into an environment one after the other, the last one under a name
is what the environment has. -/
theorem mem_foldl_insert (pairs : List (String × String)) :
    (name, text) ∈ (pairs.foldl (fun made pair => made.insert pair.1 pair.2) environment).entries ↔
      (Value.allAt name (pairs.map entryValue)).getLast? = some (.text text) ∨
        Value.allAt name (pairs.map entryValue) = [] ∧ (name, text) ∈ environment.entries := by
  induction pairs generalizing environment with
  | nil => simp [Value.allAt]
  | cons pair rest ih =>
      rw [List.foldl_cons, ih, mem_insert, List.map_cons, Value.allAt_cons]
      by_cases hname : pair.1 = name
      · rw [show (entryValue pair).1 = name from hname, if_pos rfl, if_pos hname.symm]
        cases Value.allAt name (rest.map entryValue) with
        | nil => simp [entryValue, eq_comm]
        | cons first others => simp [List.getLast?_cons_cons]
      · rw [if_neg (show (entryValue pair).1 ≠ name from hname), if_neg (Ne.symm hname)]

theorem ofList_has (pairs : List (String × String)) :
    (ofList pairs).Has (pairs.map entryValue) := by
  intro name text
  rw [ofList, mem_foldl_insert]
  simp only [empty, List.not_mem_nil, and_false, or_false]

/-- What an environment has determines it, because its names ascend. -/
theorem eq_of_has {other : Environment} (hhas : environment.Has entries)
    (hother : other.Has entries) : environment = other := by
  have hnodup (environment : Environment) : environment.entries.Nodup := by
    refine environment.ascending.imp ?_
    rintro first _ hlt rfl
    exact String.lt_irrefl _ hlt
  refine eq_of_entries (List.Perm.eq_of_pairwise ?_ environment.ascending other.ascending ?_)
  · intro first second _ _ hlt hgt
    exact absurd hgt (String.lt_asymm hlt)
  · rw [List.perm_ext_iff_of_nodup (hnodup environment) (hnodup other)]
    rintro ⟨name, text⟩
    rw [hhas name text, hother name text]

/-- A table is read as an environment exactly if it has texts only. -/
theorem ofValue?_table_eq_some_iff :
    ofValue? (.table entries) = some environment ↔
      (∀ entry ∈ entries, ∃ text, entry.2 = .text text) ∧ environment.Has entries := by
  simp only [ofValue?, Option.map_eq_some_iff, Value.mapM_eq_some_iff entry?_eq_some_iff]
  constructor
  · rintro ⟨pairs, rfl, rfl⟩
    refine ⟨?_, ofList_has pairs⟩
    intro entry hentry
    obtain ⟨pair, -, rfl⟩ := List.mem_map.mp hentry
    exact ⟨pair.2, rfl⟩
  · rintro ⟨htexts, hhas⟩
    obtain ⟨pairs, rfl⟩ := exists_map_entryValue htexts
    exact ⟨pairs, rfl, eq_of_has (ofList_has pairs) hhas⟩

/-- What a table with texts only means as an environment. -/
def IsOf (value : Value) (environment : Environment) : Prop :=
  ∃ inner, value = .table inner ∧ (∀ entry ∈ inner, ∃ text, entry.2 = .text text) ∧
    environment.Has inner

/-- Only a date-time would be an environment without being a table. -/
theorem ofValue?_eq_some_iff {value : Value} {environment : Environment}
    (hdate : ∀ date, value ≠ .dateTime date) :
    ofValue? value = some environment ↔ IsOf value environment := by
  cases value with
  | table inner => simp only [ofValue?_table_eq_some_iff, IsOf, Value.table.injEq, exists_eq_left']
  | dateTime date => exact absurd rfl (hdate date)
  | _ => simp [ofValue?, IsOf]

/-- An environment can be made of any texts. -/
theorem exists_isOf_iff {value : Value} :
    (∃ environment, IsOf value environment) ↔
      ∃ inner, value = .table inner ∧ ∀ entry ∈ inner, ∃ text, entry.2 = .text text := by
  constructor
  · rintro ⟨environment, inner, hvalue, htexts, -⟩
    exact ⟨inner, hvalue, htexts⟩
  · rintro ⟨inner, hvalue, htexts⟩
    obtain ⟨pairs, rfl⟩ := exists_map_entryValue htexts
    exact ⟨.ofList pairs, _, hvalue, htexts, ofList_has pairs⟩

theorem hasTextsOnly_iff :
    (∀ entry ∈ entries, ∃ text, entry.2 = .text text) ↔
      ∀ key, none ∉ (Value.allAt key entries).map Value.text? := by
  constructor
  · intro htexts key hnone
    obtain ⟨value, hvalue, hno⟩ := List.mem_map.mp hnone
    obtain ⟨text, htext⟩ := htexts _ (Value.mem_allAt.mp hvalue)
    cases htext
    contradiction
  · rintro hall ⟨key, value⟩ hentry
    cases htext : value.text? with
    | none =>
        have hvalue : value ∈ Value.allAt key entries := Value.mem_allAt.mpr hentry
        exact absurd (List.mem_map.mpr ⟨value, hvalue, htext⟩) (hall key)
    | some text => exact ⟨text, Value.text?_eq_some_iff.mp htext⟩

theorem has_iff :
    environment.Has entries ↔ ∀ name text, (name, text) ∈ environment.entries ↔
      ((Value.allAt name entries).map Value.text?).getLast? = some (some text) := by
  simp only [Has, List.getLast?_map, Option.map_eq_some_iff, Value.text?_eq_some_iff,
    exists_eq_right]

/-- Tables that are alike are one environment, or none of them is an environment. -/
theorem ofValue?_eq_of_alike {value other : Value} (halike : value.Alike other) :
    ofValue? value = ofValue? other := by
  cases halike with
  | refl | float | array => rfl
  | table hvalues =>
      refine Option.ext fun environment => ?_
      rw [ofValue?_table_eq_some_iff, ofValue?_table_eq_some_iff, hasTextsOnly_iff,
        hasTextsOnly_iff, has_iff, has_iff]
      simp only [fun key => Value.map_text?_of_alike (hvalues key)]

end

end Environment

end RadioAdapter
