/-! # Environments

The environment of an embedded runtime is a set of named values. Its entries
are kept in ascending order of name, one for each name, so that equal
environments are equal as lists.
-/

namespace RadioAdapter

/-- Named values, in strictly ascending order of name. -/
structure Environment where
  entries : List (String × String)
  ascending : entries.Pairwise (fun a b => a.1 < b.1) := by simp
deriving DecidableEq

namespace Environment

def empty : Environment := { entries := [] }

def single (name value : String) : Environment := { entries := [(name, value)] }

/-- Put a value under a name, in place of the one that is there. -/
def insertEntry (name value : String) : List (String × String) → List (String × String)
  | [] => [(name, value)]
  | entry :: rest =>
      if name < entry.1 then (name, value) :: entry :: rest
      else if entry.1 < name then entry :: insertEntry name value rest
      else (name, value) :: rest

theorem mem_insertEntry {name value : String} {entries : List (String × String)}
    {entry : String × String} (h : entry ∈ insertEntry name value entries) :
    entry = (name, value) ∨ entry ∈ entries := by
  induction entries with
  | nil => simpa [insertEntry] using h
  | cons first rest ih =>
      simp only [insertEntry] at h
      split at h
      · simpa using h
      · split at h
        · rcases List.mem_cons.1 h with h | h
          · exact .inr (by simp [h])
          · rcases ih h with h | h
            · exact .inl h
            · exact .inr (by simp [h])
        · rcases List.mem_cons.1 h with h | h
          · exact .inl h
          · exact .inr (by simp [h])

theorem ascending_insertEntry (name value : String) {entries : List (String × String)}
    (h : entries.Pairwise (fun a b => a.1 < b.1)) :
    (insertEntry name value entries).Pairwise (fun a b => a.1 < b.1) := by
  induction entries with
  | nil => simp [insertEntry]
  | cons first rest ih =>
      obtain ⟨hfirst, hrest⟩ := List.pairwise_cons.1 h
      simp only [insertEntry]
      split
      next hlt =>
        refine List.pairwise_cons.2 ⟨?_, h⟩
        intro entry hentry
        rcases List.mem_cons.1 hentry with rfl | hentry
        · exact hlt
        · exact String.lt_trans hlt (hfirst entry hentry)
      next hge =>
        split
        next hlt =>
          refine List.pairwise_cons.2 ⟨?_, ih hrest⟩
          intro entry hentry
          rcases mem_insertEntry hentry with rfl | hentry
          · exact hlt
          · exact hfirst entry hentry
        next hle =>
          have hname : name = first.1 :=
            String.le_antisymm (Std.not_lt.1 hle) (Std.not_lt.1 hge)
          refine List.pairwise_cons.2 ⟨?_, hrest⟩
          intro entry hentry
          simpa [hname] using hfirst entry hentry

/-- Put a value under a name, in place of the one that is there. -/
def insert (environment : Environment) (name value : String) : Environment :=
  { entries := insertEntry name value environment.entries
    ascending := ascending_insertEntry name value environment.ascending }

/-- The environment of a list of entries; of two with one name the later counts. -/
def ofList (entries : List (String × String)) : Environment :=
  entries.foldl (fun environment entry => environment.insert entry.1 entry.2) empty

end Environment

end RadioAdapter
