import Mathlib.Data.List.TakeDrop
import RadioAdapter.Json.Printer
import RadioAdapter.Json.Reader

/-! # Written JSON is read back

A text is read back from between its quotes, an integer from its digits, and so every
value that JSON knows from its whole text. What reads as a value does so wherever it
stands, with blanks around it or not, so the lines that a text is spread over do not
matter.
-/

namespace RadioAdapter.Json

/-! ## Texts -/

/-- Put a number in front of what has been read. -/
def pushUnit (unit : Nat) (made : Option (List Nat × List Char)) : Option (List Nat × List Char) :=
  made.map fun made => (unit :: made.1, made.2)

theorem readUnits_plain {c : Char} (hquote : c ≠ '"') (hescape : c ≠ '\\')
    (hcontrol : 0x20 ≤ c.toNat) (rest : List Char) :
    readUnits (c :: rest) = pushUnit c.toNat (readUnits rest) := by
  rw [readUnits, if_neg (not_or.mpr ⟨Nat.not_lt.mpr hcontrol, hescape⟩)]
  · cases readUnits rest <;> rfl
  · exact hquote
  · exact fun _ _ _ _ _ heq _ => hescape heq
  · exact fun _ _ heq _ => hescape heq

theorem readUnits_letter {letter c : Char} (hletter : escaped? letter = some c) (rest : List Char) :
    readUnits ('\\' :: letter :: rest) = pushUnit c.toNat (readUnits rest) := by
  rw [readUnits, hletter]
  · cases readUnits rest <;> rfl
  · rintro _ _ _ _ _ rfl _
    contradiction

theorem readUnits_hex {c : Char} (hcontrol : c.toNat < 0x20) (rest : List Char) :
    readUnits ('\\' :: 'u' :: '0' :: '0' :: Nat.digitChar (c.toNat / 16) ::
      Nat.digitChar (c.toNat % 16) :: rest) = pushUnit c.toNat (readUnits rest) := by
  have hzero : Text.hexValue? '0' = some 0 := rfl
  have hunit : unit? '0' '0' (Nat.digitChar (c.toNat / 16)) (Nat.digitChar (c.toNat % 16)) =
      some c.toNat := by
    simp only [unit?, hzero, Text.hexValue?_digitChar (show c.toNat / 16 < 16 by omega),
      Text.hexValue?_digitChar (show c.toNat % 16 < 16 by omega), Option.bind_eq_bind,
      Option.bind_some, Option.pure_def, Option.some.injEq]
    omega
  rw [readUnits, hunit]
  cases readUnits rest <;> rfl

/-- A character is read back from how it stands between quotes. -/
theorem readUnits_escapeChar (c : Char) (rest : List Char) :
    readUnits (escapeChar c ++ rest) = pushUnit c.toNat (readUnits rest) := by
  have hnamed {letter : Char} {value : Nat} (hvalue : c.toNat = value)
      (hletter : escaped? letter = some (Char.ofNat value)) :
      readUnits ('\\' :: letter :: rest) = pushUnit c.toNat (readUnits rest) := by
    rw [← hvalue, Char.ofNat_toNat] at hletter
    exact readUnits_letter hletter rest
  unfold escapeChar
  split
  next hquote =>
    rw [hquote]
    exact readUnits_letter rfl rest
  split
  next hescape =>
    rw [hescape]
    exact readUnits_letter rfl rest
  split
  next hquote hescape hcontrol =>
    split
    next hvalue => exact hnamed hvalue rfl
    split
    next hvalue => exact hnamed hvalue rfl
    split
    next hvalue => exact hnamed hvalue rfl
    split
    next hvalue => exact hnamed hvalue rfl
    split
    next hvalue => exact hnamed hvalue rfl
    next => exact readUnits_hex hcontrol rest
  next hquote hescape hcontrol =>
    exact readUnits_plain hquote hescape (Nat.not_lt.mp hcontrol) rest

theorem readUnits_escape (characters rest : List Char) :
    readUnits (characters.flatMap escapeChar ++ '"' :: rest) =
      some (characters.map Char.toNat, rest) := by
  induction characters with
  | nil => rfl
  | cons c characters ih =>
      rw [List.flatMap_cons, List.append_assoc, readUnits_escapeChar, ih]
      rfl

/-- No character is half of a surrogate pair. -/
theorem joinUnits_toNat (characters : List Char) :
    joinUnits (characters.map Char.toNat) = some characters := by
  induction characters with
  | nil => rfl
  | cons c characters ih =>
      have hvalid : c.toNat < 0xD800 ∨ 0xDFFF < c.toNat := by
        rcases c.valid with hlow | hhigh
        · exact .inl hlow
        · exact .inr hhigh.1
      have hleading : isLeading c.toNat = false := by
        rw [isLeading, Bool.and_eq_false_iff, decide_eq_false_iff_not, decide_eq_false_iff_not]
        omega
      have htrailing : isTrailing c.toNat = false := by
        rw [isTrailing, Bool.and_eq_false_iff, decide_eq_false_iff_not, decide_eq_false_iff_not]
        omega
      rw [List.map_cons, joinUnits.eq_def]
      simp only [hleading, htrailing, ih, Bool.false_eq_true, ↓reduceIte, Option.map_some,
        Char.ofNat_toNat]

/-- A text is read back from between its quotes. -/
theorem readQuoted_escape (text : String) (rest : List Char) :
    readQuoted (text.toList.flatMap escapeChar ++ '"' :: rest) = some (some text.toList, rest) := by
  simp only [readQuoted, readUnits_escape, Option.bind_eq_bind, Option.bind_some, joinUnits_toNat,
    Option.pure_def]

/-! ## Integers -/

/-- A text goes on with nothing that could be a part of a number before it. -/
def Continues (rest : List Char) : Prop :=
  ∀ c ∈ rest.head?, c.isDigit = false ∧ c ≠ '.' ∧ c ≠ 'e' ∧ c ≠ 'E'

theorem continues_nil : Continues [] := by
  intro c hc
  contradiction

/-- Digits are read as far as they go. -/
theorem spanDigits_append {digits rest : List Char} (hdigits : ∀ c ∈ digits, c.isDigit = true)
    (hrest : Continues rest) : spanDigits (digits ++ rest) = (digits, rest) := by
  rw [spanDigits, List.span_eq_takeWhile_dropWhile, List.takeWhile_append_of_pos hdigits,
    List.dropWhile_append_of_pos hdigits]
  cases rest with
  | nil => simp
  | cons c after =>
      have hc : c.isDigit = false := (hrest c rfl).1
      simp [hc]

theorem readWhole_toDigits (n : Nat) {rest : List Char} (hrest : Continues rest) :
    readWhole (Nat.toDigits 10 n ++ rest) = some (Nat.toDigits 10 n, rest) := by
  have hdigits : ∀ c ∈ Nat.toDigits 10 n, c.isDigit = true :=
    fun _ => Text.isDigit_of_mem_toDigits
  by_cases hzero : n = 0
  · subst hzero
    rfl
  · have hread : readDigits (Nat.toDigits 10 n ++ rest) = some (Nat.toDigits 10 n, rest) := by
      have hne : (Nat.toDigits 10 n).isEmpty = false := by
        simp [Nat.toDigits_ne_nil]
      simp only [readDigits, spanDigits_append hdigits hrest, hne, Bool.false_eq_true, ↓reduceIte]
    rw [readWhole, hread]
    intro after heq
    obtain ⟨first, later, hfirst, -⟩ := Text.exists_toDigits_eq_cons n
    have hhead := Text.head?_toDigits_ne hzero
    rw [hfirst] at heq hhead
    exact hhead (congrArg some (List.cons.inj heq).1)

theorem readFraction_of_continues {rest : List Char} (hrest : Continues rest) :
    readFraction rest = some ([], rest) := by
  rw [readFraction]
  rintro after rfl
  exact (hrest '.' rfl).2.1 rfl

theorem readExponent_of_continues {rest : List Char} (hrest : Continues rest) :
    readExponent rest = some ([], rest) := by
  cases rest with
  | nil => rfl
  | cons c after =>
      have hc : ¬ (c = 'e' ∨ c = 'E') := not_or.mpr (hrest c rfl).2.2
      rw [readExponent.eq_def]
      simp only [hc, ↓reduceIte]

/-- An integer is read back from its digits. -/
theorem readNumber_integerText (value : Int) {rest : List Char} (hrest : Continues rest) :
    readNumber (integerText value ++ rest) = some (.integer value, rest) := by
  have hmagnitude : Nat.ofDigitChars 10 (Nat.toDigits 10 value.natAbs) 0 = value.natAbs :=
    Nat.ofDigitChars_toDigits (by decide) (by decide)
  have hwhole := readWhole_toDigits value.natAbs hrest
  unfold integerText
  split
  next hnegative =>
    have hvalue : numberValue true (Nat.toDigits 10 value.natAbs) [] [] = .integer value := by
      have hne : (value.natAbs == 0) = false := by simp; omega
      simp only [numberValue, hmagnitude, hne, List.isEmpty_nil, Bool.and_false, Bool.not_false,
        Bool.and_self, ↓reduceIte, Value.integer.injEq]
      omega
    rw [List.cons_append]
    simp only [readNumber, hwhole, readFraction_of_continues hrest, readExponent_of_continues hrest,
      hvalue, Option.bind_eq_bind, Option.bind_some, Option.pure_def]
  next hpositive =>
    have hvalue : numberValue false (Nat.toDigits 10 value.natAbs) [] [] = .integer value := by
      simp only [numberValue, hmagnitude, List.isEmpty_nil, Bool.false_and, Bool.not_false,
        Bool.and_self, Bool.false_eq_true, ↓reduceIte, Value.integer.injEq]
      omega
    obtain ⟨first, later, hfirst, hdigit⟩ := Text.exists_toDigits_eq_cons value.natAbs
    have hsign : first ≠ '-' := by
      rintro rfl
      contradiction
    rw [hfirst] at hwhole hvalue ⊢
    rw [List.cons_append] at hwhole ⊢
    simp [readNumber, hsign, hwhole, readFraction_of_continues hrest,
      readExponent_of_continues hrest, hvalue]

/-! ## Blanks -/

/-- Blanks, which may stand around every value. -/
def AreBlanks (blanks : List Char) : Prop := ∀ c ∈ blanks, isBlank c = true

theorem areBlanks_nil : AreBlanks [] := by
  intro c hc
  contradiction

theorem areBlanks_newline (level : Nat) : AreBlanks (newline level) := by
  intro c hc
  rcases List.mem_cons.mp hc with rfl | hspace
  · rfl
  · rw [(List.mem_replicate.mp hspace).2]
    rfl

theorem skipBlanks_append {blanks : List Char} (hblanks : AreBlanks blanks) (text : List Char) :
    skipBlanks (blanks ++ text) = skipBlanks text :=
  List.dropWhile_append_of_pos hblanks

theorem readValue_blanks {blanks : List Char} (hblanks : AreBlanks blanks) (fuel : Nat)
    (text : List Char) : readValue fuel (blanks ++ text) = readValue fuel text := by
  cases fuel with
  | zero => rfl
  | succ fuel => rw [readValue, readValue, skipBlanks_append hblanks]

theorem continues_append {blanks text : List Char} (hblanks : AreBlanks blanks)
    (htext : Continues text) : Continues (blanks ++ text) := by
  cases blanks with
  | nil => exact htext
  | cons c later =>
      intro first hfirst
      cases Option.some.inj hfirst
      have hblank := hblanks c List.mem_cons_self
      simp only [isBlank, Bool.or_eq_true, beq_iff_eq] at hblank
      rcases hblank with ((rfl | rfl) | rfl) | rfl <;> decide

theorem continues_cons {c : Char} (hc : c = ',' ∨ c = ']' ∨ c = '\x7d') (rest : List Char) :
    Continues (c :: rest) := by
  intro first hfirst
  cases Option.some.inj hfirst
  rcases hc with rfl | rfl | rfl <;> decide

/-! ## Values -/

/-- A text is read as a value wherever it stands, if the fuel suffices and no number goes on
behind it. -/
structure Reads (text : List Char) (value : Value) : Prop where
  start : ∃ first later, text = first :: later ∧ isBlank first = false ∧ first ≠ ']'
  read : ∀ fuel rest, 2 * text.length ≤ fuel → Continues rest →
    readValue fuel (text ++ rest) = some (value, rest)

/-- A text with its closing bracket is read as the items of an array. -/
structure ReadsItems (text : List Char) (items : List Value) : Prop where
  start : ∀ rest, ∃ first later, skipBlanks (text ++ rest) = first :: later ∧ first ≠ ']'
  read : ∀ fuel rest, 2 * text.length ≤ fuel →
    readItems fuel (text ++ rest) = some (items, rest)

/-- A text with its closing brace is read as the entries of a table. -/
structure ReadsEntries (text : List Char) (entries : List (String × Value)) : Prop where
  start : ∀ rest, ∃ later, skipBlanks (text ++ rest) = '"' :: later
  read : ∀ fuel rest, 2 * text.length ≤ fuel →
    readEntries fuel (text ++ rest) = some (some entries, rest)

theorem Reads.skipBlanks_eq {text : List Char} {value : Value} (hreads : Reads text value)
    (rest : List Char) : skipBlanks (text ++ rest) = text ++ rest := by
  obtain ⟨first, later, rfl, hblank, -⟩ := hreads.start
  simp [skipBlanks, hblank]

/-- A whole text is read as its value, and so it is with blanks behind it. -/
theorem Reads.read_append {text blanks : List Char} {value : Value} (hreads : Reads text value)
    (hblanks : AreBlanks blanks) : Json.read (text ++ blanks) = some value := by
  have hrest : Continues blanks := by
    simpa using continues_append hblanks continues_nil
  have hskip : skipBlanks blanks = [] := by
    simpa [skipBlanks] using skipBlanks_append hblanks []
  have hread := hreads.read (2 * (text ++ blanks).length + 2) blanks (by simp; omega) hrest
  rw [Json.read, hread]
  simp [hskip]

theorem reads_null : Reads "null".toList .null where
  start := ⟨'n', _, rfl, rfl, by decide⟩
  read fuel rest hfuel _ := by
    cases fuel with
    | zero => contradiction
    | succ fuel => rfl

theorem reads_bool (value : Bool) : Reads (compact (.bool value)) (.bool value) := by
  cases value with
  | false =>
      refine ⟨⟨'f', _, rfl, rfl, by decide⟩, fun fuel rest hfuel _ => ?_⟩
      cases fuel with
      | zero => contradiction
      | succ fuel => rfl
  | true =>
      refine ⟨⟨'t', _, rfl, rfl, by decide⟩, fun fuel rest hfuel _ => ?_⟩
      cases fuel with
      | zero => contradiction
      | succ fuel => rfl

theorem reads_quote (text : String) : Reads (quote text) (.text text) where
  start := ⟨'"', _, rfl, rfl, by decide⟩
  read fuel rest hfuel _ := by
    cases fuel with
    | zero => contradiction
    | succ fuel =>
        have hquoted := readQuoted_escape text rest
        have htext : quote text ++ rest =
            '"' :: (text.toList.flatMap escapeChar ++ '"' :: rest) := by simp [quote]
        have hopen (later : List Char) : skipBlanks ('"' :: later) = '"' :: later := rfl
        rw [htext, readValue, hopen]
        simp only [hquoted, Option.bind_eq_bind, Option.bind_some, Option.pure_def, textValue,
          Option.elim_some, String.ofList_toList]

/-- What starts a number starts nothing else. -/
theorem ne_of_number {first c : Char} (hfirst : first = '-' ∨ first.isDigit = true)
    (hsign : c ≠ '-') (hdigit : c.isDigit = false) : first ≠ c := by
  rintro rfl
  rcases hfirst with rfl | hyes
  · exact hsign rfl
  · rw [hdigit] at hyes
    contradiction

theorem isBlank_of_number {first : Char} (hfirst : first = '-' ∨ first.isDigit = true) :
    isBlank first = false := by
  have hother {c : Char} (hsign : c ≠ '-') (hdigit : c.isDigit = false) : (first == c) = false :=
    beq_eq_false_iff_ne.mpr (ne_of_number hfirst hsign hdigit)
  rw [isBlank, hother (by decide) rfl, hother (by decide) rfl, hother (by decide) rfl,
    hother (by decide) rfl]
  rfl

theorem readValue_of_number {first : Char} (hfirst : first = '-' ∨ first.isDigit = true)
    (fuel : Nat) (later : List Char) :
    readValue (fuel + 1) (first :: later) = readNumber (first :: later) := by
  have hskip : skipBlanks (first :: later) = first :: later := by
    simp [skipBlanks, isBlank_of_number hfirst]
  rw [readValue, hskip]
  split
  case h_7 => rfl
  all_goals
    next heq => exact absurd (List.cons.inj heq).1 (ne_of_number hfirst (by decide) (by decide))

theorem exists_integerText_eq_cons (value : Int) :
    ∃ first later, integerText value = first :: later ∧
      (first = '-' ∨ first.isDigit = true) := by
  unfold integerText
  split
  next => exact ⟨'-', _, rfl, .inl rfl⟩
  next =>
    obtain ⟨first, later, hdigits, hdigit⟩ := Text.exists_toDigits_eq_cons value.natAbs
    exact ⟨first, later, hdigits, .inr hdigit⟩

theorem reads_integer (value : Int) : Reads (integerText value) (.integer value) := by
  obtain ⟨first, later, htext, hfirst⟩ := exists_integerText_eq_cons value
  refine ⟨⟨first, later, htext, isBlank_of_number hfirst,
    ne_of_number hfirst (by decide) (by decide)⟩, fun fuel rest hfuel hrest => ?_⟩
  cases fuel with
  | zero => simp [htext] at hfuel
  | succ fuel =>
      have hread := readNumber_integerText value hrest
      rw [htext, List.cons_append] at hread ⊢
      rw [readValue_of_number hfirst, hread]

/-! ## Arrays and tables -/

theorem reads_emptyArray : Reads ['[', ']'] (.array []) where
  start := ⟨'[', _, rfl, rfl, by decide⟩
  read fuel rest hfuel _ := by
    cases fuel with
    | zero => contradiction
    | succ fuel => rfl

theorem reads_array {text : List Char} {items : List Value} (hitems : ReadsItems text items) :
    Reads ('[' :: text) (.array items) where
  start := ⟨'[', _, rfl, rfl, by decide⟩
  read fuel rest hfuel _ := by
    cases fuel with
    | zero => contradiction
    | succ fuel =>
        obtain ⟨first, later, hskip, hfirst⟩ := hitems.start rest
        have hread := hitems.read fuel rest (by simp at hfuel; omega)
        have hopen : skipBlanks ('[' :: (text ++ rest)) = '[' :: (text ++ rest) := rfl
        rw [List.cons_append, readValue, hopen]
        simp [hskip, hfirst, hread]

section

variable {blanks gap text after rest : List Char} {item value : Value} {items : List Value}
variable {entries : List (String × Value)}

theorem Reads.exists_first (hreads : Reads text value) (hblanks : AreBlanks blanks)
    (rest : List Char) :
    ∃ first later, skipBlanks (blanks ++ (text ++ rest)) = first :: later ∧ first ≠ ']' := by
  rw [skipBlanks_append hblanks, hreads.skipBlanks_eq]
  obtain ⟨first, later, rfl, -, hfirst⟩ := hreads.start
  exact ⟨first, later ++ rest, rfl, hfirst⟩

/-- The last item of an array, with the closing bracket. -/
theorem readsItems_last (hblanks : AreBlanks blanks) (hitem : Reads text item)
    (hafter : AreBlanks after) : ReadsItems (blanks ++ (text ++ (after ++ [']']))) [item] where
  start rest := by
    simp only [List.append_assoc]
    exact hitem.exists_first hblanks _
  read fuel rest hfuel := by
    cases fuel with
    | zero => simp at hfuel
    | succ fuel =>
        have hrest : Continues (after ++ ']' :: rest) :=
          continues_append hafter (continues_cons (.inr (.inl rfl)) rest)
        have hread := hitem.read fuel (after ++ ']' :: rest) (by simp at hfuel; omega) hrest
        have hclose : skipBlanks (after ++ ']' :: rest) = ']' :: rest := skipBlanks_append hafter _
        simp only [List.append_assoc, List.singleton_append]
        rw [readItems, readValue_blanks hblanks, hread]
        simp [hclose]

theorem readsItems_cons (hblanks : AreBlanks blanks) (hitem : Reads text item)
    (hitems : ReadsItems rest items) :
    ReadsItems (blanks ++ (text ++ ',' :: rest)) (item :: items) where
  start later := by
    simp only [List.append_assoc]
    exact hitem.exists_first hblanks _
  read fuel later hfuel := by
    cases fuel with
    | zero => simp at hfuel
    | succ fuel =>
        have hread := hitem.read fuel (',' :: (rest ++ later)) (by simp at hfuel; omega)
          (continues_cons (.inl rfl) _)
        have hlater := hitems.read fuel later (by simp at hfuel; omega)
        have hcomma : skipBlanks (',' :: (rest ++ later)) = ',' :: (rest ++ later) := rfl
        simp only [List.append_assoc, List.cons_append]
        rw [readItems, readValue_blanks hblanks, hread]
        simp [hcomma, hlater]

theorem reads_emptyTable : Reads ['\x7b', '\x7d'] (.table []) where
  start := ⟨'\x7b', _, rfl, rfl, by decide⟩
  read fuel rest hfuel _ := by
    cases fuel with
    | zero => contradiction
    | succ fuel => rfl

theorem reads_table (hentries : ReadsEntries text entries) :
    Reads ('\x7b' :: text) (.table entries) where
  start := ⟨'\x7b', _, rfl, rfl, by decide⟩
  read fuel rest hfuel _ := by
    cases fuel with
    | zero => contradiction
    | succ fuel =>
        obtain ⟨later, hskip⟩ := hentries.start rest
        have hread := hentries.read fuel rest (by simp at hfuel; omega)
        have hopen : skipBlanks ('\x7b' :: (text ++ rest)) = '\x7b' :: (text ++ rest) := rfl
        rw [List.cons_append, readValue, hopen]
        simp [hskip, hread]

theorem exists_skipBlanks_key (hblanks : AreBlanks blanks) (key : String) (rest : List Char) :
    ∃ later, skipBlanks (blanks ++ (quote key ++ rest)) = '"' :: later := by
  rw [skipBlanks_append hblanks]
  exact ⟨_, rfl⟩

/-- An entry is read up to what stands behind its value. -/
theorem readEntries_entry (key : String) (hblanks : AreBlanks blanks) (hgap : AreBlanks gap)
    {fuel : Nat} (hread : readValue fuel (text ++ rest) = some (value, rest)) :
    readEntries (fuel + 1) (blanks ++ (quote key ++ ':' :: (gap ++ (text ++ rest)))) =
      match skipBlanks rest with
      | '\x7d' :: rest => some (pushEntry (some key.toList) value (some []), rest)
      | ',' :: rest => do
          let (entries, rest) ← readEntries fuel rest
          return (pushEntry (some key.toList) value entries, rest)
      | _ => none := by
  have hquote : quote key ++ ':' :: (gap ++ (text ++ rest)) =
      '"' :: (key.toList.flatMap escapeChar ++ '"' :: ':' :: (gap ++ (text ++ rest))) := by
    simp [quote]
  have hopen (later : List Char) : skipBlanks ('"' :: later) = '"' :: later := rfl
  have hcolon (later : List Char) : skipBlanks (':' :: later) = ':' :: later := rfl
  rw [readEntries, skipBlanks_append hblanks, hquote, hopen]
  simp only [readQuoted_escape, hcolon, readValue_blanks hgap, hread, Option.bind_eq_bind,
    Option.bind_some]
  rfl

/-- The last entry of a table, with the closing brace. -/
theorem readsEntries_last (key : String) (hblanks : AreBlanks blanks) (hgap : AreBlanks gap)
    (hvalue : Reads text value) (hafter : AreBlanks after) :
    ReadsEntries (blanks ++ (quote key ++ ':' :: (gap ++ (text ++ (after ++ ['\x7d'])))))
      [(key, value)] where
  start rest := by
    simp only [List.append_assoc]
    exact exists_skipBlanks_key hblanks key _
  read fuel rest hfuel := by
    cases fuel with
    | zero => simp at hfuel
    | succ fuel =>
        have hrest : Continues (after ++ '\x7d' :: rest) :=
          continues_append hafter (continues_cons (.inr (.inr rfl)) rest)
        have hread := hvalue.read fuel (after ++ '\x7d' :: rest) (by simp at hfuel; omega) hrest
        have hclose : skipBlanks (after ++ '\x7d' :: rest) = '\x7d' :: rest :=
          skipBlanks_append hafter _
        simp only [List.append_assoc, List.cons_append, List.nil_append]
        rw [readEntries_entry key hblanks hgap hread, hclose]
        simp [pushEntry]

theorem readsEntries_cons (key : String) (hblanks : AreBlanks blanks) (hgap : AreBlanks gap)
    (hvalue : Reads text value) (hentries : ReadsEntries rest entries) :
    ReadsEntries (blanks ++ (quote key ++ ':' :: (gap ++ (text ++ ',' :: rest))))
      ((key, value) :: entries) where
  start later := by
    simp only [List.append_assoc]
    exact exists_skipBlanks_key hblanks key _
  read fuel later hfuel := by
    cases fuel with
    | zero => simp at hfuel
    | succ fuel =>
        have hread := hvalue.read fuel (',' :: (rest ++ later)) (by simp at hfuel; omega)
          (continues_cons (.inl rfl) _)
        have hlater := hentries.read fuel later (by simp at hfuel; omega)
        have hcomma : skipBlanks (',' :: (rest ++ later)) = ',' :: (rest ++ later) := rfl
        simp only [List.append_assoc, List.cons_append]
        rw [readEntries_entry key hblanks hgap hread, hcomma]
        simp [hlater, pushEntry]

end

/-! ## Written values -/

/-- A value that JSON knows: it has no date-times, no fractional numbers and nothing unreadable
in it. -/
inductive Plain : Value → Prop where
  | null : Plain .null
  | bool (value : Bool) : Plain (.bool value)
  | integer (value : Int) : Plain (.integer value)
  | text (value : String) : Plain (.text value)
  | array {items : List Value} (hitems : ∀ item ∈ items, Plain item) : Plain (.array items)
  | table {entries : List (String × Value)} (hentries : ∀ entry ∈ entries, Plain entry.2) :
      Plain (.table entries)

/-! ### Over lines -/

theorem readsItems_pretty (level outer : Nat) {item : Value} {rest : List Value}
    (hitems : ∀ value ∈ item :: rest, Reads (pretty level value) value) :
    ReadsItems (prettyItems level (item :: rest) ++ newline outer ++ [']']) (item :: rest) := by
  have hitem := hitems item List.mem_cons_self
  induction rest generalizing item with
  | nil =>
      have hlast := readsItems_last (areBlanks_newline level) hitem (areBlanks_newline outer)
      simpa only [prettyItems, List.append_assoc] using hlast
  | cons next rest ih =>
      have hrest := ih (fun value hvalue => hitems value (List.mem_cons_of_mem _ hvalue))
        (hitems next (List.mem_cons_of_mem _ List.mem_cons_self))
      have hcons := readsItems_cons (areBlanks_newline level) hitem hrest
      simpa only [prettyItems, List.append_assoc, List.cons_append] using hcons

theorem readsEntries_pretty (level outer : Nat) {entry : String × Value}
    {rest : List (String × Value)}
    (hentries : ∀ other ∈ entry :: rest, Reads (pretty level other.2) other.2) :
    ReadsEntries (prettyEntries level (entry :: rest) ++ newline outer ++ ['\x7d'])
      (entry :: rest) := by
  have hgap : AreBlanks [' '] := List.forall_mem_singleton.mpr rfl
  have hentry := hentries entry List.mem_cons_self
  induction rest generalizing entry with
  | nil =>
      have hlast := readsEntries_last entry.1 (areBlanks_newline level) hgap hentry
        (areBlanks_newline outer)
      simpa only [prettyEntries, List.append_assoc, List.cons_append, List.nil_append] using hlast
  | cons next rest ih =>
      have hrest := ih (fun other hother => hentries other (List.mem_cons_of_mem _ hother))
        (hentries next (List.mem_cons_of_mem _ List.mem_cons_self))
      have hcons := readsEntries_cons entry.1 (areBlanks_newline level) hgap hentry hrest
      simpa only [prettyEntries, List.append_assoc, List.cons_append, List.nil_append] using hcons

theorem Plain.reads_pretty {value : Value} (hplain : Plain value) (level : Nat) :
    Reads (pretty level value) value := by
  induction hplain generalizing level with
  | null => exact reads_null
  | bool value => exact reads_bool value
  | integer value => exact reads_integer value
  | text value => exact reads_quote value
  | @array items hitems ih =>
      cases items with
      | nil => exact reads_emptyArray
      | cons item rest =>
          exact reads_array (readsItems_pretty (level + 1) level fun value hvalue =>
            ih value hvalue (level + 1))
  | @table entries hentries ih =>
      cases entries with
      | nil => exact reads_emptyTable
      | cons entry rest =>
          exact reads_table (readsEntries_pretty (level + 1) level fun other hother =>
            ih other hother (level + 1))

/-- What is written over lines is read back, whatever blanks stand behind it. -/
theorem Plain.read_prettyText_append {value : Value} (hplain : Plain value) {blanks : List Char}
    (hblanks : AreBlanks blanks) :
    Json.read ((prettyText value).toList ++ blanks) = some value := by
  rw [prettyText, String.toList_ofList]
  exact (hplain.reads_pretty 0).read_append hblanks

theorem Plain.read_prettyText {value : Value} (hplain : Plain value) :
    Json.read (prettyText value).toList = some value := by
  have hread := hplain.read_prettyText_append areBlanks_nil
  rwa [List.append_nil] at hread

/-! ### On one line -/

theorem readsItems_compact {item : Value} {rest : List Value}
    (hitems : ∀ value ∈ item :: rest, Reads (compact value) value) :
    ReadsItems (compactItems (item :: rest) ++ [']']) (item :: rest) := by
  have hitem := hitems item List.mem_cons_self
  induction rest generalizing item with
  | nil => exact readsItems_last areBlanks_nil hitem areBlanks_nil
  | cons next rest ih =>
      have hrest := ih (fun value hvalue => hitems value (List.mem_cons_of_mem _ hvalue))
        (hitems next (List.mem_cons_of_mem _ List.mem_cons_self))
      have hcons := readsItems_cons areBlanks_nil hitem hrest
      simpa only [compactItems, List.append_assoc, List.cons_append, List.nil_append] using hcons

theorem readsEntries_compact {entry : String × Value} {rest : List (String × Value)}
    (hentries : ∀ other ∈ entry :: rest, Reads (compact other.2) other.2) :
    ReadsEntries (compactEntries (entry :: rest) ++ ['\x7d']) (entry :: rest) := by
  have hentry := hentries entry List.mem_cons_self
  induction rest generalizing entry with
  | nil =>
      have hlast := readsEntries_last entry.1 areBlanks_nil areBlanks_nil hentry areBlanks_nil
      simpa only [compactEntries, List.append_assoc, List.cons_append, List.nil_append] using hlast
  | cons next rest ih =>
      have hrest := ih (fun other hother => hentries other (List.mem_cons_of_mem _ hother))
        (hentries next (List.mem_cons_of_mem _ List.mem_cons_self))
      have hcons := readsEntries_cons entry.1 areBlanks_nil areBlanks_nil hentry hrest
      simpa only [compactEntries, List.append_assoc, List.cons_append, List.nil_append] using hcons

theorem Plain.reads_compact {value : Value} (hplain : Plain value) :
    Reads (compact value) value := by
  induction hplain with
  | null => exact reads_null
  | bool value => exact reads_bool value
  | integer value => exact reads_integer value
  | text value => exact reads_quote value
  | @array items hitems ih =>
      cases items with
      | nil => exact reads_emptyArray
      | cons item rest => exact reads_array (readsItems_compact ih)
  | @table entries hentries ih =>
      cases entries with
      | nil => exact reads_emptyTable
      | cons entry rest => exact reads_table (readsEntries_compact ih)

/-- What is written on one line is read back. -/
theorem Plain.read_compactText {value : Value} (hplain : Plain value) :
    Json.read (compactText value).toList = some value := by
  rw [compactText, String.toList_ofList]
  have hread := hplain.reads_compact.read_append areBlanks_nil
  rwa [List.append_nil] at hread

end RadioAdapter.Json
