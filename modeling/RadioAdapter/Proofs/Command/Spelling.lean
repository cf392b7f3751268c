import RadioAdapter.Command.Report
import RadioAdapter.Proofs.Hex

/-! # What counts in a hexadecimal argument

The command reads the digits of its argument and takes no account of how they are laid out: the
case of a letter, a `0x` in front and white space wherever it stands make no difference. A text
that is anything else is refused for its digits, whatever record they might have been meant for.
-/

namespace RadioAdapter

/-! ## White space -/

/-- The second list is the first one with white space inserted at any positions. -/
inductive Text.Spaced : List Char → List Char → Prop where
  | nil : Spaced [] []
  | char (c : Char) {plain text : List Char} (h : Spaced plain text) : Spaced (c :: plain) (c :: text)
  | blank {c : Char} (hc : isBlank c = true) {plain text : List Char} (h : Spaced plain text) :
      Spaced plain (c :: text)

namespace Text

variable {plain text : List Char}

/-- Taking the white space out again gives what it was inserted into. -/
theorem Spaced.filter_eq (h : Spaced plain text) (hplain : ∀ c ∈ plain, isBlank c = false) :
    text.filter (!isBlank ·) = plain := by
  induction h with
  | nil => rfl
  | char c h ih =>
      obtain ⟨hc, hrest⟩ := List.forall_mem_cons.mp hplain
      rw [List.filter_cons_of_pos (by simpa using hc), ih hrest]
  | blank hc h ih => rw [List.filter_cons_of_neg (by simpa using hc), ih hplain]

theorem spaced_filter (text : List Char) : Spaced (text.filter (!isBlank ·)) text := by
  induction text with
  | nil => exact .nil
  | cons c rest ih =>
      by_cases hc : isBlank c = true
      · rw [List.filter_cons_of_neg (by simpa using hc)]
        exact .blank hc ih
      · rw [List.filter_cons_of_pos (by simpa using hc)]
        exact .char c ih

theorem Spaced.refl : ∀ text : List Char, Spaced text text
  | [] => .nil
  | c :: rest => .char c (.refl rest)

theorem isBlank_of_mem_filter (text : List Char) :
    ∀ c ∈ text.filter (!isBlank ·), isBlank c = false := by
  intro c hc
  simpa using (List.mem_filter.mp hc).2

end Text

namespace Command

/-! ## What is left of an argument -/

/-- What is left of a text without its white space and without one `0x` in front. -/
def Leaves (text : String) (rest : List Char) : Prop :=
  ∃ solid, Text.Spaced solid text.toList ∧ (∀ c ∈ solid, Text.isBlank c = false) ∧
    (solid = '0' :: 'x' :: rest ∨ solid = rest ∧ ¬ ['0', 'x'] <+: rest)

/-- A text spells bytes: it is made of their digits, each in either case, by putting at most one
`0x` in front and inserting white space. -/
def Spells (text : String) (data : Bytes) : Prop :=
  ∃ lead written, (lead = [] ∨ lead = ['0', 'x']) ∧ Hex.Writes written data ∧
    Text.Spaced (lead ++ written) text.toList

section

variable {text : String} {rest : List Char} {data : Bytes}

theorem hexPart_of_filter_marked
    (hfilter : text.toList.filter (!Text.isBlank ·) = '0' :: 'x' :: rest) :
    hexPart text = String.ofList rest := by
  simp only [hexPart, hfilter]

theorem hexPart_of_filter_plain (hfilter : text.toList.filter (!Text.isBlank ·) = rest)
    (hplain : ¬ ['0', 'x'] <+: rest) : hexPart text = String.ofList rest := by
  rw [hexPart, hfilter]
  split
  next _ later => exact absurd ⟨later, rfl⟩ hplain
  next => rfl

theorem leaves_iff : Leaves text rest ↔ rest = (hexPart text).toList := by
  constructor
  · rintro ⟨solid, hspaced, hsolid, hfront⟩
    have hfilter := hspaced.filter_eq hsolid
    rcases hfront with rfl | ⟨rfl, hplain⟩
    · rw [hexPart_of_filter_marked hfilter, String.toList_ofList]
    · rw [hexPart_of_filter_plain hfilter hplain, String.toList_ofList]
  · rintro rfl
    refine ⟨_, Text.spaced_filter text.toList, Text.isBlank_of_mem_filter text.toList, ?_⟩
    by_cases hmarked : ['0', 'x'] <+: text.toList.filter (!Text.isBlank ·)
    · obtain ⟨later, hlater⟩ := hmarked
      rw [hexPart_of_filter_marked hlater.symm, String.toList_ofList]
      exact .inl hlater.symm
    · rw [hexPart_of_filter_plain rfl hmarked, String.toList_ofList]
      exact .inr ⟨rfl, hmarked⟩

/-- Digits are no white space, and no `x` is among them. -/
theorem hexPart_of_spells (hspells : Spells text data) :
    ∃ written, Hex.Writes written data ∧ hexPart text = String.ofList written := by
  obtain ⟨lead, written, hlead, hwrites, hspaced⟩ := hspells
  have hsolid : ∀ c ∈ written, Text.isBlank c = false := hwrites.forall_mem (by decide +kernel)
  have hplain : ∀ c ∈ written, c ≠ 'x' := hwrites.forall_mem (by decide +kernel)
  refine ⟨written, hwrites, ?_⟩
  rcases hlead with rfl | rfl
  · refine hexPart_of_filter_plain (hspaced.filter_eq hsolid) ?_
    rintro ⟨later, rfl⟩
    exact hplain 'x' (by simp) rfl
  · refine hexPart_of_filter_marked (hspaced.filter_eq ?_)
    exact List.forall_mem_cons.mpr ⟨rfl, List.forall_mem_cons.mpr ⟨rfl, hsolid⟩⟩

theorem spells_of_hexPart (hwrites : Hex.Writes (hexPart text).toList data) : Spells text data := by
  obtain ⟨solid, hspaced, -, rfl | ⟨rfl, -⟩⟩ := leaves_iff.mpr (rfl : _ = (hexPart text).toList)
  · exact ⟨['0', 'x'], _, .inr rfl, hwrites, hspaced⟩
  · exact ⟨[], _, .inl rfl, hwrites, hspaced⟩

theorem spells_encode (data : Bytes) : Spells (Hex.encode data) data := by
  refine ⟨[], Hex.digits data, .inl rfl, Hex.writes_digits data, ?_⟩
  rw [Hex.encode, String.toList_ofList]
  exact .refl _

/-! ## Reading -/

theorem hexBytes_of_spells (hspells : Spells text data) : hexBytes text = .ok data := by
  obtain ⟨written, hwrites, hpart⟩ := hexPart_of_spells hspells
  rw [hexBytes, hpart, Hex.decode_of_writes hwrites]

/-- An even number of digits is read, so a text that is left with such spells bytes. -/
theorem exists_spells (heven : (Text.utf8 (hexPart text)).length % 2 = 0)
    (hdigits : ∀ byte ∈ Text.utf8 (hexPart text), Hex.IsDigit byte) :
    ∃ data, Spells text data := by
  have hascii : Text.IsAscii (Text.utf8 (hexPart text)) := fun byte hbyte =>
    Hex.lt_of_isDigit (hdigits byte hbyte)
  obtain ⟨data, hwrites⟩ := Hex.exists_writes heven hdigits
  refine ⟨data, spells_of_hexPart ?_⟩
  rw [← Text.ofAscii_utf8 hascii, Text.ofAscii, String.toList_ofList]
  exact hwrites

theorem hexBytes_of_odd (hodd : (Text.utf8 (hexPart text)).length % 2 = 1) :
    hexBytes text = .error .oddLength :=
  if_pos hodd

theorem hexBytes_of_refused {before after : Bytes} {byte : UInt8}
    (heven : (Text.utf8 (hexPart text)).length % 2 = 0)
    (hsplit : Text.utf8 (hexPart text) = before ++ byte :: after)
    (hbefore : ∀ earlier ∈ before, Hex.IsDigit earlier) (hbyte : ¬ Hex.IsDigit byte) :
    hexBytes text = .error (.invalidByte byte before.length) := by
  have hnotOdd : ¬ (Text.utf8 (hexPart text)).length % 2 = 1 := by omega
  rw [hexBytes, Hex.decode, if_neg hnotOdd, hsplit,
    Hex.decodePairs_of_refused hbyte 0 (hsplit ▸ heven) hbefore, Nat.zero_add]

theorem decodeText_of_hexBytes_error {error : Hex.Error} (hbytes : hexBytes text = .error error) :
    decodeText text = .error (.hex error) := by
  simp only [decodeText, hbytes]

end

/-- The layout of an argument makes no difference: whatever spells bytes is decoded as their plain
lower-case digits are, and that is as the record that they hold or with the error that they have.
A text that spells no bytes fails for its digits alone. What is left of it is determined; an odd
number of bytes is reported first, and otherwise the first of them that is no digit. -/
theorem decodeText_takes_no_account_of_layout :
    (∀ text data, Spells text data →
      decodeText text = decodeText (Hex.encode data) ∧
        (∀ record, Record.decode data = .ok record →
          decodeText text = .ok (Json.prettyText (recordReport record))) ∧
        ∀ error, Record.decode data = .error error →
          ∃ failure, decodeText text = .error failure ∧ failure.message = error.message) ∧
      ∀ text, (∀ data, ¬ Spells text data) →
        ∃ rest failure, (∀ other, Leaves text other ↔ other = rest) ∧
          decodeText text = .error (.hex failure) ∧
          let bytes := Text.utf8 (String.ofList rest)
          (bytes.length % 2 = 1 → failure.message = "Odd number of digits") ∧
            (bytes.length % 2 = 0 →
              ∃ before byte after, bytes = before ++ byte :: after ∧
                (∀ earlier ∈ before, Hex.IsDigit earlier) ∧ ¬ Hex.IsDigit byte ∧
                failure.message = "Invalid character " ++
                  Text.quoteChar (Char.ofNat byte.toNat) ++ " at position " ++
                    toString before.length) := by
  constructor
  · intro text data hspells
    have hbytes := hexBytes_of_spells hspells
    have hplain := hexBytes_of_spells (spells_encode data)
    refine ⟨?_, ?_, ?_⟩
    · simp only [decodeText, hbytes, hplain]
    · intro record hrecord
      simp only [decodeText, hbytes, hrecord]
    · intro error herror
      refine ⟨.record error, ?_, rfl⟩
      simp only [decodeText, hbytes, herror]
  · intro text hnone
    have hleaves (other : List Char) : Leaves text other ↔ other = (hexPart text).toList := leaves_iff
    have hpart : String.ofList (hexPart text).toList = hexPart text := String.ofList_toList
    by_cases hodd : (Text.utf8 (hexPart text)).length % 2 = 1
    · refine ⟨_, _, hleaves, decodeText_of_hexBytes_error (hexBytes_of_odd hodd), ?_⟩
      rw [hpart]
      exact ⟨fun _ => rfl, fun heven => absurd hodd (by omega)⟩
    · have heven : (Text.utf8 (hexPart text)).length % 2 = 0 := by omega
      have hrefused : ¬ ∀ byte ∈ Text.utf8 (hexPart text), Hex.IsDigit byte := by
        intro hdigits
        obtain ⟨data, hspells⟩ := exists_spells heven hdigits
        exact hnone data hspells
      obtain ⟨before, byte, after, hsplit, hbefore, hbyte⟩ := Hex.exists_first_refused hrefused
      have hbytes := hexBytes_of_refused heven hsplit hbefore hbyte
      refine ⟨_, _, hleaves, decodeText_of_hexBytes_error hbytes, ?_⟩
      rw [hpart]
      exact ⟨fun hodd => absurd heven (by omega),
        fun _ => ⟨before, byte, after, hsplit, hbefore, hbyte, rfl⟩⟩

/-- A `0x` that is split by a tab, a byte that is split by a no-break space, and a capital digit;
and a second `0x`, which is none of the digits. -/
theorem decodeText_takes_no_account_of_layout_of_split_mark :
    let text := "0\tx7\u00a02 6D" ++
      "00000000000000000000000000000000000000000000000000000000000000000000"
    let data : Bytes := [114, 109] ++ List.replicate 34 0
    let refused := "0x0x1"
    Spells text data ∧
      decodeText text = .ok (Json.prettyText (recordReport (.teardown "rm"))) ∧
      (∀ data, ¬ Spells refused data) ∧ Leaves refused ['0', 'x', '1'] ∧
      ∃ failure, decodeText refused = .error (.hex failure) ∧
        failure.message = "Odd number of digits" := by
  intro text data refused
  have hwrites : (hexPart text).toList.map Char.toLower = Hex.digits data := by
    subst text data
    decide +kernel
  have hspells : Spells text data := spells_of_hexPart hwrites
  have hrecord : Record.decode data = .ok (.teardown "rm") := rfl
  have hrest : ['0', 'x', '1'] = (hexPart refused).toList := by
    subst refused
    decide +kernel
  have hrefused : hexBytes refused = .error .oddLength := by
    refine hexBytes_of_odd ?_
    subst refused
    decide +kernel
  have hnone : ∀ data, ¬ Spells refused data := by
    intro data hspells
    rw [hexBytes_of_spells hspells] at hrefused
    contradiction
  obtain ⟨hlayout, hfails⟩ := decodeText_takes_no_account_of_layout
  obtain ⟨-, hshown, -⟩ := hlayout text data hspells
  obtain ⟨rest, failure, hleaves, hdecode, hodd, -⟩ := hfails refused hnone
  have hleft := leaves_iff.mpr hrest
  obtain rfl := (hleaves _).mp hleft
  exact ⟨hspells, hshown _ hrecord, hnone, hleft, failure, hdecode, hodd (by decide)⟩

end Command

end RadioAdapter
