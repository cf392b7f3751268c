import RadioAdapter.Config.Source
import RadioAdapter.Net.RecordForm
import RadioAdapter.Proofs.Json.RoundTrip
import RadioAdapter.Radio.Form

/-! # Documents there and back

Records, bridge configurations and request codes are written as documents and read from
them. A field is found wherever it stands, so the order of the fields does not matter; and
as written JSON is read back, so is every value from its JSON text.
-/

namespace RadioAdapter

/-! ## Single values -/

namespace Value

theorem int32?_toInt (word : Int32) : int32? (.integer word.toInt) = some word := by
  have hlow := word.le_toInt
  have hhigh := word.toInt_lt
  rw [int32?, if_pos ⟨by omega, by omega⟩, Int32.ofInt_toInt]

theorem uint32?_toNat (word : UInt32) : uint32? (.integer word.toNat) = some word := by
  have hhigh := word.toNat_lt
  rw [uint32?, if_pos ⟨by omega, by omega⟩, Int.toNat_natCast, UInt32.ofNat_toNat]

/-- A list is read back item by item. -/
theorem mapM_map_eq_some {α β : Type} {write : α → β} {read : β → Option α}
    (hread : ∀ item, read (write item) = some item) (items : List α) :
    (items.map write).mapM read = some items := by
  induction items with
  | nil => rfl
  | cons item rest ih =>
      simp only [List.map_cons, List.mapM_cons, hread, ih, Option.bind_eq_bind, Option.bind_some,
        Option.pure_def]

theorem texts?_map_text (texts : List String) :
    texts? (.array (texts.map .text)) = some texts :=
  mapM_map_eq_some (fun text => (rfl : text? (.text text) = some text)) texts

/-! ## Fields in any order -/

/-- Two documents are one but for the order of the fields. -/
inductive Reorders : Value → Value → Prop where
  | refl (document : Value) : Reorders document document
  | table {entries fields : List (String × Value)} (hperm : entries.Perm fields) :
      Reorders (.table entries) (.table fields)

variable {entries fields : List (String × Value)} {name : String}

theorem Reorders.exists_entries {document : Value} (horder : document.Reorders (.table fields)) :
    ∃ entries, document = .table entries ∧ entries.Perm fields := by
  cases horder with
  | refl => exact ⟨fields, rfl, .refl fields⟩
  | table hperm => exact ⟨_, rfl, hperm⟩

theorem Reorders.plain {document value : Value} (horder : document.Reorders value)
    (hplain : Json.Plain value) : Json.Plain document := by
  cases horder with
  | refl => exact hplain
  | table hperm =>
      cases hplain with
      | table hentries => exact .table fun entry hentry => hentries entry (hperm.mem_iff.mp hentry)

/-- A field that stands once is found wherever it stands. -/
theorem allAt_of_perm {value : Value} (hperm : entries.Perm fields)
    (hfield : allAt name fields = [value]) : allAt name entries = [value] := by
  refine List.perm_singleton.mp ?_
  rw [← hfield]
  exact hperm.filterMap _

section

variable {α : Type} {read : Value → Option α} {value : Value} {result : α}

theorem field?_of_allAt (hfield : allAt name entries = [value]) (hread : read value = some result) :
    field? entries name read = .ok (some result) := by
  simp only [field?, hfield, hread]

theorem field_of_allAt (hfield : allAt name entries = [value]) (hread : read value = some result) :
    field entries name read = .ok result := by
  rw [field, field?_of_allAt hfield hread]
  rfl

theorem fieldD_of_allAt (hfield : allAt name entries = [value]) (hread : read value = some result)
    {default : α} : fieldD entries name read default = .ok result := by
  rw [fieldD, field?_of_allAt hfield hread]
  rfl

end

end Value

/-! ## Records -/

theorem Record.servers?_eq_some (dns0 dns1 : Int32) :
    servers? (.array [.integer dns0.toInt, .integer dns1.toInt]) = some (dns0, dns1) := by
  simp only [servers?, Value.int32?_toInt, Option.bind_eq_bind, Option.bind_some, Option.pure_def]

theorem Record.plain_toValue (record : Record) : Json.Plain record.toValue := by
  refine .table fun entry hentry => ?_
  simp only [List.mem_cons, List.not_mem_nil, or_false] at hentry
  rcases hentry with rfl | rfl | rfl | rfl | rfl
  · refine .array fun item hitem => ?_
    simp only [List.mem_cons, List.not_mem_nil, or_false] at hitem
    rcases hitem with rfl | rfl <;> exact .integer _
  · exact .integer _
  · exact .text _
  · exact .integer _
  · exact .integer _

/-- A record is read back from its document, in whatever order the fields stand. -/
theorem Record.ofValue_of_reorders {record : Record} {document : Value}
    (horder : document.Reorders record.toValue) : ofValue document = .ok record := by
  obtain ⟨entries, rfl, hperm⟩ := horder.exists_entries
  have hname : Value.field entries "ifname" Value.text? = .ok record.ifname :=
    Value.field_of_allAt (Value.allAt_of_perm hperm rfl) rfl
  have hipaddr : Value.field entries "ipaddr" Value.int32? = .ok record.ipaddr :=
    Value.field_of_allAt (Value.allAt_of_perm hperm rfl) (Value.int32?_toInt _)
  have hprefix : Value.field entries "prefix_length" Value.uint32? = .ok record.prefixLength :=
    Value.field_of_allAt (Value.allAt_of_perm hperm rfl) (Value.uint32?_toNat _)
  have hgateway : Value.field entries "gateway" Value.int32? = .ok record.gateway :=
    Value.field_of_allAt (Value.allAt_of_perm hperm rfl) (Value.int32?_toInt _)
  have hdns : Value.field entries "dns" servers? = .ok (record.dns0, record.dns1) :=
    Value.field_of_allAt (Value.allAt_of_perm hperm rfl) (servers?_eq_some _ _)
  simp only [ofValue, Value.fields, bind, Except.bind, hname, hipaddr, hprefix, hgateway, hdns]
  rfl

/-! ## Configurations -/

namespace Environment

/-- An entry whose name comes after all others is put at the end. -/
theorem insertEntry_of_forall_lt {entries : List (String × String)} {name : String}
    (hlast : ∀ entry ∈ entries, entry.1 < name) (value : String) :
    insertEntry name value entries = entries ++ [(name, value)] := by
  induction entries with
  | nil => rfl
  | cons first rest ih =>
      have hfirst := hlast first List.mem_cons_self
      have hrest := ih fun entry hentry => hlast entry (List.mem_cons_of_mem _ hentry)
      rw [insertEntry, if_neg (String.lt_asymm hfirst), if_pos hfirst, hrest]
      rfl

/-- Ascending entries that come after those of an environment are put behind them. -/
theorem entries_foldl_insert (environment : Environment) {entries : List (String × String)}
    (hascending : (environment.entries ++ entries).Pairwise (fun a b => a.1 < b.1)) :
    (entries.foldl (fun made entry => made.insert entry.1 entry.2) environment).entries =
      environment.entries ++ entries := by
  induction entries generalizing environment with
  | nil => simp
  | cons first rest ih =>
      have hinsert : (environment.insert first.1 first.2).entries =
          environment.entries ++ [first] := by
        refine insertEntry_of_forall_lt (fun entry hentry => ?_) first.2
        exact (List.pairwise_append.mp hascending).2.2 entry hentry first List.mem_cons_self
      have hmoved : environment.entries ++ first :: rest =
          (environment.insert first.1 first.2).entries ++ rest := by
        rw [hinsert, List.append_assoc, List.singleton_append]
      rw [hmoved] at hascending ⊢
      exact ih (environment.insert first.1 first.2) hascending

theorem eq_of_entries {environment other : Environment}
    (hentries : environment.entries = other.entries) : environment = other := by
  cases environment
  cases other
  cases hentries
  rfl

theorem ofList_entries (environment : Environment) : ofList environment.entries = environment :=
  eq_of_entries (entries_foldl_insert empty environment.ascending)

/-- An environment is read back from its document. -/
theorem ofValue?_toValue (environment : Environment) :
    ofValue? environment.toValue = some environment := by
  have hentry (entry : String × String) :
      entry? (entry.1, Value.text entry.2) = some entry := rfl
  rw [toValue, ofValue?, Value.mapM_map_eq_some hentry, Option.map_some, ofList_entries]

theorem plain_toValue (environment : Environment) : Json.Plain environment.toValue := by
  refine .table fun entry hentry => ?_
  obtain ⟨named, -, rfl⟩ := List.mem_map.mp hentry
  exact .text named.2

end Environment

theorem plain_texts (texts : List String) : Json.Plain (.array (texts.map .text)) := by
  refine .array fun item hitem => ?_
  obtain ⟨text, -, rfl⟩ := List.mem_map.mp hitem
  exact .text text

theorem BridgeConfig.plain_toValue (config : BridgeConfig) : Json.Plain config.toValue := by
  refine .table fun entry hentry => ?_
  simp only [List.mem_cons, List.not_mem_nil, or_false] at hentry
  rcases hentry with rfl | rfl | rfl | rfl | rfl
  · exact .text _
  · exact config.environment.plain_toValue
  · exact .text _
  · exact .bool _
  · exact plain_texts _

/-- A configuration is read back from its document, in whatever order the fields stand. -/
theorem BridgeConfig.ofValue_of_reorders {config : BridgeConfig} {document : Value}
    (horder : document.Reorders config.toValue) : ofValue document = .ok config := by
  obtain ⟨entries, rfl, hperm⟩ := horder.exists_entries
  have hclasspath (default : String) :
      Value.fieldD entries "classpath" Value.text? default = .ok config.classpath :=
    Value.fieldD_of_allAt (Value.allAt_of_perm hperm rfl) (by rfl)
  have hclass (default : String) :
      Value.fieldD entries "hosted_class" Value.text? default = .ok config.hostedClass :=
    Value.fieldD_of_allAt (Value.allAt_of_perm hperm rfl) (by rfl)
  have hoptions (default : List String) :
      Value.fieldD entries "runtime_options" Value.texts? default = .ok config.runtimeOptions :=
    Value.fieldD_of_allAt (Value.allAt_of_perm hperm rfl) (Value.texts?_map_text _)
  have hignore (default : Bool) :
      Value.fieldD entries "ignore_unrecognized" Value.bool? default =
        .ok config.ignoreUnrecognized :=
    Value.fieldD_of_allAt (Value.allAt_of_perm hperm rfl) (by rfl)
  have henv (default : Environment) :
      Value.fieldD entries "env" Environment.ofValue? default = .ok config.environment :=
    Value.fieldD_of_allAt (Value.allAt_of_perm hperm rfl) (Environment.ofValue?_toValue _)
  simp only [ofValue, Value.fields, ofFields, bind, Except.bind, hclasspath, hclass, hoptions,
    hignore, henv]
  rfl

/-! ## Codes -/

theorem RequestCode.ofValue?_toValue (code : RequestCode) :
    ofValue? code.toValue = some code := by
  rw [toValue, ofValue?, Value.int32?_toInt, Option.map_some]

/-! ## Forms -/

/-- A kind of value that has a document form: how a value is written, and how one is read. -/
structure Form (α : Type) where
  write : α → Value
  read? : Value → Option α

namespace Form

variable {α : Type}

/-- A text is a JSON text of a value: its document, with the fields in whatever order, on one
line or spread over lines. -/
def Writes (form : Form α) (value : α) (text : String) : Prop :=
  ∃ document : Value, document.Reorders (form.write value) ∧
    (text = Json.compactText document ∨ text = Json.prettyText document)

/-- Read a value from its JSON text. -/
def ofText? (form : Form α) (text : String) : Option α :=
  (Json.read text.toList).bind form.read?

/-- JSON knows every document that is written, and it is read back in whatever order its fields
stand. -/
structure Lawful (form : Form α) : Prop where
  plain (value : α) : Json.Plain (form.write value)
  read (value : α) (document : Value) (horder : document.Reorders (form.write value)) :
    form.read? document = some value

/-- JSON texts are faithful to the values of a kind. -/
structure RoundTrips (form : Form α) : Prop where
  compact (value : α) : form.Writes value (Json.compactText (form.write value))
  pretty (value : α) : form.Writes value (Json.prettyText (form.write value))
  read_back (value : α) (text : String) (hwrites : form.Writes value text) :
    form.ofText? text = some value
  /-- Whatever text a value was read from, written again it is read as the same value. -/
  rewritten (source : String) (value : α) (hsource : form.ofText? source = some value)
    (text : String) (hwrites : form.Writes value text) : form.ofText? text = form.ofText? source
  unique (value other : α) (text : String) (hwrites : form.Writes value text)
    (hother : form.Writes other text) : value = other

theorem Lawful.ofText?_of_writes {form : Form α} (hlawful : form.Lawful) {value : α}
    {text : String} (hwrites : form.Writes value text) : form.ofText? text = some value := by
  obtain ⟨document, horder, htext⟩ := hwrites
  have hplain : Json.Plain document := horder.plain (hlawful.plain value)
  have hread : Json.read text.toList = some document := by
    rcases htext with rfl | rfl
    · exact hplain.read_compactText
    · exact hplain.read_prettyText
  rw [ofText?, hread]
  exact hlawful.read value document horder

theorem Lawful.roundTrips {form : Form α} (hlawful : form.Lawful) : form.RoundTrips where
  compact value := ⟨_, .refl _, .inl rfl⟩
  pretty value := ⟨_, .refl _, .inr rfl⟩
  read_back _ _ hwrites := hlawful.ofText?_of_writes hwrites
  rewritten _ _ hsource _ hwrites := (hlawful.ofText?_of_writes hwrites).trans hsource.symm
  unique value other text hwrites hother := by
    have hvalue := hlawful.ofText?_of_writes hwrites
    rw [hlawful.ofText?_of_writes hother] at hvalue
    exact (Option.some.inj hvalue).symm

end Form

def Record.form : Form Record where
  write := toValue
  read? document := (ofValue document).toOption

def BridgeConfig.form : Form BridgeConfig where
  write := toValue
  read? document := (ofValue document).toOption

def RequestCode.form : Form RequestCode where
  write := toValue
  read? := ofValue?

theorem Record.lawful_form : form.Lawful where
  plain := plain_toValue
  read value document horder := by
    show (ofValue document).toOption = some value
    rw [ofValue_of_reorders horder]
    rfl

theorem BridgeConfig.lawful_form : form.Lawful where
  plain := plain_toValue
  read value document horder := by
    show (ofValue document).toOption = some value
    rw [ofValue_of_reorders horder]
    rfl

theorem RequestCode.lawful_form : form.Lawful where
  plain code := .integer _
  read value document horder := by
    cases horder with
    | refl => exact ofValue?_toValue value

/-- The form of a configuration is the one in which a JSON source has it. -/
theorem BridgeConfig.ofText?_form (text : String) :
    form.ofText? text = (ofJson text).toOption := by
  rw [Form.ofText?, ofJson]
  cases Json.read text.toList with
  | none => rfl
  | some document =>
      show (ofValue document).toOption = ((ofValue document).mapError ConfigError.fields).toOption
      cases ofValue document <;> rfl

/-- Records, configurations and request codes are read back from their JSON texts, be they on one
line or spread over lines and their fields in whatever order: so writing what was read changes
nothing, and no text belongs to two values. -/
theorem json_texts_are_faithful :
    Record.form.RoundTrips ∧ RequestCode.form.RoundTrips ∧ BridgeConfig.form.RoundTrips ∧
      ∀ text, BridgeConfig.form.ofText? text = (BridgeConfig.ofJson text).toOption :=
  ⟨Record.lawful_form.roundTrips, RequestCode.lawful_form.roundTrips,
    BridgeConfig.lawful_form.roundTrips, BridgeConfig.ofText?_form⟩

end RadioAdapter
