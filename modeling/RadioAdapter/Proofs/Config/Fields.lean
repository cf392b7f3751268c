import RadioAdapter.Proofs.Config.Environment
import RadioAdapter.Proofs.Config.Readers
import RadioAdapter.Proofs.Tables

/-! # A configuration field by field

A configuration is a table with five known keys, and it does not matter which format the table is
written in, in which order its keys stand and what else it has. Each field is read on its own: a
key that is there must have a value of its type, and a key that is not leaves the default. So it
is with the environment too, which a table replaces as a whole, be it empty.
-/

namespace RadioAdapter

/-! ## Single fields -/

section

variable {α : Type} {entries others : List (String × Value)} {name : String}
variable {read : Value → Option α} {means : Value → α → Prop} {default result : α}

/-- A field is what the value under its key means, or the default if there is none. -/
def FieldIs (entries : List (String × Value)) (name : String) (means : Value → α → Prop)
    (default result : α) : Prop :=
  (∀ value, (name, value) ∈ entries → means value result) ∧
    ((∀ value, (name, value) ∉ entries) → result = default)

/-- A field may be there once, with a value that is read as what it means. -/
theorem fieldD_eq_ok_iff (honce : (Value.allAt name entries).length ≤ 1)
    (hread : ∀ value, (name, value) ∈ entries →
      ∀ result, read value = some result ↔ means value result) :
    Value.fieldD entries name read default = .ok result ↔
      FieldIs entries name means default result := by
  simp only [FieldIs, ← Value.mem_allAt] at hread ⊢
  rw [Value.fieldD, Value.field?]
  generalize Value.allAt name entries = values at honce hread
  cases values with
  | nil => simp [bind, Except.bind, pure, Except.pure, eq_comm]
  | cons value others =>
      cases others with
      | nil =>
          have hvalue := hread value (List.mem_singleton.mpr rfl) result
          cases hresult : read value with
          | none =>
              have hmeans : ¬ means value result := by simp [← hvalue, hresult]
              simp [hresult, hmeans, bind, Except.bind]
          | some found =>
              rw [hresult, Option.some.injEq] at hvalue
              simp [hresult, ← hvalue, bind, Except.bind, pure, Except.pure]
      | cons => exact absurd honce (by simp)

/-- A field can be read exactly if what stands under its key means something. -/
theorem exists_fieldIs_iff (honce : (Value.allAt name entries).length ≤ 1) (default : α) :
    (∃ result, FieldIs entries name means default result) ↔
      ∀ value, (name, value) ∈ entries → ∃ result, means value result := by
  simp only [FieldIs, ← Value.mem_allAt]
  generalize Value.allAt name entries = values at honce
  cases values with
  | nil => simp
  | cons value others =>
      cases others with
      | nil => simp
      | cons => exact absurd honce (by simp)

/-- Values that are alike give the same field. -/
theorem fieldD_eq_of_alike
    (halike : List.Forall₂ Value.Alike (Value.allAt name entries) (Value.allAt name others))
    (hread : ∀ {value other : Value}, value.Alike other → read value = read other) :
    Value.fieldD entries name read default = Value.fieldD others name read default := by
  simp only [Value.fieldD, Value.field?]
  generalize Value.allAt name entries = values at halike
  generalize Value.allAt name others = likes at halike
  cases halike with
  | nil => rfl
  | cons hfirst hrest =>
      cases hrest with
      | nil => simp only [hread hfirst]
      | cons => rfl

end

/-! ## Configurations -/

namespace BridgeConfig

/-- Each known key that a table has, has a value of its type: a text, a text, an array of texts, a
truth value, and a table of texts. -/
structure WellTyped (entries : List (String × Value)) : Prop where
  classpath (value : Value) (hvalue : ("classpath", value) ∈ entries) :
    ∃ text, value = .text text
  hostedClass (value : Value) (hvalue : ("hosted_class", value) ∈ entries) :
    ∃ text, value = .text text
  runtimeOptions (value : Value) (hvalue : ("runtime_options", value) ∈ entries) :
    ∃ texts : List String, value = .array (texts.map .text)
  ignoreUnrecognized (value : Value) (hvalue : ("ignore_unrecognized", value) ∈ entries) :
    ∃ flag, value = .bool flag
  environment (value : Value) (hvalue : ("env", value) ∈ entries) :
    ∃ inner, value = .table inner ∧ ∀ entry ∈ inner, ∃ text, entry.2 = .text text

/-- A configuration is that of a table, field by field. -/
structure IsConfigOf (entries : List (String × Value)) (config : BridgeConfig) : Prop where
  classpath : FieldIs entries "classpath" (fun value text => value = .text text)
    "/system/framework/rilofono.jar" config.classpath
  hostedClass : FieldIs entries "hosted_class" (fun value text => value = .text text)
    "rilofono/Ril" config.hostedClass
  runtimeOptions : FieldIs entries "runtime_options"
    (fun value texts => value = .array (texts.map .text)) [] config.runtimeOptions
  ignoreUnrecognized : FieldIs entries "ignore_unrecognized" (fun value flag => value = .bool flag)
    false config.ignoreUnrecognized
  environment : FieldIs entries "env" Environment.IsOf
    (.single "ANDROID_DATA" "/data/misc/radio") config.environment

/-- A text that is a table, by what it is read as: a TOML document whose environment is no
date-time, or a JSON text that has no known key twice. -/
inductive IsReadAs (entries : List (String × Value)) : Except ConfigError BridgeConfig → Prop where
  | toml {text : String} (hread : Toml.read text = .ok entries)
      (hdate : ∀ date, ("env", .dateTime date) ∉ entries) : IsReadAs entries (ofToml text)
  | json {text : String} (hread : Json.read text.toList = some (.table entries))
      (honce : ∀ name ∈ fieldNames, (Value.allAt name entries).length ≤ 1) :
      IsReadAs entries (ofJson text)

section

variable {entries others : List (String × Value)} {outcome : Except ConfigError BridgeConfig}
variable {config : BridgeConfig}

/-- Behind both formats there is one reader of fields, and it is given each known key once and no
date-time for the environment. -/
theorem IsReadAs.eq_ofFields (hreading : IsReadAs entries outcome) :
    outcome = (ofFields entries).mapError .fields ∧
      (∀ name ∈ fieldNames, (Value.allAt name entries).length ≤ 1) ∧
      ∀ date, ("env", .dateTime date) ∉ entries := by
  cases hreading with
  | toml hread hdate =>
      have hnodup := Toml.nodup_keys_of_read hread
      exact ⟨by rw [ofToml, hread], fun name _ => Value.length_allAt_le_one hnodup name, hdate⟩
  | json hread honce =>
      refine ⟨by rw [ofJson, hread]; rfl, honce, fun date hmem => ?_⟩
      cases Json.dateless_of_read hread with
      | table hentries => cases hentries _ hmem

/-- The reader of fields asks for one after the other, and each answers for itself. -/
theorem ofFields_eq_ok_iff
    (honce : ∀ name ∈ fieldNames, (Value.allAt name entries).length ≤ 1)
    (hdate : ∀ date, ("env", .dateTime date) ∉ entries) :
    ofFields entries = .ok config ↔ IsConfigOf entries config := by
  have hfield {α : Type} {name : String} {read : Value → Option α} {means : Value → α → Prop}
      {default result : α} (hname : name ∈ fieldNames)
      (hread : ∀ {value result}, read value = some result ↔ means value result) :
      Value.fieldD entries name read default = .ok result ↔
        FieldIs entries name means default result :=
    fieldD_eq_ok_iff (honce name hname) fun _ _ _ => hread
  have henvironment {default result : Environment} :
      Value.fieldD entries "env" Environment.ofValue? default = .ok result ↔
        FieldIs entries "env" Environment.IsOf default result := by
    refine fieldD_eq_ok_iff (honce _ (by decide)) fun value hvalue result => ?_
    exact Environment.ofValue?_eq_some_iff fun date heq => hdate date (heq ▸ hvalue)
  simp only [ofFields, bind_eq_ok_iff, henvironment,
    hfield (show "classpath" ∈ fieldNames by decide) Value.text?_eq_some_iff,
    hfield (show "hosted_class" ∈ fieldNames by decide) Value.text?_eq_some_iff,
    hfield (show "runtime_options" ∈ fieldNames by decide) Value.texts?_eq_some_iff,
    hfield (show "ignore_unrecognized" ∈ fieldNames by decide) Value.bool?_eq_some_iff]
  constructor
  · rintro ⟨classpath, hclasspath, hostedClass, hhosted, runtimeOptions, hoptions,
      ignoreUnrecognized, hignore, environment, henvironment, hconfig⟩
    cases hconfig
    exact ⟨hclasspath, hhosted, hoptions, hignore, henvironment⟩
  · rintro ⟨hclasspath, hhosted, hoptions, hignore, henvironment⟩
    exact ⟨_, hclasspath, _, hhosted, _, hoptions, _, hignore, _, henvironment, rfl⟩

/-- A table has a configuration exactly if each known key that it has is of its type. -/
theorem exists_isConfigOf_iff
    (honce : ∀ name ∈ fieldNames, (Value.allAt name entries).length ≤ 1) :
    (∃ config, IsConfigOf entries config) ↔ WellTyped entries := by
  constructor
  · rintro ⟨config, hconfig⟩
    refine ⟨fun value hvalue => ⟨_, hconfig.classpath.1 value hvalue⟩,
      fun value hvalue => ⟨_, hconfig.hostedClass.1 value hvalue⟩,
      fun value hvalue => ⟨_, hconfig.runtimeOptions.1 value hvalue⟩,
      fun value hvalue => ⟨_, hconfig.ignoreUnrecognized.1 value hvalue⟩,
      fun value hvalue => ?_⟩
    exact Environment.exists_isOf_iff.mp ⟨_, hconfig.environment.1 value hvalue⟩
  · intro htyped
    obtain ⟨classpath, hclasspath⟩ :=
      (exists_fieldIs_iff (honce "classpath" (by decide)) _).mpr htyped.classpath
    obtain ⟨hostedClass, hhosted⟩ :=
      (exists_fieldIs_iff (honce "hosted_class" (by decide)) _).mpr htyped.hostedClass
    obtain ⟨runtimeOptions, hoptions⟩ :=
      (exists_fieldIs_iff (honce "runtime_options" (by decide)) _).mpr htyped.runtimeOptions
    obtain ⟨ignoreUnrecognized, hignore⟩ :=
      (exists_fieldIs_iff (honce "ignore_unrecognized" (by decide)) _).mpr htyped.ignoreUnrecognized
    obtain ⟨environment, henvironment⟩ :=
      (exists_fieldIs_iff (honce "env" (by decide)) _).mpr fun value hvalue =>
        Environment.exists_isOf_iff.mpr (htyped.environment value hvalue)
    exact ⟨⟨classpath, hostedClass, runtimeOptions, ignoreUnrecognized, environment⟩,
      hclasspath, hhosted, hoptions, hignore, henvironment⟩

/-- Tables whose known keys have values that are alike are read alike. -/
theorem ofFields_eq_of_alike
    (halike : ∀ name ∈ fieldNames,
      List.Forall₂ Value.Alike (Value.allAt name entries) (Value.allAt name others)) :
    ofFields entries = ofFields others := by
  rw [ofFields, fieldD_eq_of_alike (halike "classpath" (by decide)) Value.Alike.text?_eq,
    fieldD_eq_of_alike (halike "hosted_class" (by decide)) Value.Alike.text?_eq,
    fieldD_eq_of_alike (halike "runtime_options" (by decide)) Value.Alike.texts?_eq,
    fieldD_eq_of_alike (halike "ignore_unrecognized" (by decide)) Value.Alike.bool?_eq,
    fieldD_eq_of_alike (halike "env" (by decide)) Environment.ofValue?_eq_of_alike]
  rfl

/-- A configuration is read from a table field by field. It is read exactly if each known key that
the table has, has a value of its type; then a field is what stands under its key, or the default
if the table has no such key, and so is the environment, which is never a mixture of both. Nothing
else matters: from every text that is a table with the same under the known keys, be it TOML or
JSON, the same is read. -/
theorem read_field_by_field (hreading : IsReadAs entries outcome) :
    ((∃ config, outcome = .ok config) ↔ WellTyped entries) ∧
      (∀ config, outcome = .ok config ↔ IsConfigOf entries config) ∧
      ∀ (others : List (String × Value)) (other : Except ConfigError BridgeConfig),
        IsReadAs others other →
        (∀ name ∈ ["classpath", "hosted_class", "runtime_options", "ignore_unrecognized", "env"],
          List.Forall₂ Value.Alike (Value.allAt name entries) (Value.allAt name others)) →
        other.toOption = outcome.toOption := by
  obtain ⟨houtcome, honce, hdate⟩ := hreading.eq_ofFields
  have hconfig (config : BridgeConfig) : outcome = .ok config ↔ IsConfigOf entries config := by
    rw [houtcome, mapError_eq_ok_iff, ofFields_eq_ok_iff honce hdate]
  refine ⟨?_, hconfig, fun others other hother halike => ?_⟩
  · simp only [hconfig, exists_isConfigOf_iff honce]
  · rw [hother.eq_ofFields.1, houtcome, ofFields_eq_of_alike halike]

end

/-- A document with an unknown date-time and an environment without entries, and a text with the
same environment in front and another unknown key. -/
theorem read_field_by_field_of_empty_environment :
    let document := "zeta = 1979-05-27\nruntime_options = ['-Xa']\n[env]\n"
    let text := "\x7b\"env\": \x7b\x7d, \"other\": [null, 1.5], \"runtime_options\": [\"-Xa\"]\x7d"
    let config : BridgeConfig := { runtimeOptions := ["-Xa"], environment := .empty }
    ofToml document = .ok config ∧ (ofJson text).toOption = some config := by
  intro document text config
  let options : Value := .array [.text "-Xa"]
  let entries : List (String × Value) :=
    [("zeta", .dateTime { date := some ⟨1979, 5, 27⟩ }), ("runtime_options", options),
      ("env", .table [])]
  let others : List (String × Value) :=
    [("env", .table []), ("other", .array [.null, .float "1.5"]), ("runtime_options", options)]
  have hdocument : Toml.read document = .ok entries := by decide +kernel
  have htext : Json.read text.toList = some (.table others) := by decide +kernel
  have hdate : ∀ date, ("env", .dateTime date) ∉ entries := by simp [entries]
  have honce : ∀ name ∈ fieldNames, (Value.allAt name others).length ≤ 1 := by decide
  obtain ⟨-, hconfig, hsame⟩ := read_field_by_field (.toml hdocument hdate)
  have hread : ofToml document = .ok config := by
    refine (hconfig config).mpr ⟨?_, ?_, ?_, ?_, ?_⟩
    · simp [FieldIs, entries, config]
    · simp [FieldIs, entries, config]
    · simp [FieldIs, entries, config, options]
    · simp [FieldIs, entries, config]
    · simp [FieldIs, entries, config, Environment.IsOf, Environment.Has, Environment.empty,
        Value.allAt]
  have hknown (name : String) (hname : name ∈ fieldNames) :
      Value.allAt name entries = Value.allAt name others := by
    simp only [fieldNames, List.mem_cons, List.not_mem_nil, or_false] at hname
    rcases hname with rfl | rfl | rfl | rfl | rfl <;> rfl
  have halike := hsame others _ (.json htext honce) fun name hname => by
    rw [hknown name hname]
    exact List.forall₂_same.mpr fun value _ => .refl value
  exact ⟨hread, by rw [halike, hread]; rfl⟩

end BridgeConfig

end RadioAdapter
