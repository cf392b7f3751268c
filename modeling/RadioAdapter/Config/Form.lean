import RadioAdapter.Config.Basic
import RadioAdapter.Data.Value

/-! # Bridge configurations as documents

A configuration is read field by field. A field that is absent has its default;
an environment that is present replaces the default one as a whole.
-/

namespace RadioAdapter

/-- The name under which a date-time in the place of an environment is entered. -/
def Environment.dateTimeName : String := "$__toml_private_datetime"

def Environment.toValue (environment : Environment) : Value :=
  .table (environment.entries.map fun entry => (entry.1, .text entry.2))

def Environment.entry? (entry : String × Value) : Option (String × String) :=
  entry.2.text?.map (entry.1, ·)

/-- Read an environment: a table of texts. A date-time counts as a table of one
entry, which has its text. -/
def Environment.ofValue? : Value → Option Environment
  | .table entries => (entries.mapM entry?).map Environment.ofList
  | .dateTime value => some (.single dateTimeName value.text)
  | _ => none

namespace BridgeConfig

/-- The names of the fields, in order. -/
def fieldNames : List String :=
  ["classpath", "hosted_class", "runtime_options", "ignore_unrecognized", "env"]

/-- The document form of a configuration, with ascending keys. -/
def toValue (config : BridgeConfig) : Value :=
  .table
    [("classpath", .text config.classpath),
      ("env", config.environment.toValue),
      ("hosted_class", .text config.hostedClass),
      ("ignore_unrecognized", .bool config.ignoreUnrecognized),
      ("runtime_options", .array (config.runtimeOptions.map .text))]

/-- Read a configuration from its fields, each on its own. -/
def ofFields (entries : List (String × Value)) : Except FieldError BridgeConfig := do
  let default : BridgeConfig := {}
  let classpath ← Value.fieldD entries "classpath" Value.text? default.classpath
  let hostedClass ← Value.fieldD entries "hosted_class" Value.text? default.hostedClass
  let runtimeOptions ← Value.fieldD entries "runtime_options" Value.texts? default.runtimeOptions
  let ignoreUnrecognized ←
    Value.fieldD entries "ignore_unrecognized" Value.bool? default.ignoreUnrecognized
  let environment ← Value.fieldD entries "env" Environment.ofValue? default.environment
  return { classpath, hostedClass, runtimeOptions, ignoreUnrecognized, environment }

/-- Read a configuration from its document form. -/
def ofValue (value : Value) : Except FieldError BridgeConfig := do
  ofFields (← value.fields fieldNames)

end BridgeConfig

end RadioAdapter
