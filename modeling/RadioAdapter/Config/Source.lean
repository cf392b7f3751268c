import RadioAdapter.Config.Form
import RadioAdapter.Json.Reader
import RadioAdapter.Radio.Error
import RadioAdapter.Text.Utf8
import RadioAdapter.Toml.Document

/-! # Sources of bridge configurations

A configuration comes from a text, in TOML or JSON, or from a file with a TOML
text. A missing file may stand for the default configuration; a file that is
there and unusable never does.
-/

namespace RadioAdapter

/-- Why a text is no configuration. -/
inductive ConfigError where
  | toml (error : Toml.Error)
  | json
  | fields (error : FieldError)
  | notUtf8
deriving DecidableEq, Repr

def ConfigError.message : ConfigError → String
  | .toml error => "TOML parse error: " ++ error.message
  | .json => "JSON parse error"
  | .fields error => error.message
  | .notUtf8 => "stream did not contain valid UTF-8"

/-- What is found at a path. -/
inductive FileContent where
  | missing
  | directory
  | bytes (data : Bytes)
deriving DecidableEq, Repr

/-- Why a file yields no configuration. -/
inductive FileError where
  | notFound
  | isADirectory
  | invalidData (error : ConfigError)
deriving DecidableEq, Repr

def FileError.message : FileError → String
  | .notFound => "No such file or directory (os error 2)"
  | .isADirectory => "Is a directory (os error 21)"
  | .invalidData error => error.message

namespace BridgeConfig

def ofToml (text : String) : Except ConfigError BridgeConfig :=
  match Toml.read text with
  | .error error => .error (.toml error)
  | .ok entries => (ofFields entries).mapError .fields

def ofJson (text : String) : Except ConfigError BridgeConfig :=
  match Json.read text.toList with
  | none => .error .json
  | some value => (ofValue value).mapError .fields

/-- Read a configuration from the bytes of a TOML text. -/
def ofBytes (data : Bytes) : Except ConfigError BridgeConfig :=
  match Text.ofUtf8? data with
  | none => .error .notUtf8
  | some text => ofToml text

def ofFile : FileContent → Except FileError BridgeConfig
  | .missing => .error .notFound
  | .directory => .error .isADirectory
  | .bytes data => (ofBytes data).mapError .invalidData

/-- Read a configuration from the file at a path, or take the default if nothing
is there. -/
def load (path : String) : FileContent → Except AdapterError BridgeConfig
  | .missing => .ok {}
  | file => (ofFile file).mapError fun error => .config (path ++ ": " ++ error.message)

end BridgeConfig

end RadioAdapter
