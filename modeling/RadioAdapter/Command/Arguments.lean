/-! # Arguments

A task takes options and positional arguments. The value of an option follows
as the next argument or after an equals sign. An argument that starts with a
dash is an option unless it is a single dash; after two dashes alone no argument
is one. Values are checked as they are found.
-/

namespace RadioAdapter.Command

/-- Why arguments ask for nothing that the command can do. -/
inductive UsageError where
  /-- The user asks how the command, or one of its tasks, is used. -/
  | help (task : Option String)
  | missingTask
  | unknownTask (name : String)
  | unexpected (argument : String)
  | missingValue (option : String)
  | repeatedOption (option : String)
  /-- A value that the option, or the argument with this position's name, does not take. -/
  | invalidValue (name value : String)
  | missingArgument (name : String)
deriving DecidableEq, Repr

def UsageError.message : UsageError → String
  | .help none => "help requested"
  | .help (some task) => "help requested for '" ++ task ++ "'"
  | .missingTask => "a subcommand is required"
  | .unknownTask name => "unrecognized subcommand '" ++ name ++ "'"
  | .unexpected argument => "unexpected argument '" ++ argument ++ "' found"
  | .missingValue option => "a value is required for '--" ++ option ++ "' but none was supplied"
  | .repeatedOption option => "the argument '--" ++ option ++ "' cannot be used multiple times"
  | .invalidValue name value => "invalid value '" ++ value ++ "' for '" ++ name ++ "'"
  | .missingArgument name => "the required argument '" ++ name ++ "' was not provided"

/-! ## Shapes -/

/-- How an argument looks, as long as options have not ended. -/
inductive Shape where
  | endOfOptions
  /-- An option, with its value if an equals sign attaches one. -/
  | option (name : String) (value : Option String)
  | letters (first : Char)
  | plain
deriving DecidableEq, Repr

def shape (argument : String) : Shape :=
  match argument.toList with
  | ['-', '-'] => .endOfOptions
  | '-' :: '-' :: text =>
      match text.span (· != '=') with
      | (name, '=' :: value) => .option (String.ofList name) (some (String.ofList value))
      | (name, _) => .option (String.ofList name) none
  | '-' :: first :: _ => .letters first
  | _ => .plain

/-! ## Splitting -/

/-- An option that a task takes. -/
structure OptionRule where
  name : String
  about : String := ""
  required : Bool := false
  /-- Whether the option may be given more than once. -/
  repeatable : Bool := false
  accepts : String → Bool

/-- A positional argument that a task takes. -/
structure PositionRule where
  name : String
  accepts : String → Bool := fun _ => true

/-- What a task takes. -/
structure Grammar where
  task : String
  about : String
  options : List OptionRule := []
  positions : List PositionRule := []

def Grammar.option? (grammar : Grammar) (name : String) : Option OptionRule :=
  grammar.options.find? (·.name == name)

/-- The values of options and the positional arguments found so far, in order. -/
structure Found where
  options : List (String × String) := []
  positional : List String := []
deriving DecidableEq, Repr

namespace Found

/-- The values of an option, in order. -/
def values (found : Found) (name : String) : List String :=
  found.options.filterMap fun option => if option.1 = name then some option.2 else none

/-- Add the value of an option. -/
def addOption (found : Found) (rule : OptionRule) (value : String) : Except UsageError Found :=
  if !rule.accepts value then .error (.invalidValue ("--" ++ rule.name) value)
  else if !rule.repeatable && !(found.values rule.name).isEmpty then
    .error (.repeatedOption rule.name)
  else .ok { found with options := found.options ++ [(rule.name, value)] }

def addPositional (grammar : Grammar) (found : Found) (value : String) : Except UsageError Found :=
  match grammar.positions[found.positional.length]? with
  | none => .error (.unexpected value)
  | some rule =>
      if rule.accepts value then .ok { found with positional := found.positional ++ [value] }
      else .error (.invalidValue rule.name value)

end Found

/-- Split arguments by what a task takes, after what has been found already. -/
def split (grammar : Grammar) (found : Found) : List String → Except UsageError Found
  | [] => .ok found
  | argument :: rest =>
      match shape argument with
      | .endOfOptions => rest.foldlM (Found.addPositional grammar) found
      | .plain => do split grammar (← found.addPositional grammar argument) rest
      | .letters first => .error (if first = 'h' then .help grammar.task else .unexpected argument)
      | .option name attached =>
          match grammar.option? name, attached, rest with
          | none, none, _ => .error (if name = "help" then .help grammar.task else .unexpected argument)
          | none, some _, _ => .error (.unexpected argument)
          | some rule, some value, rest => do split grammar (← found.addOption rule value) rest
          | some _, none, [] => .error (.missingValue name)
          | some rule, none, value :: rest =>
              if shape value = .plain then do split grammar (← found.addOption rule value) rest
              else .error (.missingValue name)

end RadioAdapter.Command
