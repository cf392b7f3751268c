import RadioAdapter.Command.Arguments
import RadioAdapter.Net.Address

/-! # Invocations

The first argument names one of four tasks, by its full name; the arguments
after it are the task's own.
-/

namespace RadioAdapter.Command

/-- What the command is asked to do. -/
inductive Invocation where
  | encode (ifname : String) (address : Address) (prefixLength : UInt32)
      (gateway : Option Address) (servers : List Address)
  | teardown (ifname : String)
  | decode (hex : String)
  | checkConfig (path : String)
deriving DecidableEq, Repr

/-- A network prefix length: a decimal number with or without a sign, from zero to
the greatest word. -/
def prefixLength? (text : String) : Option UInt32 :=
  let (negative, digits) := match text.toList with
    | '-' :: digits => (true, digits)
    | '+' :: digits => (false, digits)
    | digits => (false, digits)
  let magnitude := Nat.ofDigitChars 10 digits 0
  if digits.isEmpty || !digits.all Char.isDigit then none
  else if negative && magnitude != 0 then none
  else if magnitude ≤ 4294967295 then some (UInt32.ofNat magnitude)
  else none

/-! ## Encoding -/

/-- Whether a text is an address. -/
def isAddress (text : String) : Bool := (Address.ofString? text).isSome

def encodeGrammar : Grammar :=
  { task := "encode"
    about := "Encode a configure record and print it as hex"
    options :=
      [{ name := "ifname", required := true, accepts := fun _ => true },
        { name := "addr", required := true, accepts := isAddress },
        { name := "prefix", required := true
          accepts := fun text => (prefixLength? text).isSome },
        { name := "gateway", accepts := isAddress },
        { name := "dns", about := "Up to two DNS servers", repeatable := true
          accepts := isAddress }] }

/-- The value of an option that must be given. -/
def Found.required {α : Type} (found : Found) (name : String) (read : String → Option α) :
    Except UsageError α :=
  match (found.values name).head?.bind read with
  | some value => .ok value
  | none => .error (.missingArgument ("--" ++ name))

def encodeInvocation (found : Found) : Except UsageError Invocation := do
  let ifname ← found.required "ifname" some
  let address ← found.required "addr" Address.ofString?
  let prefixLength ← found.required "prefix" prefixLength?
  let gateway := (found.values "gateway").head?.bind Address.ofString?
  let servers := (found.values "dns").filterMap Address.ofString?
  return .encode ifname address prefixLength gateway servers

/-! ## Tasks with one argument -/

def teardownGrammar : Grammar :=
  { task := "teardown"
    about := "Encode a teardown record and print it as hex"
    positions := [{ name := "IFNAME" }] }

def decodeGrammar : Grammar :=
  { task := "decode"
    about := "Decode a hex record and print it as JSON"
    positions := [{ name := "HEX" }] }

def checkConfigGrammar : Grammar :=
  { task := "check-config"
    about := "Parse a bridge config and print the launch options it yields"
    positions := [{ name := "PATH", accepts := fun path => !path.isEmpty }] }

/-- Read the arguments of a task that takes a single one. -/
def parseSingle (grammar : Grammar) (make : String → Invocation) (arguments : List String) :
    Except UsageError Invocation := do
  match (← split grammar {} arguments).positional with
  | [value] => return make value
  | _ => throw (.missingArgument (" ".intercalate (grammar.positions.map (·.name))))

/-! ## All tasks -/

/-- What each task takes, in the order in which the tasks are listed. -/
def grammars : List Grammar := [encodeGrammar, teardownGrammar, decodeGrammar, checkConfigGrammar]

/-- The names of the tasks, with that of asking for help. -/
def taskNames : List String := grammars.map (·.task) ++ ["help"]

/-- What asking for help on at most one task ends with. -/
def helpError : List String → UsageError
  | [] => .help none
  | [name] => if taskNames.contains name then .help name else .unknownTask name
  | name :: argument :: _ =>
      if taskNames.contains name then .unexpected argument else .unknownTask name

/-- What a first argument that names no task ends with. -/
def notATask (argument : String) : UsageError :=
  match shape argument with
  | .letters 'h' => .help none
  | .option "help" none => .help none
  | .plain => .unknownTask argument
  | _ => .unexpected argument

def Invocation.parse : List String → Except UsageError Invocation
  | [] => .error .missingTask
  | task :: arguments =>
      if task = "encode" then do encodeInvocation (← split encodeGrammar {} arguments)
      else if task = "teardown" then parseSingle teardownGrammar .teardown arguments
      else if task = "decode" then parseSingle decodeGrammar .decode arguments
      else if task = "check-config" then
        parseSingle checkConfigGrammar .checkConfig arguments
      else if task = "help" then .error (helpError arguments)
      else .error (notATask task)

end RadioAdapter.Command
