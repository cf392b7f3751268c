import RadioAdapter.Command.Report
import RadioAdapter.Command.Usage

/-! # Running the command

A run reads the arguments, performs the one task they ask for and ends with a
text to print or a failure. Files are looked up through a function, so that a
run depends on nothing but its arguments and what the paths hold.
-/

namespace RadioAdapter.Command

/-- Why a run prints no result. -/
inductive Failure where
  | usage (error : UsageError)
  | input (error : InputError)
  | file (error : FileError)
deriving DecidableEq, Repr

namespace Failure

/-- The exit status of a failure. Asking for help is no mistake. -/
def exitStatus : Failure → Nat
  | .usage (.help _) => 0
  | .usage _ => 2
  | .input _ => 1
  | .file _ => 1

/-- What is printed on the standard output: the page of help that a user asks for. -/
def output : Failure → String
  | .usage (.help task) => (page task).text
  | _ => ""

/-- What is printed on the error output. -/
def report : Failure → String
  | .usage (.help _) => ""
  | .usage error => "error: " ++ error.message ++ "\n"
  | .input error => "oemhook error: " ++ error.message ++ "\n"
  | .file error => "oemhook error: " ++ error.message ++ "\n"

end Failure

def perform (files : String → FileContent) : Invocation → Except Failure String
  | .encode ifname address prefixLength gateway servers =>
      (encodeText ifname address prefixLength gateway servers).mapError .input
  | .teardown ifname => (teardownText ifname).mapError .input
  | .decode hex => (decodeText hex).mapError .input
  | .checkConfig path => (checkConfigText (files path)).mapError .file

/-- Run the command: the text that it prints, with the end of its line. -/
def run (files : String → FileContent) (arguments : List String) : Except Failure String := do
  let invocation ← (Invocation.parse arguments).mapError .usage
  return (← perform files invocation) ++ "\n"

end RadioAdapter.Command
