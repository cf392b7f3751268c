import RadioAdapter.Command.Run

/-! # The `oemhook` command

The outer layer of the command: it looks up the file of a check and prints what
the run ends with.
-/

namespace RadioAdapter.Command

/-- What the file system has at a path. -/
def contentAt (path : String) : IO FileContent := do
  try
    let data ← IO.FS.readBinFile path
    return .bytes data.toList
  catch
    | .noFileOrDirectory .. => return .missing
    | .inappropriateType .. => return .directory
    | error => throw error

/-- The path that arguments ask to look at, with what it holds. -/
def lookUp (arguments : List String) : IO (List (String × FileContent)) :=
  match Invocation.parse arguments with
  | .ok (.checkConfig path) => return [(path, ← contentAt path)]
  | _ => return []

end RadioAdapter.Command

open RadioAdapter Command in
/-- Run the command with the arguments of the process. -/
def main (arguments : List String) : IO UInt32 := do
  let found ← lookUp arguments
  match run (fun path => (found.lookup path).getD .missing) arguments with
  | .ok text =>
      IO.print text
      return 0
  | .error failure =>
      IO.print failure.output
      IO.eprint failure.report
      return UInt32.ofNat failure.exitStatus
