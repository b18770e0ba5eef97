import TelegramMarkdown.CommandLine

/-!
The program: it reads the files that the arguments name, evaluates the run, and
writes the result.
-/

namespace TelegramMarkdown

open CommandLine

/-- Read a file. -/
def readFile (path : Text) : IO Reading := do
  try
    return .content (← IO.FS.readBinFile (String.ofList path)).toList
  catch
    | .noFileOrDirectory .. => return .missing
    | _ => return .unreadable

/-- Read all of standard input. -/
def readStdin : IO Utf8.Bytes := do
  return (← (← IO.getStdin).readBinToEnd).toList

/-- Report a failure. -/
def fail (failure : Failure) : IO UInt32 := do
  IO.eprintln (String.ofList ("Error: ".toList ++ failure.message))
  return 1

/-- Put the result of a run where it belongs. -/
def deliver (a : Arguments) (text : Text) : IO UInt32 := do
  match a.output with
  | none =>
    IO.print (String.ofList text)
    return 0
  | some path =>
    try
      IO.FS.writeFile (String.ofList path) (String.ofList text)
      IO.eprintln (String.ofList ("Created ".toList ++ path))
      return 0
    catch _ => fail (.output path)

/-- Run with arguments. -/
def execute (a : Arguments) : IO UInt32 := do
  let config := a.config.getD configFile
  let settings ← readFile config
  let source ← match a.input with
    | some path => readFile path
    | none => pure .missing
  let stdin ← if a.input.isSome then pure [] else readStdin
  -- The configuration is read by its own name even if the input has the same.
  let read (path : Text) : Reading := if a.input = some path && path ≠ config then source else settings
  match evaluate a read stdin with
  | .error failure => fail failure
  | .ok text => deliver a text

/-- Run with the arguments of a command line. -/
def runProgram (args : List String) : IO UInt32 := do
  match Arguments.ofList (args.map String.toList) with
  | .ok a => execute a
  | .error .help =>
    IO.print (String.ofList helpText)
    return 0
  | .error .usage =>
    IO.eprintln "error: the arguments are not valid; try --help"
    return 2

end TelegramMarkdown

/-- The program. -/
def main (args : List String) : IO UInt32 :=
  TelegramMarkdown.runProgram args
