import OperatorGrammar.Calc.Command

/-!
# Command line of the calculator

Runs a command on a file, prints what it has to print, and exits with its status.
-/

namespace OperatorGrammar.Calc

def readText? (path : String) : IO (Option String) := do
  try
    return String.fromUTF8? (← IO.FS.readBinFile path)
  catch _ =>
    return none

def runFile (command : Command) (path : String) : IO UInt32 := do
  match Calculator.make? with
  | .error e =>
    IO.eprintln (e.message Symbol.name)
    return 1
  | .ok calculator =>
    let outcome := run calculator command path (← readText? path)
    for line in outcome.printed do
      IO.println line
    if let some complaint := outcome.complaint then
      IO.eprintln complaint
    return outcome.status.toUInt32

def runArguments : List String → IO UInt32
  | ["eval", path] => runFile .eval path
  | ["tokenize", path] => runFile .tokenize path
  | _ => do
    IO.eprintln "usage: (eval | tokenize) FILE"
    return 2

end OperatorGrammar.Calc

def main (args : List String) : IO UInt32 := OperatorGrammar.Calc.runArguments args
