import ObjectPath.CommandLine.Program

/-! The lookup program: reads a document from its input and writes what a path leads to in it. -/
namespace ObjectPath.CommandLine

/-- Reads all input, unless the arguments alone decide the run. -/
def readInput (arguments : List String) : IO ByteArray := do
  match Options.parse arguments with
  | .error _ => return .empty
  | .ok _ => (← IO.getStdin).readBinToEnd

end ObjectPath.CommandLine

def main (arguments : List String) : IO UInt32 := do
  let run := ObjectPath.CommandLine.program arguments
    (← ObjectPath.CommandLine.readInput arguments)
  (← IO.getStdout).putStr run.output
  (← IO.getStderr).putStr run.errors
  return run.code.toUInt32
