import LinearSweep.CommandLine.Run

/-! # The program

Reads the file that the arguments name and prints what the run leaves behind. -/

namespace LinearSweep

/-- The contents of a file, or why it cannot be read; the system numbers a directory `21`. -/
def readImage (path : String) : IO (Except ReadFault Image) := do
  try
    return .ok (← IO.FS.readBinFile path).data
  catch
    | .noFileOrDirectory .. => return .error .notFound
    | .inappropriateType _ 21 _ => return .error .isDirectory
    | cause => return .error (.other (toString cause))

end LinearSweep

/-- Run the program. -/
def main (arguments : List String) : IO UInt32 := do
  let outcome ← LinearSweep.CommandLine.respond LinearSweep.readImage arguments
  (← IO.getStdout).putStr outcome.output
  (← IO.getStderr).putStr outcome.errors
  return outcome.code
