import ArrowScript.CommandLine

/-!
# Program

Runs the command line on the files of the system.
-/

open ArrowScript.CommandLine

/-- Why the system cannot read a file. Codes of the system may be given with their sign turned. -/
def readProblem : IO.Error → ReadProblem
  | .noFileOrDirectory .. => .absent
  | .inappropriateType _ code _ => if code = 21 || -code = 21 then .directory else .throughFile
  | .invalidArgument _ code _ =>
    if code = 36 || -code = 36 then .longName else .other "Invalid argument (os error 22)"
  | error => .other error.toString

/-- Reads a text from a file of the system. -/
def readSystemFile (file : String) : IO (Except ReadProblem String) := do
  try return decodeText (← IO.FS.readBinFile file)
  catch error => return .error (readProblem error)

/-- Runs the command line and leaves with its exit code. -/
def main (arguments : List String) : IO UInt32 := do
  let exit ← runWith readSystemFile arguments
  IO.print exit.output
  IO.eprint exit.errors
  return exit.code.toUInt32
