import ArrowScript.CommandLine.Arguments
import ArrowScript.CommandLine.Files
import ArrowScript.CommandLine.Help
import ArrowScript.Report

/-!
# Command line

The program compiles one file and tells what it found. Everything about the file goes to the error
stream. The exit code tells whether there were problems, or whether the arguments were understood.
-/

namespace ArrowScript.CommandLine

/-- What a run of the program leaves behind. -/
structure Exit where
  code : Nat
  output : String
  errors : String

namespace Exit

/-- A run without problems. -/
def success (errors : String) : Exit :=
  ⟨0, "", errors⟩

/-- A run that ends with an error. -/
def failed (errors reason : String) : Exit :=
  ⟨1, "", s!"{errors}error: {reason}\n"⟩

/-- A run that tells something it was asked for. -/
def told (answer : String) : Exit :=
  ⟨0, answer, ""⟩

/-- A run with arguments that are not understood. -/
def misused (mistake : Mistake) : Exit :=
  ⟨2, "", mistake.message⟩

end Exit

/-- The name of the program with its version. -/
def version : String :=
  "fractalsc 0.1.0\n"

/-- What is written to the log with some switches. -/
def logOptions (given : List Switch) : LogOptions where
  dumpTokens := .dumpTokens ∈ given
  dumpProgram := .dumpProgram ∈ given
  verbose := .verbose ∈ given

/-- Diagnostics about a file in a format. -/
def showDiagnostics (format : Format) (file source : String) (found : List Diagnostic) : String :=
  match format with
  | .plain => Diagnostic.plainAll found
  | .pretty => Report.diagnostics [⟨file, source⟩] 0 found

/-- The last line of a verbose run without problems. -/
def summary (compilation : Compilation) : String :=
  let statements := compilation.program.root.statements.length
  let types := compilation.state.types.size
  s!"No problems found ({statements} statements, {types} types)\n"

/-- Compiles the text of a file. -/
def compileText (file source : String) (format : Format) (given : List Switch) : Exit :=
  let options := logOptions given
  let opening := if options.verbose then s!"Compiling {file}\n" else ""
  let (result, log) := compile file source options
  let errors := opening ++ log
  match result with
  | .ok compilation =>
    .success (if options.verbose then errors ++ summary compilation else errors)
  | .error (.halted stage found) =>
    let activity := stage.activity
    .failed (errors ++ showDiagnostics format file source found)
      s!"compilation stopped during {activity}"
  | .error failure => .failed (errors ++ Report.failure failure) failure.message

/-- Compiles what was read from a file. -/
def compileRead (file : String) (format : Format) (given : List Switch) :
    Except ReadProblem String → Exit
  | .ok source => compileText file source format given
  | .error problem =>
    let reason := problem.message
    .failed "" s!"cannot read {file}: {reason}"

/-- Runs the program on arguments, with a way to read files. -/
def runWith {m : Type → Type} [Monad m] (readFile : String → m (Except ReadProblem String))
    (arguments : List String) : m Exit :=
  match read arguments with
  | .error mistake => return .misused mistake
  | .ok (.help long) => return .told (Help.text long)
  | .ok .version => return .told version
  | .ok (.compile file format given) => return compileRead file format given (← readFile file)

/-- Runs the program on arguments in a folder. -/
def run (folder : Folder) (arguments : List String) : Exit :=
  (runWith (fun file => pure (folder.readText file)) arguments : Id Exit)

end ArrowScript.CommandLine
