import ArrowScript.Analysis.Statement
import ArrowScript.Dump.Program
import ArrowScript.Grammar.Statement
import ArrowScript.Token.Scan

/-!
# Compilation

A source text goes through three stages: scanning, parsing and analysis. The first stage that finds a
problem is the last one to run. On request the stages write what they do and what they made to a log.
-/

namespace ArrowScript

/-- The stages of a compilation. -/
inductive Stage
  | lex
  | parse
  | analyze
deriving DecidableEq

/-- What a stage does. -/
def Stage.activity : Stage → String
  | .lex => "lexing"
  | .parse => "parsing"
  | .analyze => "semantic analysis"

/-- Why a compilation has no result. -/
inductive Failure
  /-- Something went wrong inside the compiler. -/
  | internal (reason : String)
  /-- A stage found problems. -/
  | halted (stage : Stage) (diagnostics : List Diagnostic)
  /-- Reading or writing failed. -/
  | io (reason : String)

/-- A fault as a reason for failing. -/
def Fault.failure (fault : Fault) : Failure :=
  .internal fault.message

/-- The wording of a failure. -/
def Failure.message : Failure → String
  | .internal reason => s!"internal compiler error: {reason}"
  | .halted stage diagnostics =>
    let activity := stage.activity
    let count := diagnostics.length
    s!"{activity} reported {count} diagnostic(s)"
  | .io reason => s!"IO error: {reason}"

/-- What is written to the log. -/
structure LogOptions where
  dumpTokens : Bool
  dumpProgram : Bool
  verbose : Bool

/-- The options that log nothing. -/
def LogOptions.quiet : LogOptions :=
  ⟨false, false, false⟩

/-- A program without problems, and what the analysis knows about it. -/
structure Compilation where
  program : Program
  state : Analysis.State

namespace Compilation

/-- A run of the stages with the log it writes. -/
abbrev Run := ExceptT Failure (StateM String)

/-- Writes to the log if that is asked for. -/
def log (wanted : Bool) (text : String) : Run Unit :=
  if wanted then modify (· ++ text) else return

/-- Stops unless a stage found nothing. -/
def haltOn (stage : Stage) (diagnostics : List Diagnostic) : Run Unit :=
  if diagnostics.isEmpty then return else throw (.halted stage diagnostics)

/-- Runs the stages on a source text. A stage only starts when nothing was reported before, so what it reports itself is
all that there is to stop for. -/
def stages (file source : String) (options : LogOptions) : Run Compilation := do
  let scan := Token.scan file source
  log options.dumpTokens (Dump.tokens scan.tokens)
  haltOn .lex scan.diagnostics
  log options.verbose s!"Parsing {file}...\n"
  let parsed := Grammar.parse scan.tokens
  haltOn .parse parsed.diagnostics
  log options.verbose s!"Analyzing {file}...\n"
  let analyzed := Analysis.analyze .initial parsed.program
  if let some fault := analyzed.fault? then throw fault.failure
  log options.dumpProgram (Dump.program analyzed.program)
  haltOn .analyze analyzed.diagnostics
  return ⟨analyzed.program, analyzed.state⟩

end Compilation

/-- Compiles a source text, and gives the result with the log. -/
def compile (file source : String) (options : LogOptions) : Except Failure Compilation × String :=
  (Compilation.stages file source options).run.run ""

end ArrowScript
