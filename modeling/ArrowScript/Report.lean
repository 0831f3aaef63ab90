import ArrowScript.Compilation
import ArrowScript.Snippet

/-!
# Reports

A report is what the user gets to read. Diagnostics are shown with snippets of the files that they are
about; those about a file that is not there are not shown. A failure is shown in one sentence.
-/

namespace ArrowScript.Report

/-- A file by its name, with the text in it. -/
structure File where
  name : String
  source : String

/-- Diagnostics about one of some files. -/
def diagnostics (files : List File) (file : Nat) (found : List Diagnostic) : String :=
  match files[file]? with
  | some ⟨name, source⟩ => String.join (found.map (Snippet.diagnosticText name source))
  | none => ""

/-- A failure. -/
def failure : Failure → String
  | .halted stage found =>
    let activity := stage.activity
    let count := found.length
    s!"error: aborting after {activity}\n = {count} diagnostic(s) reported\n\n"
  | other =>
    let message := other.message
    s!"bug: {message}\n\n"

end ArrowScript.Report
