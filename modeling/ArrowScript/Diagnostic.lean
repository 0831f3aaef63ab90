import ArrowScript.Span

/-!
# Diagnostics

A diagnostic is a problem of a program as it is shown to the user. Every stage has its own type of
problems; a finding is such a problem at a span, and a diagnostic is a finding in words.
-/

namespace ArrowScript

/-- The stage that a diagnostic comes from. -/
inductive Diagnostic.Kind
  | lexical
  | syntactic
  | semantic
deriving DecidableEq

/-- The heading of a kind of diagnostics. -/
def Diagnostic.Kind.title : Diagnostic.Kind → String
  | .lexical => "Lexer error"
  | .syntactic => "Syntax error"
  | .semantic => "Semantic error"

/-- A problem of a program in words. -/
structure Diagnostic where
  kind : Diagnostic.Kind
  message : String
  span : Span
deriving DecidableEq

/-- The unadorned form: the place on a line, the indented message, a blank line. -/
def Diagnostic.plain (diagnostic : Diagnostic) : String :=
  diagnostic.span.locus ++ "\n\t" ++ diagnostic.message ++ "\n\n"

/-- The unadorned form of diagnostics, one after the other. -/
def Diagnostic.plainAll (diagnostics : List Diagnostic) : String :=
  String.join (diagnostics.map Diagnostic.plain)

/-- A problem and where it was found. -/
structure Finding (π : Type) where
  problem : π
  span : Span
deriving DecidableEq

/-- The diagnostic of a kind that reports a finding, worded by `message`. -/
def Finding.diagnostic {π : Type} (kind : Diagnostic.Kind) (message : π → String)
    (finding : Finding π) : Diagnostic where
  kind := kind
  message := message finding.problem
  span := finding.span

end ArrowScript
