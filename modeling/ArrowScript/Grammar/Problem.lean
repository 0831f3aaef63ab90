import ArrowScript.Diagnostic

/-!
# Syntax problems

Everything that parsing can report, and its wording.
-/

namespace ArrowScript.Grammar

/-- What parsing can report. -/
inductive SyntaxProblem
  | statementsShareLine
  | misplacedType
  | invalidStatement
  | declaresNoVariable
  | solitaryChain
  | untypedWithoutValue
  | blockUnclosed
  | whileWithoutBody
  | ifWithoutBody
  | invalidElse
  | missingImport
  | invalidImport
  | missingPath
  | invalidPath
  | functionUnnamed
  | functionWithoutOpening
  | functionWithoutClosing
  | functionWithoutBody
  | parameterUnnamed
  | parameterWithoutColon
  | parametersUnseparated
  | typeUnnamed
  | typeWithoutBody
  | typeUnclosed (name : String)
  | memberNotVariable
  | memberNotDefinition
  | noTypeParameters
  | typeParameterUnnamed
  | typeParametersUnclosed
  | noTypeArguments
  | typeArgumentUnnamed
  | typeArgumentsUnclosed
  | commaExpected
  | invalidTypeName
  | bracketExpected
  | invalidTerm
  | parenthesisExpected
  | invalidNew
  | linkExpected
  | indexMissing
  | indexUnclosed
  | callWithoutOpening
  | callWithoutClosing
  | argumentsUnseparated
deriving DecidableEq

/-- The wording of a syntax problem. -/
def SyntaxProblem.message : SyntaxProblem → String
  | statementsShareLine => "Statements must end with a new line."
  | misplacedType => "Type should not be here."
  | invalidStatement => "Invalid statement."
  | declaresNoVariable => "Expected the name of a variable."
  | solitaryChain => "A solitary accessor chain is not allowed."
  | untypedWithoutValue => "Auto variables require an assignment."
  | blockUnclosed => "Block must end with \x7d."
  | whileWithoutBody => "While statement does not have a body because it is missing \x7b."
  | ifWithoutBody => "If statement does not have a body because it is missing \x7b."
  | invalidElse => "Invalid if conditional branch."
  | missingImport => "Import could not be found."
  | invalidImport => "Invalid import."
  | missingPath => "Path could not be found."
  | invalidPath => "Invalid path."
  | functionUnnamed => "Function is missing a name."
  | functionWithoutOpening => "Function is missing (."
  | functionWithoutClosing => "Function is missing )."
  | functionWithoutBody => "Function should have a body but is missing \x7b."
  | parameterUnnamed => "Expected a parameter name."
  | parameterWithoutColon => "Expected a colon between the parameter name and its type."
  | parametersUnseparated => "Expected a comma between parameters."
  | typeUnnamed => "Expected type definition name."
  | typeWithoutBody => "Type definition does not have a body because it is missing \x7b."
  | typeUnclosed name => s!"The body for the type definition {name} should end with \x7d."
  | memberNotVariable => "Expected variable declaration."
  | memberNotDefinition => "Expected function or variable declaration."
  | noTypeParameters => "Generics list definition should have at least one generic type."
  | typeParameterUnnamed => "Expected generic name."
  | typeParametersUnclosed => "Generics list definition should end with >."
  | noTypeArguments => "Generics list should have at least one type."
  | typeArgumentUnnamed => "Expected type name."
  | typeArgumentsUnclosed => "Generics list should end with >."
  | commaExpected => "Expected comma."
  | invalidTypeName => "Type should have a valid name."
  | bracketExpected => "Expected ]."
  | invalidTerm => "Invalid term in expression."
  | parenthesisExpected => "Expected a )."
  | invalidNew => "Invalid new operation."
  | linkExpected => "Expected indexor, identifier or function call."
  | indexMissing => "Indexors require an index to be specified."
  | indexUnclosed => "Indexor is missing ]."
  | callWithoutOpening => "Function call is missing (."
  | callWithoutClosing => "Function call is missing )."
  | argumentsUnseparated => "Expected comma between function call parameters."

/-- The diagnostic for a syntax problem. -/
def SyntaxProblem.diagnostic (finding : Finding SyntaxProblem) : Diagnostic :=
  finding.diagnostic .syntactic message

end ArrowScript.Grammar
