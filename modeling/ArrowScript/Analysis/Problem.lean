import ArrowScript.Diagnostic
import ArrowScript.TypeRegistry

/-!
# Semantic problems

Everything that the analysis can report, and its wording. Types are kept as handles; the registry gives
their names.
-/

namespace ArrowScript.Analysis

/-- What a scope declares. -/
inductive Declared
  | type
  | function
  | variable
deriving DecidableEq

/-- The word for what a scope declares. -/
def Declared.word : Declared → String
  | .type => "type"
  | .function => "function"
  | .variable => "variable"

/-- What the analysis can report. -/
inductive SemanticProblem
  | alreadyDefined (what : Declared) (name : String) (first : Span)
  | typeInFunction
  | functionInFunction
  | unknownType (name : String)
  | missing (what : Declared) (name : String)
  | missingMember (what : Declared) (name : String) (owner : TypeId)
  | operandsDiffer (left right : TypeId)
  | initialDiffers (expected found : TypeId)
  | returnDiffers (expected found : TypeId)
  | indexNotInt (found : TypeId)
  | argumentCount (function : String) (expected found : Nat)
  | argumentDiffers (position : Nat) (function : String) (expected found : TypeId)
  | assignsToCall
deriving DecidableEq

/-- The wording of a semantic problem. -/
def SemanticProblem.message (types : TypeRegistry) : SemanticProblem → String
  | alreadyDefined what name first =>
    let word := what.word
    let locus := first.locus
    s!"The {word} {name} is already defined at {locus}."
  | typeInFunction => "Types cannot be declared inside functions."
  | functionInFunction => "Functions cannot be declared inside functions."
  | unknownType name => s!"Cannot find type {name}."
  | missing what name =>
    let word := what.word
    s!"Missing {word} {name}."
  | missingMember what name owner =>
    let word := what.word
    let ownerName := types.name owner
    s!"Missing {word} {name} on type {ownerName}."
  | operandsDiffer left right =>
    let leftName := types.name left
    let rightName := types.name right
    s!"Type mismatch in expression: {leftName} <-> {rightName}."
  | initialDiffers expected found =>
    let expectedName := types.name expected
    let foundName := types.name found
    s!"Type mismatch in variable declaration: expected {expectedName} but found {foundName}."
  | returnDiffers expected found =>
    let expectedName := types.name expected
    let foundName := types.name found
    s!"Return type mismatch: expected {expectedName} but found {foundName}."
  | indexNotInt found =>
    let foundName := types.name found
    s!"Index must be int but found {foundName}."
  | argumentCount function expected found =>
    s!"Function {function} expects {expected} argument(s) but got {found}."
  | argumentDiffers position function expected found =>
    let expectedName := types.name expected
    let foundName := types.name found
    s!"Argument {position} of {function} expects {expectedName} but found {foundName}."
  | assignsToCall => "Cannot assign to the result of a function call."

/-- The diagnostic for a semantic problem. -/
def SemanticProblem.diagnostic (types : TypeRegistry) (finding : Finding SemanticProblem) :
    Diagnostic :=
  finding.diagnostic .semantic (message types)

end ArrowScript.Analysis
