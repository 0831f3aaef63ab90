import ArrowScript.Grammar.State

/-!
# Parsing written types

A written type is a name with optional type arguments in angle brackets and an optional pair of brackets
that follows without blanks or line ends. Definitions list their type parameters in angle brackets too.
-/

namespace ArrowScript.Grammar

/-- A list in angle brackets, starting on `<`. -/
def inAngles {α : Type} (element : Parser α) (empty unclosed : SyntaxProblem) (bound : Nat) :
    Parser (List α) := do
  advance
  if ← standsOn .greater then
    report empty
    return []
  commaList element .greater .commaExpected unclosed bound

/-- The name of a type parameter. -/
def typeParameter : Parser Span := do
  expect .identifier .typeParameterUnnamed
  span

/-- The type parameters of a definition, starting on `<`. -/
def typeParameters (bound : Nat) : Parser (List Span) :=
  inAngles typeParameter .noTypeParameters .typeParametersUnclosed bound

/-- A type argument; anything but a name of a type is noted and taken as a name. -/
def typeArgument (type : Parser TypeRef) : Parser TypeRef := do
  if (← kind).isTypeName then type
  else
    report .typeArgumentUnnamed
    return .named (← span) false

/-- Type arguments, starting on `<`. -/
def typeArgumentsOf (type : Parser TypeRef) (bound : Nat) : Parser (List TypeRef) :=
  inAngles (typeArgument type) .noTypeArguments .typeArgumentsUnclosed bound

/-- Whether the brackets of an array follow. The opening bracket must stand right behind the type, the
closing one right behind the opening one; only comments may come between. -/
def arrayBrackets : Parser Bool := do
  if (← peekWith .toLayout) = .leftBracket then
    discard (advanceWith .toLayout)
    if (← peekWith .toLayout) = .rightBracket then discard (advanceWith .toLayout)
    else report .bracketExpected
    return true
  return false

/-- A written type, starting on its name. -/
def typeRef : Nat → Parser TypeRef
  | 0 => return .named (← span) false
  | bound + 1 => do
    unless (← kind).isTypeName do report .invalidTypeName
    let named := TypeRef.named (← span) (← kind).isBuiltinName
    let arguments ← do
      if (← peek) = .less then
        advance
        typeArgumentsOf (typeRef bound) bound
      else pure []
    return { named with arguments, array := ← arrayBrackets }

/-- The type arguments of a call, starting on `<`. -/
def typeArguments (bound : Nat) : Parser (List TypeRef) :=
  typeArgumentsOf (typeRef bound) bound

end ArrowScript.Grammar
