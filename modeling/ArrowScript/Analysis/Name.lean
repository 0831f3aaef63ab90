import ArrowScript.Analysis.WrittenType

/-!
# Names

The first name of a chain is looked up from the innermost scope outward. A name behind a dot is a member:
it is looked up in the scope of the type of what stands before the dot, and only types that a program
defines have members. Functions are looked up under their name and the number of type arguments.
-/

namespace ArrowScript.Analysis

/-- Where a name is looked up, and how far; members of types that are not defined in a program are looked
up nowhere. -/
def memberScope (owner : Option TypeId) (state : State) : Except Fault (Option (ScopeId × Reach)) :=
  match owner with
  | none => do return some (← state.scope, .outward)
  | some type =>
    match state.types.userNode? type with
    | some node => do return some (← state.scopes.reopen node, .here)
    | none => .ok none

/-- What a name was declared as, looked up as a member if there is an owner. -/
def findMember {σ : Type} [Symbol σ] (owner : Option TypeId) (key : String) (state : State) :
    Except Fault (Option σ) := do
  return (← memberScope owner state).bind fun (scope, reach) => state.scopes.find? scope key reach

/-- Reports a name that is not declared. -/
def reportMissing (what : Declared) (identifier : Identifier) (owner : Option TypeId) : Step Unit :=
  match owner with
  | some owner => report (.missingMember what identifier.name owner) identifier.span
  | none => report (.missing what identifier.name) identifier.span

/-- The type of a variable: the one it is declared with, or else the one of its initial value. -/
def variableType (symbol : VariableSymbol) : Step (Option TypeId) := do
  match symbol.written with
  | some written => declaredType symbol.node symbol.scope written
  | none => return (← get).inferredTypes.lookup symbol.node

/-- Binds the name of a variable and gives its type. -/
def bindVariable (owner : Option TypeId) (identifier : Identifier) :
    Visit Identifier (Identifier × Option TypeId) := do
  match ← askFor identifier (findMember owner identifier.name) with
  | some symbol =>
    return ({ identifier with binding := some (.variable symbol.node) }, ← variableType symbol)
  | none =>
    reportMissing .variable identifier owner
    return (identifier, none)

/-- Checks arguments from a position on against the parameters of a function. -/
def checkArgumentsFrom (function : String) (scope : ScopeId) :
    Nat → List (NodeId × TypeRef) → List (Option TypeId × Span) → Step Unit
  | position, (parameter, written) :: parameters, (found?, span) :: arguments => do
    let expected? ← declaredType parameter scope written
    if let (some expected, some found) := (expected?, found?) then
      unless (← get).types.compatible expected found do
        report (.argumentDiffers position function expected found) span
    checkArgumentsFrom function scope (position + 1) parameters arguments
  | _, _, _ => return

/-- Checks the number of arguments of a call and their types. -/
def checkArguments (identifier : Identifier) (symbol : FunctionSymbol)
    (arguments : List (Option TypeId × Span)) : Step Unit := do
  if arguments.length ≠ symbol.parameters.length then
    report (.argumentCount identifier.name symbol.parameters.length arguments.length) identifier.span
  checkArgumentsFrom identifier.name symbol.scope 1 symbol.parameters arguments

/-- The type that a function returns. -/
def returnedType (symbol : FunctionSymbol) : Step (Option TypeId) :=
  match symbol.returns with
  | some written => declaredType symbol.node symbol.scope written
  | none => return some .nothing

/-- Binds the name of a called function and gives the type that it returns. -/
def bindFunction (owner : Option TypeId) (arity : Nat) (arguments : List (Option TypeId × Span))
    (identifier : Identifier) : Visit Identifier (Identifier × Option TypeId) := do
  match ← askFor identifier (findMember owner (mangle identifier.name arity)) with
  | some symbol =>
    checkArguments identifier symbol arguments
    return ({ identifier with binding := some (.function symbol.node) }, ← returnedType symbol)
  | none =>
    reportMissing .function identifier owner
    return (identifier, none)

/-- Fills in the type arguments of a call and counts them. -/
def bindTypeArguments :
    Option (List TypeRef) → Visit (Option (List TypeRef)) (Option (List TypeRef) × Nat)
  | none => return (none, 0)
  | some written => do
    let scope ← askFor (some written) State.scope
    let bound ← bindTypeArgumentList scope written
    return (some bound, bound.length)

/-- The type that a name stands for behind `new`: a built-in one if there are no type arguments, or else
a declared one. -/
def constructedType? (state : State) (scope : ScopeId) (name : String) (arity : Nat) :
    Option TypeId :=
  let builtin := if arity = 0 then TypeRegistry.builtin? name else none
  builtin.or
    ((state.scopes.find? scope (mangle name arity) .outward : Option TypeSymbol).map TypeSymbol.type)

/-- Binds the name of a type behind `new`. -/
def bindConstructed (arity : Nat) (identifier : Identifier) :
    Visit Identifier (Identifier × Option TypeId) := do
  let scope ← askFor identifier State.scope
  match constructedType? (← get) scope identifier.name arity with
  | some type => return ({ identifier with binding := some (.type type) }, some type)
  | none =>
    report (.unknownType identifier.name) identifier.span
    return (identifier, none)

end ArrowScript.Analysis
