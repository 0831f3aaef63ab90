import ArrowScript.Analysis.State

/-!
# Declaring

Before any name is looked up, everything that a program declares is put into scopes. Every block, function
and type gets a scope of its own, in which the parent is the scope around it; when its declarations are
in, the scope is recorded for the node. Definitions inside function bodies are reported and left alone.
-/

namespace ArrowScript.Analysis

/-- An action that may fail. -/
abbrev Attempt := EStateM Fault State

/-- The innermost scope. -/
def currentScope : Attempt ScopeId :=
  ask id State.scope

/-- Records the scope of a node. -/
def close (node : NodeId) (scope : ScopeId) : Attempt Unit := do
  let scopes ← ask id (·.scopes.close node scope)
  modify fun state => { state with scopes }

/-- Declares a symbol under a key; `name` is where it stands. A key that is taken is reported. -/
def declare {σ : Type} [Symbol σ] (what : Declared) (scope : ScopeId) (key : String) (name : Span)
    (symbol : σ) : Step Unit := do
  let first? ← modifyGet fun state =>
    let (first?, scopes) := state.scopes.declare scope key symbol
    (first?, { state with scopes })
  if let some first := first? then report (.alreadyDefined what name.content first) name

/-- Declares a variable or parameter in the innermost scope. -/
def declareVariable (node : NodeId) (name : Span) (written : Option TypeRef) : Attempt Unit := do
  let scope ← currentScope
  declare .variable scope name.content name ({ node, span := name, scope, written } : VariableSymbol)

/-- Declares a field or variable. -/
def declareField (field : Declaration) : Attempt Unit :=
  declareVariable field.id field.name field.written

/-- Declares a parameter. -/
def declareParameter (parameter : Parameter) : Attempt Unit :=
  declareVariable parameter.id parameter.name (some parameter.written)

/-- Registers a type parameter and declares it. -/
def declareTypeParameter (scope : ScopeId) (name : Span) : Step Unit := do
  let type ← modifyGet fun state =>
    let (type, types) := state.types.registerParameter name.content
    (type, { state with types })
  declare .type scope name.content name ({ type, span := name } : TypeSymbol)

/-- Declares the type parameters of a definition. -/
def declareTypeParameters (scope : ScopeId) (names : Option (List Span)) : Step Unit :=
  (names.getD []).forM (declareTypeParameter scope)

/-- Registers the type that a node defines and declares it. -/
def declareType (scope : ScopeId) (node : NodeId) (name : Span) (arity : Nat) : Step Unit := do
  let type ← modifyGet fun state =>
    let (type, types) := state.types.registerUser name.content node
    (type, { state with types, definedTypes := (node, type) :: state.definedTypes })
  declare .type scope (mangle name.content arity) name ({ type, span := name } : TypeSymbol)

/-- Declares a function, whose own scope is `own`. -/
def declareFunction (scope own : ScopeId) (node : NodeId) (name : Span) (arity : Nat)
    (parameters : List Parameter) (returns : Option TypeRef) : Step Unit :=
  declare .function scope (mangle name.content arity) name
    ({ node, span := name, scope := own, returns
       parameters := parameters.map fun parameter => (parameter.id, parameter.written) } :
      FunctionSymbol)

mutual

/-- Declares what is in a block. -/
def declareBlock : Block → Attempt Unit
  | ⟨id, _, statements, _⟩ => do
    let scope ← openUnder (← get).active.head?
    enter scope
    declareStatements statements
    leave
    close id scope

/-- Declares what is in some statements. -/
def declareStatements : List Statement → Attempt Unit
  | [] => return
  | statement :: rest => do
    declareStatement statement
    declareStatements rest

/-- Declares what a statement declares, and what is in its blocks. -/
def declareStatement : Statement → Attempt Unit
  | .type definition => do
    if 0 < (← get).functionDepth then report .typeInFunction definition.keyword
    else declareTypeDef definition
  | .function definition => do
    if 0 < (← get).functionDepth then report .functionInFunction definition.keyword
    else declareFunctionDef definition
  | .variable declaration => declareField declaration
  | .whileLoop _ _ body => declareBlock body
  | .conditional conditional => declareConditional conditional
  | .returning .. | .breaking _ | .continuing _ | .importing .. | .path .. | .expression _ => return

/-- Declares what is in the blocks of a conditional. -/
def declareConditional : Conditional → Attempt Unit
  | ⟨_, body, otherwise, _⟩ => do
    declareBlock body
    declareOtherwise otherwise

/-- Declares what is in the blocks that stand for a failed condition. -/
def declareOtherwise : Otherwise → Attempt Unit
  | .nothing => return
  | .conditional conditional => declareConditional conditional
  | .block block => declareBlock block

/-- Declares a function, its parameters and what is in its body. -/
def declareFunctionDef : FunctionDef → Attempt Unit
  | ⟨id, name, typeParameters, parameters, returns, body, _⟩ => do
    let scope ← currentScope
    let own ← openUnder (some scope)
    declareFunction scope own id name (typeArity typeParameters) parameters returns
    enter own
    declareTypeParameters own typeParameters
    parameters.forM declareParameter
    insideFunction (declareBlock body)
    leave
    close id own

/-- Declares some functions. -/
def declareFunctionDefs : List FunctionDef → Attempt Unit
  | [] => return
  | definition :: rest => do
    declareFunctionDef definition
    declareFunctionDefs rest

/-- Declares a type with its fields and methods. -/
def declareTypeDef : TypeDef → Attempt Unit
  | ⟨id, name, typeParameters, fields, methods, _, _⟩ => do
    let scope ← currentScope
    declareType scope id name (typeArity typeParameters)
    let own ← openUnder (some scope)
    enter own
    declareTypeParameters own typeParameters
    fields.forM declareField
    declareFunctionDefs methods
    leave
    close id own

end

end ArrowScript.Analysis
