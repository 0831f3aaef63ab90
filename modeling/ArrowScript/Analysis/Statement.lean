import ArrowScript.Analysis.Declare
import ArrowScript.Analysis.Expression

/-!
# Analysis of programs

Statements are visited in the scopes that declaring has made. `analyze` first declares everything in a
program and then visits it, and gives the program with everything filled in that was found out.
-/

namespace ArrowScript.Analysis

/-- Reports a value of another type than is expected, when both types are known. -/
def checkExpected (problem : TypeId → TypeId → SemanticProblem) (expected found : Option TypeId)
    (span : Span) : Step Unit := do
  if let (some expected, some found) := (expected, found) then
    unless (← get).types.compatible expected found do report (problem expected found) span

/-- Fills in an optional part of a node; an absent one has no type. -/
def visitOptional {α : Type} (visit : α → Visit α (α × Option TypeId)) :
    Option α → Visit (Option α) (Option α × Option TypeId)
  | none => return (none, none)
  | some part => do
    let (part, type) ← within some (visit part)
    return (some part, type)

/-- Fills in a declaration. Without a written type the variable has the type of its initial value. -/
def visitDeclaration (declaration : Declaration) : Visit Declaration Declaration := do
  let scope ← askFor declaration State.scope
  match declaration.written with
  | some written =>
    let (written, expected) ← bindDeclared declaration.id scope written
    let declaration := { declaration with written := some written }
    let (initial, found) ← within (fun initial => { declaration with initial })
      (visitOptional visitExpression declaration.initial)
    if let some value := initial then
      checkExpected .initialDiffers expected found value.root.span
    return { declaration with initial, type := expected }
  | none =>
    let (initial, found) ← within (fun initial => { declaration with initial })
      (visitOptional visitExpression declaration.initial)
    if let some type := found then
      modify fun state =>
        { state with inferredTypes := (declaration.id, type) :: state.inferredTypes }
    return { declaration with initial, type := found }

/-- Fills in declarations one after the other. -/
def visitDeclarations : List Declaration → Visit (List Declaration) (List Declaration)
  | [] => return []
  | declaration :: rest => do
    let declaration ← within (· :: rest) (visitDeclaration declaration)
    let rest ← within (declaration :: ·) (visitDeclarations rest)
    return declaration :: rest

/-- Fills in the type of a parameter. -/
def visitParameter (scope : ScopeId) (parameter : Parameter) : Step Parameter := do
  let (written, _) ← bindDeclared parameter.id scope parameter.written
  return { parameter with written }

/-- Fills in the types of parameters, one after the other. -/
def visitParameters (scope : ScopeId) (parameters : List Parameter) : Step (List Parameter) :=
  parameters.mapM (visitParameter scope)

/-- Fills in the type that a function returns, which is nothing when none is written. -/
def visitReturns (node : NodeId) (scope : ScopeId) :
    Option TypeRef → Step (Option TypeRef × Option TypeId)
  | none => return (none, some .nothing)
  | some written => do
    let (written, type) ← bindDeclared node scope written
    return (some written, type)

/-- Fills in a returned value and compares its type with the one that the function returns. -/
def visitReturning (keyword : Span) (value : Option Expression) :
    Visit (Option Expression) (Option Expression) := do
  let (value, found) ← visitOptional visitExpression value
  let found := if value.isSome then found else some .nothing
  checkExpected .returnDiffers (← get).returnTypes.head?.join found keyword
  return value

mutual

/-- Fills in a block. -/
def visitBlock : Block → Visit Block Block
  | ⟨id, kind, statements, span⟩ => do
    let scope ← askFor ⟨id, kind, statements, span⟩ (·.scopes.reopen id)
    enter scope
    let statements ← within (⟨id, kind, ·, span⟩) (visitStatements statements)
    leave
    return ⟨id, kind, statements, span⟩

/-- Fills in statements one after the other. -/
def visitStatements : List Statement → Visit (List Statement) (List Statement)
  | [] => return []
  | statement :: rest => do
    let statement ← within (· :: rest) (visitStatement statement)
    let rest ← within (statement :: ·) (visitStatements rest)
    return statement :: rest

/-- Fills in a statement. Definitions inside function bodies are left alone. -/
def visitStatement : Statement → Visit Statement Statement
  | .type definition => do
    if 0 < (← get).functionDepth then return .type definition
    return .type (← within .type (visitTypeDef definition))
  | .function definition => do
    if 0 < (← get).functionDepth then return .function definition
    return .function (← within .function (visitFunctionDef definition))
  | .variable declaration =>
    return .variable (← within .variable (visitDeclaration declaration))
  | .returning keyword value =>
    return .returning keyword (← within (.returning keyword) (visitReturning keyword value))
  | .whileLoop keyword condition body => do
    let (condition, _) ← within (.whileLoop keyword · body) (visitExpression condition)
    let body ← within (.whileLoop keyword condition) (visitBlock body)
    return .whileLoop keyword condition body
  | .conditional conditional =>
    return .conditional (← within .conditional (visitConditional conditional))
  | .expression expression => do
    let (expression, _) ← within .expression (visitExpression expression)
    return .expression expression
  | .breaking keyword => return .breaking keyword
  | .continuing keyword => return .continuing keyword
  | .importing keyword target => return .importing keyword target
  | .path keyword target => return .path keyword target

/-- Fills in a conditional. -/
def visitConditional : Conditional → Visit Conditional Conditional
  | ⟨condition, body, otherwise, keyword⟩ => do
    let (condition, _) ← within (⟨·, body, otherwise, keyword⟩) (visitExpression condition)
    let body ← within (⟨condition, ·, otherwise, keyword⟩) (visitBlock body)
    let otherwise ← within (⟨condition, body, ·, keyword⟩) (visitOtherwise otherwise)
    return ⟨condition, body, otherwise, keyword⟩

/-- Fills in what is done when a condition fails. -/
def visitOtherwise : Otherwise → Visit Otherwise Otherwise
  | .nothing => return .nothing
  | .conditional conditional =>
    return .conditional (← within .conditional (visitConditional conditional))
  | .block block => return .block (← within .block (visitBlock block))

/-- Fills in a function. -/
def visitFunctionDef : FunctionDef → Visit FunctionDef FunctionDef
  | ⟨id, name, typeParameters, parameters, returns, body, keyword⟩ => do
    let scope ← askFor ⟨id, name, typeParameters, parameters, returns, body, keyword⟩
      (·.scopes.reopen id)
    enter scope
    let parameters ← visitParameters scope parameters
    let (returns, type) ← visitReturns id scope returns
    let body ← within (⟨id, name, typeParameters, parameters, returns, ·, keyword⟩)
      (returningType type (insideFunction (visitBlock body)))
    leave
    return ⟨id, name, typeParameters, parameters, returns, body, keyword⟩

/-- Fills in functions one after the other. -/
def visitFunctionDefs : List FunctionDef → Visit (List FunctionDef) (List FunctionDef)
  | [] => return []
  | definition :: rest => do
    let definition ← within (· :: rest) (visitFunctionDef definition)
    let rest ← within (definition :: ·) (visitFunctionDefs rest)
    return definition :: rest

/-- Fills in a type with its fields and methods. -/
def visitTypeDef : TypeDef → Visit TypeDef TypeDef
  | ⟨id, name, typeParameters, fields, methods, keyword, _⟩ => do
    let binding := (← get).definedTypes.lookup id
    let scope ← askFor ⟨id, name, typeParameters, fields, methods, keyword, binding⟩
      (·.scopes.reopen id)
    enter scope
    let fields ← within (⟨id, name, typeParameters, ·, methods, keyword, binding⟩)
      (visitDeclarations fields)
    let methods ← within (⟨id, name, typeParameters, fields, ·, keyword, binding⟩)
      (visitFunctionDefs methods)
    leave
    return ⟨id, name, typeParameters, fields, methods, keyword, binding⟩

end

/-- Declares what is in a block and fills the block in. -/
def runBlock (root : Block) : Visit Block Block := do
  (declareBlock root).adaptExcept fun fault => (fault, root)
  visitBlock root

/-- A program after analysis, filled in up to a fault if there was one. -/
structure Analyzed where
  program : Program
  fault? : Option Fault
  findings : List (Finding SemanticProblem)
  /-- What the analysis knows from here on; the findings are not kept. -/
  state : State

/-- The findings in words. -/
def Analyzed.diagnostics (analyzed : Analyzed) : List Diagnostic :=
  analyzed.findings.map (SemanticProblem.diagnostic analyzed.state.types)

/-- Takes the findings out of the state and puts the root back into its program. -/
def finish (program : Program) (root : Block) (fault? : Option Fault) (state : State) : Analyzed where
  program := { program with root }
  fault?
  findings := state.findings.toList
  state := { state with findings := #[] }

/-- Analyzes a program with what is known from earlier ones. -/
def analyze (state : State) (program : Program) : Analyzed :=
  match runBlock program.root state with
  | .ok root state => finish program root none state
  | .error (fault, root) state => finish program root (some fault) state

end ArrowScript.Analysis
