import ArrowScript.Analysis.Statement
import ArrowScript.Proofs.Analysis.Renaming

/-!
# Well-typed programs

What it means for an analyzed program to be well typed by the types that are recorded in it, with no look at how
they were found. Where a type is not recorded nothing is asked. `Expr.WellTyped` and its companions follow the
syntax; `Typing` holds what they ask beside the tree, that is the registry of the types and the functions of the
whole program.
-/

namespace ArrowScript

/-! ## Functions of a program -/

mutual

/-- The functions that are defined in a block, wherever they are. -/
def Block.functions : Block → List FunctionDef
  | ⟨_, _, statements, _⟩ => statementFunctions statements

/-- The functions that are defined in some statements. -/
def statementFunctions : List Statement → List FunctionDef
  | [] => []
  | statement :: rest => statement.functions ++ statementFunctions rest

/-- The functions that are defined in a statement. -/
def Statement.functions : Statement → List FunctionDef
  | .type definition => definition.functions
  | .function definition => definition.functions
  | .whileLoop _ _ body => body.functions
  | .conditional conditional => conditional.functions
  | .variable _ | .returning .. | .breaking _ | .continuing _ | .importing .. | .path .. | .expression _ => []

/-- The functions that are defined in a conditional. -/
def Conditional.functions : Conditional → List FunctionDef
  | ⟨_, body, otherwise, _⟩ => body.functions ++ otherwise.functions

/-- The functions that are defined in what is done when a condition fails. -/
def Otherwise.functions : Otherwise → List FunctionDef
  | .nothing => []
  | .conditional conditional => conditional.functions
  | .block block => block.functions

/-- A function and those that are defined in it. -/
def FunctionDef.functions : FunctionDef → List FunctionDef
  | ⟨id, name, typeParameters, parameters, returns, body, keyword⟩ =>
    ⟨id, name, typeParameters, parameters, returns, body, keyword⟩ :: body.functions

/-- Some functions and those that are defined in them. -/
def functionsAmong : List FunctionDef → List FunctionDef
  | [] => []
  | definition :: rest => definition.functions ++ functionsAmong rest

/-- The methods of a type and the functions that are defined in them. -/
def TypeDef.functions : TypeDef → List FunctionDef
  | ⟨_, _, _, _, methods, _, _⟩ => functionsAmong methods

end

/-! ## Recorded types -/

/-- The type that is recorded for an expression. That of a new array is the array type over its element. -/
def Expr.recorded (registry : TypeRegistry) : Expr → Option TypeId
  | .binary _ _ _ _ type | .unary _ _ _ type | .literal _ _ type => type
  | .chain path | .new _ path => path.type
  | .newArray _ element => element.type.bind registry.array?
  | .nothing _ => some .nothing
  | .missing _ => none

/-- The type of a returned value; that of an absent one is nothing. -/
def returnedType (value : Option Expression) : Option TypeId :=
  value.elim (some .nothing) Expression.type

/-- The type that a function is to return; nothing if none is written. -/
def FunctionDef.returnType (definition : FunctionDef) : Option TypeId :=
  definition.returns.elim (some .nothing) TypeRef.binding

namespace Analysis

/-- The types and the functions of a program. -/
structure Typing where
  registry : TypeRegistry
  functions : List FunctionDef

namespace Typing

variable (typing : Typing)

/-- A value may stand where another is expected, if both types are known. -/
def Accepts (expected found : Option TypeId) : Prop :=
  ∀ first ∈ expected, ∀ second ∈ found, typing.registry.compatible first second

/-- A value may be used as an index, if its type is known. -/
def Indexes (found : Option TypeId) : Prop :=
  ∀ type ∈ found, type = .int ∨ typing.registry.isGeneric type

/-- The arguments of a call go one by one with the parameters of the function that it is bound to. -/
def Passes (node : NodeId) (arguments : List Expression) : Prop :=
  ∃ definition ∈ typing.functions, definition.id = node ∧
    List.Forall₂ (fun parameter argument => typing.Accepts parameter.written.binding argument.type)
      definition.parameters arguments

end Typing

end Analysis

section
open Analysis

variable (typing : Typing)

/-! ## Expressions -/

mutual

/-- An expression is well typed. -/
def Expr.WellTyped : Expr → Prop
  | .binary operator _ left right _ => left.WellTyped ∧ right.WellTyped ∧
    (∀ first ∈ left.recorded typing.registry, ∀ second ∈ right.recorded typing.registry, first = second) ∧
    (operator = .assign → ∀ path, left = .chain path → path.endsInCall = false)
  | .unary _ _ operand _ => operand.WellTyped
  | .chain path | .new _ path => path.WellTyped
  | .newArray _ element => element.WellTyped
  | .literal .. | .nothing _ | .missing _ => True

/-- A whole expression is well typed. -/
def Expression.WellTyped : Expression → Prop
  | ⟨root, _⟩ => root.WellTyped

/-- A chain is well typed. -/
def Chain.WellTyped : Chain → Prop
  | ⟨links, _, _⟩ => linksWellTyped links

/-- Some links are well typed. -/
def linksWellTyped : List Link → Prop
  | [] => True
  | link :: rest => link.WellTyped ∧ linksWellTyped rest

/-- A link is well typed. -/
def Link.WellTyped : Link → Prop
  | .name _ => True
  | .index _ index _ => index.WellTyped ∧ typing.Indexes index.type
  | .call identifier _ arguments _ => argumentsWellTyped arguments ∧
    ∀ node, identifier.binding = some (.function node) → typing.Passes node arguments

/-- Some arguments are well typed. -/
def argumentsWellTyped : List Expression → Prop
  | [] => True
  | argument :: rest => argument.WellTyped ∧ argumentsWellTyped rest

end

/-! ## Statements -/

/-- A declaration is well typed. -/
structure Declaration.WellTyped (declaration : Declaration) : Prop where
  initial : ∀ value ∈ declaration.initial, value.WellTyped typing
  accepted : typing.Accepts (declaration.written.bind TypeRef.binding) (declaration.initial.bind Expression.type)

mutual

/-- A block is well typed; `returned` is the type to be returned inside a function. -/
def Block.WellTyped (returned : Option (Option TypeId)) : Block → Prop
  | ⟨_, _, statements, _⟩ => statementsWellTyped returned statements

/-- Some statements are well typed. -/
def statementsWellTyped (returned : Option (Option TypeId)) : List Statement → Prop
  | [] => True
  | statement :: rest => statement.WellTyped returned ∧ statementsWellTyped returned rest

/-- A statement is well typed. Nothing is defined inside a function. -/
def Statement.WellTyped (returned : Option (Option TypeId)) : Statement → Prop
  | .type definition => returned = none ∧ definition.WellTyped
  | .function definition => returned = none ∧ definition.WellTyped
  | .variable declaration => declaration.WellTyped typing
  | .returning _ value => (∀ found ∈ value, Expression.WellTyped typing found) ∧
    ∀ expected ∈ returned, typing.Accepts expected (returnedType value)
  | .whileLoop _ condition body => condition.WellTyped typing ∧ body.WellTyped returned
  | .conditional conditional => conditional.WellTyped returned
  | .importing _ target | .path _ target => target.WellTyped typing
  | .expression expression => expression.WellTyped typing
  | .breaking _ | .continuing _ => True

/-- A conditional is well typed. -/
def Conditional.WellTyped (returned : Option (Option TypeId)) : Conditional → Prop
  | ⟨condition, body, otherwise, _⟩ =>
    condition.WellTyped typing ∧ body.WellTyped returned ∧ otherwise.WellTyped returned

/-- What is done when a condition fails is well typed. -/
def Otherwise.WellTyped (returned : Option (Option TypeId)) : Otherwise → Prop
  | .nothing => True
  | .conditional conditional => conditional.WellTyped returned
  | .block block => block.WellTyped returned

/-- A function is well typed. -/
def FunctionDef.WellTyped : FunctionDef → Prop
  | ⟨id, name, typeParameters, parameters, returns, body, keyword⟩ =>
    body.WellTyped (some (FunctionDef.returnType ⟨id, name, typeParameters, parameters, returns, body, keyword⟩))

/-- Some functions are well typed. -/
def functionsWellTyped : List FunctionDef → Prop
  | [] => True
  | definition :: rest => definition.WellTyped ∧ functionsWellTyped rest

/-- A type is well typed. -/
def TypeDef.WellTyped : TypeDef → Prop
  | ⟨_, _, _, fields, methods, _, _⟩ => (∀ field ∈ fields, field.WellTyped typing) ∧ functionsWellTyped methods

end

end

/-- An analyzed program is well typed. -/
def Analysis.Analyzed.WellTyped (analyzed : Analyzed) : Prop :=
  analyzed.program.root.WellTyped ⟨analyzed.state.types, analyzed.program.root.functions⟩ none

end ArrowScript
