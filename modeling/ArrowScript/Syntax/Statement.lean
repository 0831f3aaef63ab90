import ArrowScript.Syntax.Expression

/-!
# Statements

A program is a block of statements. Blocks, definitions, parameters and declarations carry a handle of
their own; the scopes and types that the analysis finds are kept under these handles.
-/

namespace ArrowScript

/-- A declared variable, with a written type, an initial value or both. -/
structure Declaration where
  id : NodeId
  name : Span
  written : Option TypeRef
  initial : Option Expression
  type : Option TypeId

/-- A parameter of a function. -/
structure Parameter where
  id : NodeId
  name : Span
  written : TypeRef

/-- Whether a block is the whole program or stands in braces. -/
inductive BlockKind
  | program
  | braced
deriving DecidableEq

mutual

/-- Statements with a scope of their own. -/
structure Block where
  id : NodeId
  kind : BlockKind
  statements : List Statement
  span : Span

/-- A defined function; `keyword` is the span of `function`. -/
structure FunctionDef where
  id : NodeId
  name : Span
  typeParameters : Option (List Span)
  parameters : List Parameter
  returns : Option TypeRef
  body : Block
  keyword : Span

/-- A defined type; `keyword` is the span of `type`. -/
structure TypeDef where
  id : NodeId
  name : Span
  typeParameters : Option (List Span)
  fields : List Declaration
  methods : List FunctionDef
  keyword : Span
  binding : Option TypeId

/-- A condition with the block that depends on it. -/
structure Conditional where
  condition : Expression
  body : Block
  otherwise : Otherwise
  keyword : Span

/-- What is done when a condition fails. -/
inductive Otherwise
  | nothing
  | conditional (conditional : Conditional)
  | block (block : Block)

/-- The forms of statements. -/
inductive Statement
  | type (definition : TypeDef)
  | function (definition : FunctionDef)
  | variable (declaration : Declaration)
  | returning (keyword : Span) (value : Option Expression)
  | breaking (keyword : Span)
  | continuing (keyword : Span)
  | whileLoop (keyword : Span) (condition : Expression) (body : Block)
  | conditional (conditional : Conditional)
  | importing (keyword : Span) (target : Chain)
  | path (keyword : Span) (target : Chain)
  | expression (expression : Expression)

end

/-- The number of type parameters, none when no list is written. -/
def typeArity (typeParameters : Option (List Span)) : Nat :=
  typeParameters.elim 0 List.length

/-- The number of type parameters of a function. -/
def FunctionDef.arity (definition : FunctionDef) : Nat :=
  typeArity definition.typeParameters

/-- The number of type parameters of a type. -/
def TypeDef.arity (definition : TypeDef) : Nat :=
  typeArity definition.typeParameters

/-- A parsed source file. -/
structure Program where
  file : String
  root : Block

end ArrowScript
