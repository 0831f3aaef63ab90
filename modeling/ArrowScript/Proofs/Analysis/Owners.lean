import ArrowScript.Analysis.State
import Mathlib.Tactic.Common

/-!
# Owners of scopes

Blocks, functions and types own a scope. `owner` lists what such a node declares directly, in the order of
the source, read off the tree alone; of several declarations under one name the first counts. Variables
are known by their name, functions and types by their name and number of type parameters. Definitions
inside function bodies declare nothing.

Types are numbered in the order of their declaration: `registrations` lists, for each number that a node
takes up, the owner that has the members of the type, if it is a type with members. `base` is the first
of these numbers.
-/

namespace ArrowScript.Analysis

/-- A declared variable or function, and whether its type is written down. -/
structure Entry where
  node : NodeId
  typed : Bool
deriving DecidableEq

/-- What an owner of a scope declares directly. -/
structure Owner where
  variableList : List (String × Entry)
  functionList : List ((String × Nat) × Entry)
  typeList : List ((String × Nat) × TypeId)

namespace Owner

/-- Nothing is declared. -/
def empty : Owner :=
  ⟨[], [], []⟩

/-- What one owner declares, then what another does. -/
def append (first second : Owner) : Owner where
  variableList := first.variableList ++ second.variableList
  functionList := first.functionList ++ second.functionList
  typeList := first.typeList ++ second.typeList

instance : Append Owner :=
  ⟨append⟩

/-- A single variable. -/
def ofVariable (name : Span) (node : NodeId) (typed : Bool) : Owner :=
  ⟨[(name.content, ⟨node, typed⟩)], [], []⟩

/-- A single function. -/
def ofFunction (name : Span) (arity : Nat) (node : NodeId) (typed : Bool) : Owner :=
  ⟨[], [((name.content, arity), ⟨node, typed⟩)], []⟩

/-- A single type. -/
def ofType (name : Span) (arity : Nat) (type : TypeId) : Owner :=
  ⟨[], [], [((name.content, arity), type)]⟩

lemma append_assoc (first second third : Owner) :
    first ++ second ++ third = first ++ (second ++ third) := by
  show Owner.mk _ _ _ = Owner.mk _ _ _
  exact congr (congr (congrArg _ (List.append_assoc ..)) (List.append_assoc ..))
    (List.append_assoc ..)

@[simp] lemma append_empty (owner : Owner) : owner ++ empty = owner := by
  show Owner.mk (owner.variableList ++ []) (owner.functionList ++ []) (owner.typeList ++ []) = owner
  simp only [List.append_nil]

@[simp] lemma empty_append (owner : Owner) : empty ++ owner = owner := rfl

end Owner

end ArrowScript.Analysis

namespace ArrowScript
open Analysis

/-- The type parameters of a definition, numbered from a base on. -/
def typeParameterOwner (base : Nat) : List Span → Owner
  | [] => .empty
  | name :: rest => .ofType name 0 ⟨base⟩ ++ typeParameterOwner (base + 1) rest

/-- The declared variable. -/
def Declaration.declares (declaration : Declaration) : Owner :=
  .ofVariable declaration.name declaration.id declaration.written.isSome

/-- Declared variables one after the other. -/
def fieldOwner : List Declaration → Owner
  | [] => .empty
  | field :: rest => field.declares ++ fieldOwner rest

/-- The parameters of a function. -/
def parameterOwner : List Parameter → Owner
  | [] => .empty
  | parameter :: rest => .ofVariable parameter.name parameter.id true ++ parameterOwner rest

/-- The declared function. -/
def FunctionDef.declares : FunctionDef → Owner
  | ⟨id, name, typeParameters, _, returns, _, _⟩ =>
    .ofFunction name (typeArity typeParameters) id returns.isSome

/-- Declared functions one after the other. -/
def functionOwner : List FunctionDef → Owner
  | [] => .empty
  | definition :: rest => definition.declares ++ functionOwner rest

/-- What a function declares in its own scope: type parameters and parameters. -/
def FunctionDef.owner (base : Nat) : FunctionDef → Owner
  | ⟨_, _, typeParameters, parameters, _, _, _⟩ =>
    typeParameterOwner base (typeParameters.getD []) ++ parameterOwner parameters

/-- What a type declares in its own scope: type parameters, fields and methods. The type itself takes up
the first number. -/
def TypeDef.owner (base : Nat) : TypeDef → Owner
  | ⟨_, _, typeParameters, fields, methods, _, _⟩ =>
    typeParameterOwner (base + 1) (typeParameters.getD []) ++
      (fieldOwner fields ++ functionOwner methods)

/-- The numbers that a function takes up are those of its type parameters. -/
def FunctionDef.registrations : FunctionDef → List (Option Owner)
  | ⟨_, _, typeParameters, _, _, _, _⟩ => List.replicate (typeArity typeParameters) none

/-- The numbers that some functions take up. -/
def functionRegistrations : List FunctionDef → List (Option Owner)
  | [] => []
  | definition :: rest => definition.registrations ++ functionRegistrations rest

/-- The numbers that a type takes up: its own, those of its type parameters and of its methods. -/
def TypeDef.registrations (base : Nat) : TypeDef → List (Option Owner)
  | ⟨id, name, typeParameters, fields, methods, keyword, binding⟩ =>
    some (TypeDef.owner base ⟨id, name, typeParameters, fields, methods, keyword, binding⟩) ::
      (List.replicate (typeArity typeParameters) none ++ functionRegistrations methods)

mutual

/-- The numbers that a block takes up; `nested` tells whether it is inside a function. -/
def Block.registrations (nested : Bool) (base : Nat) : Block → List (Option Owner)
  | ⟨_, _, statements, _⟩ => statementRegistrations nested base statements

/-- The numbers that some statements take up. -/
def statementRegistrations (nested : Bool) (base : Nat) : List Statement → List (Option Owner)
  | [] => []
  | statement :: rest =>
    statement.registrations nested base ++
      statementRegistrations nested (base + (statement.registrations nested base).length) rest

/-- The numbers that a statement takes up. -/
def Statement.registrations (nested : Bool) (base : Nat) : Statement → List (Option Owner)
  | .type definition => if nested then [] else definition.registrations base
  | .function definition => if nested then [] else definition.registrations
  | .whileLoop _ _ body => body.registrations nested base
  | .conditional conditional => conditional.registrations nested base
  | .variable _ | .returning .. | .breaking _ | .continuing _ | .importing .. | .path ..
  | .expression _ => []

/-- The numbers that a conditional takes up. -/
def Conditional.registrations (nested : Bool) (base : Nat) : Conditional → List (Option Owner)
  | ⟨_, body, otherwise, _⟩ =>
    body.registrations nested base ++
      otherwise.registrations nested (base + (body.registrations nested base).length)

/-- The numbers that are taken up by what is done when a condition fails. -/
def Otherwise.registrations (nested : Bool) (base : Nat) : Otherwise → List (Option Owner)
  | .nothing => []
  | .conditional conditional => conditional.registrations nested base
  | .block block => block.registrations nested base

end

/-- What a statement declares in the scope around it. -/
def Statement.declares (nested : Bool) (base : Nat) : Statement → Owner
  | .type ⟨_, name, typeParameters, _, _, _, _⟩ =>
    if nested then .empty else .ofType name (typeArity typeParameters) ⟨base⟩
  | .function definition => if nested then .empty else definition.declares
  | .variable declaration => declaration.declares
  | .whileLoop .. | .conditional _ | .returning .. | .breaking _ | .continuing _ | .importing ..
  | .path .. | .expression _ => .empty

/-- What some statements declare in the scope around them. -/
def statementOwner (nested : Bool) (base : Nat) : List Statement → Owner
  | [] => .empty
  | statement :: rest =>
    statement.declares nested base ++
      statementOwner nested (base + (statement.registrations nested base).length) rest

end ArrowScript
