import ArrowScript.Proofs.Analysis.Erasing
import ArrowScript.Proofs.Analysis.Interning

/-!
# Handles of types

The handles of types that stand in a tree are what its written types, its names behind `new`, its expressions, its
variables and its definitions were found to be. There are none before the analysis. A registry that is only extended
by array types keeps what it knows of every handle.
-/

namespace ArrowScript

/-! ## Written types and expressions -/

mutual

/-- The handles in a written type. -/
def TypeRef.handles : TypeRef → List TypeId
  | ⟨_, _, arguments, _, binding⟩ => binding.toList ++ typesHandles arguments

/-- The handles in some written types. -/
def typesHandles : List TypeRef → List TypeId
  | [] => []
  | written :: rest => written.handles ++ typesHandles rest

end

/-- The handles in what a name stands for. -/
def Binding.handles : Binding → List TypeId
  | .type found => [found]
  | .variable _ | .function _ => []

/-- The handles in a name. -/
def Identifier.handles (identifier : Identifier) : List TypeId :=
  identifier.binding.elim [] Binding.handles

mutual

/-- The handles in an expression. -/
def Expr.handles : Expr → List TypeId
  | .binary _ _ left right type => left.handles ++ right.handles ++ type.toList
  | .unary _ _ operand type => operand.handles ++ type.toList
  | .chain path => path.handles
  | .literal _ _ type => type.toList
  | .new _ path => path.handles
  | .newArray _ element => element.handles
  | .nothing _ | .missing _ => []

/-- The handles in a whole expression. -/
def Expression.handles : Expression → List TypeId
  | ⟨root, type⟩ => root.handles ++ type.toList

/-- The handles in a chain. -/
def Chain.handles : Chain → List TypeId
  | ⟨links, _, type⟩ => linksHandles links ++ type.toList

/-- The handles in some links. -/
def linksHandles : List Link → List TypeId
  | [] => []
  | link :: rest => link.handles ++ linksHandles rest

/-- The handles in a link. -/
def Link.handles : Link → List TypeId
  | .name identifier => identifier.handles
  | .index identifier index _ => identifier.handles ++ index.handles
  | .call identifier written arguments _ =>
    identifier.handles ++ written.elim [] typesHandles ++ argumentsHandles arguments

/-- The handles in some arguments. -/
def argumentsHandles : List Expression → List TypeId
  | [] => []
  | argument :: rest => argument.handles ++ argumentsHandles rest

end

/-! ## Statements -/

/-- The handles in a declaration. -/
def Declaration.handles (declaration : Declaration) : List TypeId :=
  declaration.written.elim [] TypeRef.handles ++ declaration.initial.elim [] Expression.handles ++
    declaration.type.toList

/-- The handles in a parameter. -/
def Parameter.handles (parameter : Parameter) : List TypeId :=
  parameter.written.handles

mutual

/-- The handles in a block. -/
def Block.handles : Block → List TypeId
  | ⟨_, _, statements, _⟩ => statementsHandles statements

/-- The handles in some statements. -/
def statementsHandles : List Statement → List TypeId
  | [] => []
  | statement :: rest => statement.handles ++ statementsHandles rest

/-- The handles in a statement. -/
def Statement.handles : Statement → List TypeId
  | .type definition => definition.handles
  | .function definition => definition.handles
  | .variable declaration => declaration.handles
  | .returning _ value => value.elim [] Expression.handles
  | .whileLoop _ condition body => condition.handles ++ body.handles
  | .conditional conditional => conditional.handles
  | .expression expression => expression.handles
  | .importing _ target | .path _ target => target.handles
  | .breaking _ | .continuing _ => []

/-- The handles in a conditional. -/
def Conditional.handles : Conditional → List TypeId
  | ⟨condition, body, otherwise, _⟩ => condition.handles ++ body.handles ++ otherwise.handles

/-- The handles in what is done when a condition fails. -/
def Otherwise.handles : Otherwise → List TypeId
  | .nothing => []
  | .conditional conditional => conditional.handles
  | .block block => block.handles

/-- The handles in a function. -/
def FunctionDef.handles : FunctionDef → List TypeId
  | ⟨_, _, _, parameters, returns, body, _⟩ =>
    parameters.flatMap Parameter.handles ++ returns.elim [] TypeRef.handles ++ body.handles

/-- The handles in some functions. -/
def functionsHandles : List FunctionDef → List TypeId
  | [] => []
  | definition :: rest => definition.handles ++ functionsHandles rest

/-- The handles in a type definition. -/
def TypeDef.handles : TypeDef → List TypeId
  | ⟨_, _, _, fields, methods, _, binding⟩ =>
    fields.flatMap Declaration.handles ++ functionsHandles methods ++ binding.toList

end

/-! ## Erased trees -/

mutual

lemma TypeRef.handles_erased : ∀ written : TypeRef, written.erased.handles = []
  | ⟨_, _, arguments, _, _⟩ => by rw [TypeRef.erased, TypeRef.handles, typesHandles_erased arguments]; rfl

lemma typesHandles_erased : ∀ list : List TypeRef, typesHandles (typesErased list) = []
  | [] => rfl
  | written :: rest => by
    rw [typesErased, typesHandles, written.handles_erased, typesHandles_erased rest]
    rfl

end

mutual

lemma Expr.handles_erased : ∀ x : Expr, x.erased.handles = []
  | .binary _ _ left right _ => by
    rw [Expr.erased, Expr.handles, left.handles_erased, right.handles_erased]
    rfl
  | .unary _ _ operand _ => by
    rw [Expr.erased, Expr.handles, operand.handles_erased]
    rfl
  | .chain path | .new _ path => by rw [Expr.erased, Expr.handles, path.handles_erased]
  | .newArray _ element => by rw [Expr.erased, Expr.handles, element.handles_erased]
  | .literal .. | .nothing _ | .missing _ => rfl

lemma Expression.handles_erased : ∀ x : Expression, x.erased.handles = []
  | ⟨root, _⟩ => by
    rw [Expression.erased, Expression.handles, root.handles_erased]
    rfl

lemma Chain.handles_erased : ∀ x : Chain, x.erased.handles = []
  | ⟨links, _, _⟩ => by
    rw [Chain.erased, Chain.handles, linksHandles_erased links]
    rfl

lemma linksHandles_erased : ∀ x : List Link, linksHandles (linksErased x) = []
  | [] => rfl
  | link :: rest => by
    rw [linksErased, linksHandles, link.handles_erased, linksHandles_erased rest]
    rfl

lemma Link.handles_erased : ∀ x : Link, x.erased.handles = []
  | .name _ => rfl
  | .index _ index _ => by
    rw [Link.erased, Link.handles, index.handles_erased]
    rfl
  | .call _ written arguments _ => by
    rw [Link.erased, Link.handles, argumentsHandles_erased arguments]
    cases written with
    | none => rfl
    | some list =>
      show [] ++ typesHandles (typesErased list) ++ [] = []
      rw [typesHandles_erased]
      rfl

lemma argumentsHandles_erased : ∀ x : List Expression, argumentsHandles (argumentsErased x) = []
  | [] => rfl
  | argument :: rest => by
    rw [argumentsErased, argumentsHandles, argument.handles_erased, argumentsHandles_erased rest]
    rfl

end

lemma Declaration.handles_erased (declaration : Declaration) : declaration.erased.handles = [] := by
  obtain ⟨id, name, written, initial, type⟩ := declaration
  cases written <;> cases initial <;>
    simp [Declaration.erased, Declaration.handles, TypeRef.handles_erased, Expression.handles_erased]

lemma Parameter.handles_erased (parameter : Parameter) : parameter.erased.handles = [] :=
  parameter.written.handles_erased

mutual

lemma Block.handles_erased : ∀ x : Block, x.erased.handles = []
  | ⟨_, _, statements, _⟩ => by rw [Block.erased, Block.handles, statementsHandles_erased statements]

lemma statementsHandles_erased : ∀ x : List Statement, statementsHandles (statementsErased x) = []
  | [] => rfl
  | statement :: rest => by
    rw [statementsErased, statementsHandles, statement.handles_erased, statementsHandles_erased rest]
    rfl

lemma Statement.handles_erased : ∀ x : Statement, x.erased.handles = []
  | .type definition => by rw [Statement.erased, Statement.handles, definition.handles_erased]
  | .function definition => by rw [Statement.erased, Statement.handles, definition.handles_erased]
  | .variable declaration => by rw [Statement.erased, Statement.handles, declaration.handles_erased]
  | .returning _ value => by
    cases value <;> simp [Statement.erased, Statement.handles, Expression.handles_erased]
  | .whileLoop _ condition body => by
    rw [Statement.erased, Statement.handles, condition.handles_erased, body.handles_erased]
    rfl
  | .conditional conditional => by rw [Statement.erased, Statement.handles, conditional.handles_erased]
  | .expression expression => by rw [Statement.erased, Statement.handles, expression.handles_erased]
  | .importing _ target | .path _ target => by rw [Statement.erased, Statement.handles, target.handles_erased]
  | .breaking _ | .continuing _ => rfl

lemma Conditional.handles_erased : ∀ x : Conditional, x.erased.handles = []
  | ⟨condition, body, otherwise, _⟩ => by
    rw [Conditional.erased, Conditional.handles, condition.handles_erased, body.handles_erased,
      otherwise.handles_erased]
    rfl

lemma Otherwise.handles_erased : ∀ x : Otherwise, x.erased.handles = []
  | .nothing => rfl
  | .conditional conditional => by rw [Otherwise.erased, Otherwise.handles, conditional.handles_erased]
  | .block block => by rw [Otherwise.erased, Otherwise.handles, block.handles_erased]

lemma FunctionDef.handles_erased : ∀ x : FunctionDef, x.erased.handles = []
  | ⟨_, _, _, parameters, returns, body, _⟩ => by
    rw [FunctionDef.erased, FunctionDef.handles, body.handles_erased]
    cases returns <;> simp [Parameter.handles_erased, TypeRef.handles_erased]

lemma functionsHandles_erased : ∀ x : List FunctionDef, functionsHandles (functionsErased x) = []
  | [] => rfl
  | definition :: rest => by
    rw [functionsErased, functionsHandles, definition.handles_erased, functionsHandles_erased rest]
    rfl

lemma TypeDef.handles_erased : ∀ x : TypeDef, x.erased.handles = []
  | ⟨_, _, _, fields, methods, _, _⟩ => by
    rw [TypeDef.erased, TypeDef.handles, functionsHandles_erased methods]
    simp [Declaration.handles_erased]

end

/-- There are no handles in a blank block. -/
lemma Block.Blank.handles {root : Block} (blank : root.Blank) : root.handles = [] := by
  rw [← Block.Blank.erased blank, Block.handles_erased]

/-! ## Registries -/

namespace TypeRegistry

variable {registry later last : TypeRegistry} {type : TypeId} {types more : List TypeId}

/-- All of some handles are known. -/
def KnowsAll (registry : TypeRegistry) (types : List TypeId) : Prop :=
  ∀ type ∈ types, registry.Knows type

@[simp] lemma knowsAll_nil : registry.KnowsAll [] :=
  nofun

@[simp] lemma knowsAll_cons : registry.KnowsAll (type :: types) ↔ registry.Knows type ∧ registry.KnowsAll types :=
  List.forall_mem_cons

@[simp] lemma knowsAll_append :
    registry.KnowsAll (types ++ more) ↔ registry.KnowsAll types ∧ registry.KnowsAll more :=
  List.forall_mem_append

/-- Known handles stay known where what is known stays as it is. -/
lemma Stays.knowsAll (h : registry.Stays later) (known : registry.KnowsAll types) : later.KnowsAll types :=
  fun type mem => h.knows (known type mem)

/-- A new handle is known from then on. -/
lemma Adds.knows {info : TypeInfo} {answer : TypeId × TypeRegistry} (adds : registry.Adds info answer) :
    answer.2.Knows answer.1 :=
  (Array.getElem?_eq_some_iff.mp adds.info).1

/-- Array types were added behind the types of a registry, and nothing else. -/
def AddsArrays (registry later : TypeRegistry) : Prop :=
  ∃ added, later.entries.toList = registry.entries.toList ++ added ∧
    ∀ info ∈ added, ∃ element, info.kind = .array element

namespace AddsArrays

lemma refl (registry : TypeRegistry) : registry.AddsArrays registry :=
  ⟨[], (List.append_nil _).symm, nofun⟩

lemma trans (h : registry.AddsArrays later) (g : later.AddsArrays last) : registry.AddsArrays last := by
  obtain ⟨added, e, arrays⟩ := h
  obtain ⟨others, e', arrays'⟩ := g
  exact ⟨added ++ others, by rw [e', e, List.append_assoc], List.forall_mem_append.mpr ⟨arrays, arrays'⟩⟩

/-- An array type is added. -/
lemma register (registry : TypeRegistry) (name : String) (element : TypeId) :
    registry.AddsArrays (registry.register ⟨name, .array element⟩).2 :=
  ⟨[⟨name, .array element⟩], by simp [TypeRegistry.register], by simp⟩

/-- What was known stays as it is. -/
lemma stays (h : registry.AddsArrays later) : registry.Stays later := by
  obtain ⟨added, e, -⟩ := h
  have size : later.size = registry.size + added.length := by
    rw [TypeRegistry.size, ← Array.length_toList, e, List.length_append, Array.length_toList]
    rfl
  refine .of_info (by omega) fun type known => ?_
  rw [info?, info?, ← Array.getElem?_toList, ← Array.getElem?_toList, e,
    List.getElem?_append_left (by rw [Array.length_toList]; exact known)]

end AddsArrays

end TypeRegistry

end ArrowScript
