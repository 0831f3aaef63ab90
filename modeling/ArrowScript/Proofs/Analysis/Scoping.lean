import ArrowScript.Proofs.Analysis.Owners

/-!
# Lexical scoping

The rule that names are resolved by, stated on the analyzed tree. A name at the start of a chain means the
first declaration under it in the first owner around it, from inside out, that has one. A name behind a
dot means a member of the type of what stands before the dot: a declaration of the owner that has the
members of that type, and nothing for other types. Calls go by the name and the number of type arguments.
A name behind `new` means a built-in type if there are no type arguments, or else a type around it.

`Scoped` says that every name is bound to what the rule gives, as far as names are visited: behind a link
whose type is not known the rest of a chain is not visited, and neither are imports, paths and definitions
inside functions. Types enter the rule only through what stands before a dot. They are the types that the
analysis found for what is written down, and for a variable without a written type the one in its declaration,
once that was visited.
-/

namespace ArrowScript.Analysis

/-! ## The rule -/

/-- What stands around a name. -/
structure Surroundings where
  /-- What the analysis knows in the end. -/
  state : State
  /-- The owners that have the members of types, by the number of the type. -/
  members : List (Option Owner)
  /-- The owners around the name, the innermost first. -/
  around : List Owner
  /-- The types of the variables visited so far that have no written type. -/
  known : List (NodeId × TypeId)

/-- The first variable of a name. -/
def findVariable (owners : List Owner) (name : String) : Option Entry :=
  owners.findSome? (·.variableList.lookup name)

/-- The first function of a name with a number of type parameters. -/
def findFunction (owners : List Owner) (name : String) (arity : Nat) : Option Entry :=
  owners.findSome? (·.functionList.lookup (name, arity))

/-- The first type of a name with a number of type parameters. -/
def findType (owners : List Owner) (name : String) (arity : Nat) : Option TypeId :=
  owners.findSome? (·.typeList.lookup (name, arity))

namespace Surroundings

/-- The same in an owner. -/
def inside (owner : Owner) (around : Surroundings) : Surroundings :=
  { around with around := owner :: around.around }

/-- The same when further variables were visited. -/
def after (inferred : List (NodeId × TypeId)) (around : Surroundings) : Surroundings :=
  { around with known := inferred ++ around.known }

/-- The owners that a name is looked up in, behind something of a type or at the start of a chain. -/
def lookedUpIn (around : Surroundings) : Option TypeId → List Owner
  | none => around.around
  | some type => (around.members[type.index]?.join).toList

/-- The type that was found for the written type of a declaration. -/
def writtenType (around : Surroundings) (node : NodeId) : Option TypeId :=
  (around.state.declaredTypes.lookup node).join

/-- The type of a variable. -/
def typeOfVariable (around : Surroundings) (entry : Entry) : Option TypeId :=
  if entry.typed then around.writtenType entry.node else around.known.lookup entry.node

/-- The type that a function returns. -/
def typeOfCall (around : Surroundings) (entry : Entry) : Option TypeId :=
  if entry.typed then around.writtenType entry.node else some .nothing

/-- The type that a name behind `new` stands for. -/
def constructed? (around : Surroundings) (name : String) (arity : Nat) : Option TypeId :=
  (if arity = 0 then TypeRegistry.builtin? name else none).or (findType around.around name arity)

end Surroundings

end ArrowScript.Analysis

namespace ArrowScript
open Analysis

namespace Link

/-- The number of type arguments of a call. -/
def arity : Link → Nat
  | .call _ types _ _ => types.elim 0 List.length
  | .name _ | .index .. => 0

/-- What the name of a link means. -/
def entry? (around : Surroundings) (owner : Option TypeId) (link : Link) : Option Entry :=
  if link.isCall then findFunction (around.lookedUpIn owner) link.identifier.name link.arity
  else findVariable (around.lookedUpIn owner) link.identifier.name

/-- What the name of a link is to be bound to. -/
def meant? (around : Surroundings) (owner : Option TypeId) (link : Link) : Option Binding :=
  (link.entry? around owner).map fun entry =>
    if link.isCall then .function entry.node else .variable entry.node

/-- The type of a link. -/
def type? (around : Surroundings) (owner : Option TypeId) (link : Link) : Option TypeId :=
  match link with
  | .name _ => (link.entry? around owner).bind around.typeOfVariable
  | .index .. =>
    ((link.entry? around owner).bind around.typeOfVariable).map fun type =>
      (around.state.types.element? type).getD type
  | .call .. => (link.entry? around owner).bind around.typeOfCall

/-- The type that the name of a link behind `new` stands for. -/
def made? (around : Surroundings) (link : Link) : Option TypeId :=
  around.constructed? link.identifier.name link.arity

/-- The type of a link behind `new`: an index makes an array. -/
def madeType? (around : Surroundings) (link : Link) : Option TypeId :=
  if link.isCall then link.made? around else (link.made? around).bind around.state.types.array?

end Link

/-! ## Expressions -/

mutual

/-- The names in an expression mean what the rule says. -/
def Expr.Scoped (around : Surroundings) : Expr → Prop
  | .binary _ _ left right _ => left.Scoped around ∧ right.Scoped around
  | .unary _ _ operand _ => operand.Scoped around
  | .chain path => path.Scoped around
  | .new _ path => path.NewScoped around
  | .newArray _ element => element.Scoped around
  | .literal .. | .nothing _ | .missing _ => True

/-- The names in a whole expression mean what the rule says. -/
def Expression.Scoped (around : Surroundings) : Expression → Prop
  | ⟨root, _⟩ => root.Scoped around

/-- The names in a chain mean what the rule says. -/
def Chain.Scoped (around : Surroundings) : Chain → Prop
  | ⟨links, _, _⟩ => linksScoped around none links

/-- The names in a chain behind `new` mean what the rule says. -/
def Chain.NewScoped (around : Surroundings) : Chain → Prop
  | ⟨[], _, _⟩ | ⟨.name _ :: _, _, _⟩ => True
  | ⟨first :: rest, _, _⟩ =>
    first.identifier.binding = (first.made? around).map .type ∧ first.InnerScoped around ∧
      ∀ type ∈ first.madeType? around, linksScoped around (some type) rest

/-- The names in links mean what the rule says; the first is a member of the owner, if any. -/
def linksScoped (around : Surroundings) (owner : Option TypeId) : List Link → Prop
  | [] => True
  | link :: rest =>
    link.identifier.binding = link.meant? around owner ∧ link.InnerScoped around ∧
      ∀ type ∈ link.type? around owner, linksScoped around (some type) rest

/-- The names in the index or the arguments of a link mean what the rule says. -/
def Link.InnerScoped (around : Surroundings) : Link → Prop
  | .name _ => True
  | .index _ index _ => index.Scoped around
  | .call _ _ arguments _ => argumentsScoped around arguments

/-- The names in arguments mean what the rule says. -/
def argumentsScoped (around : Surroundings) : List Expression → Prop
  | [] => True
  | argument :: rest => argument.Scoped around ∧ argumentsScoped around rest

end

/-! ## Inferred types -/

/-- A variable without a written type has the type in its declaration. -/
def Declaration.inferred (declaration : Declaration) : List (NodeId × TypeId) :=
  if declaration.written.isSome then []
  else (declaration.type.map (declaration.id, ·)).toList

/-- The variables without a written type among some, the last first. -/
def fieldsInferred : List Declaration → List (NodeId × TypeId)
  | [] => []
  | field :: rest => fieldsInferred rest ++ field.inferred

mutual

/-- The variables without a written type in a block, the last first. -/
def Block.inferred (nested : Bool) : Block → List (NodeId × TypeId)
  | ⟨_, _, statements, _⟩ => statementsInferred nested statements

/-- The variables without a written type in some statements. -/
def statementsInferred (nested : Bool) : List Statement → List (NodeId × TypeId)
  | [] => []
  | statement :: rest => statementsInferred nested rest ++ statement.inferred nested

/-- The variables without a written type in a statement. -/
def Statement.inferred (nested : Bool) : Statement → List (NodeId × TypeId)
  | .type definition => if nested then [] else definition.inferred
  | .function definition => if nested then [] else definition.inferred
  | .variable declaration => declaration.inferred
  | .whileLoop _ _ body => body.inferred nested
  | .conditional conditional => conditional.inferred nested
  | .returning .. | .breaking _ | .continuing _ | .importing .. | .path .. | .expression _ => []

/-- The variables without a written type in a conditional. -/
def Conditional.inferred (nested : Bool) : Conditional → List (NodeId × TypeId)
  | ⟨_, body, otherwise, _⟩ => otherwise.inferred nested ++ body.inferred nested

/-- The variables without a written type in what is done when a condition fails. -/
def Otherwise.inferred (nested : Bool) : Otherwise → List (NodeId × TypeId)
  | .nothing => []
  | .conditional conditional => conditional.inferred nested
  | .block block => block.inferred nested

/-- The variables without a written type in a function. -/
def FunctionDef.inferred : FunctionDef → List (NodeId × TypeId)
  | ⟨_, _, _, _, _, body, _⟩ => body.inferred true

/-- The variables without a written type in some functions. -/
def functionsInferred : List FunctionDef → List (NodeId × TypeId)
  | [] => []
  | definition :: rest => functionsInferred rest ++ definition.inferred

/-- The variables without a written type in a type. -/
def TypeDef.inferred : TypeDef → List (NodeId × TypeId)
  | ⟨_, _, _, fields, methods, _, _⟩ => functionsInferred methods ++ fieldsInferred fields

end

/-! ## Statements -/

/-- The names in the initial value of a declaration mean what the rule says. -/
def Declaration.Scoped (around : Surroundings) (declaration : Declaration) : Prop :=
  ∀ value ∈ declaration.initial, value.Scoped around

/-- The names in fields mean what the rule says. -/
def fieldsScoped (around : Surroundings) : List Declaration → Prop
  | [] => True
  | field :: rest => field.Scoped around ∧ fieldsScoped (around.after field.inferred) rest

mutual

/-- The names in a block mean what the rule says. -/
def Block.Scoped (nested : Bool) (base : Nat) (around : Surroundings) : Block → Prop
  | ⟨_, _, statements, _⟩ =>
    statementsScoped nested base (around.inside (statementOwner nested base statements)) statements

/-- The names in some statements mean what the rule says. -/
def statementsScoped (nested : Bool) (base : Nat) (around : Surroundings) : List Statement → Prop
  | [] => True
  | statement :: rest =>
    statement.Scoped nested base around ∧
      statementsScoped nested (base + (statement.registrations nested base).length)
        (around.after (statement.inferred nested)) rest

/-- The names in a statement mean what the rule says. -/
def Statement.Scoped (nested : Bool) (base : Nat) (around : Surroundings) : Statement → Prop
  | .type definition => nested ∨ definition.Scoped base around
  | .function definition => nested ∨ definition.Scoped base around
  | .variable declaration => declaration.Scoped around
  | .returning _ returned => ∀ value ∈ returned, value.Scoped around
  | .whileLoop _ condition body => condition.Scoped around ∧ body.Scoped nested base around
  | .conditional conditional => conditional.Scoped nested base around
  | .expression expression => expression.Scoped around
  | .breaking _ | .continuing _ | .importing .. | .path .. => True

/-- The names in a conditional mean what the rule says. -/
def Conditional.Scoped (nested : Bool) (base : Nat) (around : Surroundings) : Conditional → Prop
  | ⟨condition, body, otherwise, _⟩ =>
    condition.Scoped around ∧ body.Scoped nested base around ∧
      otherwise.Scoped nested (base + (body.registrations nested base).length)
        (around.after (body.inferred nested))

/-- The names in what is done when a condition fails mean what the rule says. -/
def Otherwise.Scoped (nested : Bool) (base : Nat) (around : Surroundings) : Otherwise → Prop
  | .nothing => True
  | .conditional conditional => conditional.Scoped nested base around
  | .block block => block.Scoped nested base around

/-- The names in a function mean what the rule says. -/
def FunctionDef.Scoped (base : Nat) (around : Surroundings) : FunctionDef → Prop
  | ⟨id, name, typeParameters, parameters, returns, body, keyword⟩ =>
    body.Scoped true (base + typeArity typeParameters) (around.inside
      (FunctionDef.owner base ⟨id, name, typeParameters, parameters, returns, body, keyword⟩))

/-- The names in some functions mean what the rule says. -/
def functionsScoped (base : Nat) (around : Surroundings) : List FunctionDef → Prop
  | [] => True
  | definition :: rest =>
    definition.Scoped base around ∧
      functionsScoped (base + definition.registrations.length) (around.after definition.inferred) rest

/-- The names in a type mean what the rule says. -/
def TypeDef.Scoped (base : Nat) (around : Surroundings) : TypeDef → Prop
  | ⟨id, name, typeParameters, fields, methods, keyword, binding⟩ =>
    let inside := around.inside
      (TypeDef.owner base ⟨id, name, typeParameters, fields, methods, keyword, binding⟩)
    fieldsScoped inside fields ∧
      functionsScoped (base + (1 + typeArity typeParameters)) (inside.after (fieldsInferred fields))
        methods

end

end ArrowScript
