import ArrowScript.Analysis.Statement
import ArrowScript.Proofs.Analysis.Scoping
import ArrowScript.Proofs.Grammar.Blank

/-!
# Hindsight

When the analysis is over, a program can be read once more with all that is known in the end.
`Block.ascriptions` lists the declarations that were visited, with the types that are written for them.
`Block.encounters` lists the chains that were visited and the links that were looked up, each seen from its
place (`Hindsight`): from the scope that it stands in, when the variables before it have their types. Chains
are followed along the bindings of their links. Behind a link whose type is not known nothing is encountered,
and neither is anything in imports, paths and definitions inside functions.

`Encounter.Settled` says that the types are right by the final tables, `Encounter.Halts` that an unbound link
ends a chain, `Encounter.Reaches` that the links up to there are looked up, and `Encounter.unfound` lists the
names that are to be reported, with what is to be said about them.
-/

namespace ArrowScript.Analysis

/-! ## Names that are not found -/

/-- A name that is not found, what it was looked up as, and what is said about it. -/
structure Unfound where
  what : Declared
  name : String
  message : String
  span : Span
deriving DecidableEq

namespace Unfound

/-- A name that is not found, with the name of the type that has no such member, if it was looked up in one. -/
def named (what : Declared) (name : String) (owner : Option String) (span : Span) : Unfound where
  what
  name
  message := match what, owner with
    | .type, _ => "Cannot find type " ++ name ++ "."
    | _, none => "Missing " ++ what.word ++ " " ++ name ++ "."
    | _, some owner => "Missing " ++ what.word ++ " " ++ name ++ " on type " ++ owner ++ "."
  span

/-- The diagnostic for a name that is not found. -/
def diagnostic (unfound : Unfound) : Diagnostic :=
  ⟨.semantic, unfound.message, unfound.span⟩

end Unfound

/-- What is not found, if this is the problem. -/
def SemanticProblem.unfound? : SemanticProblem → Option (Declared × String)
  | unknownType name => some (.type, name)
  | missing what name | missingMember what name _ => some (what, name)
  | alreadyDefined .. | typeInFunction | functionInFunction | operandsDiffer .. | initialDiffers ..
  | returnDiffers .. | indexNotInt _ | argumentCount .. | argumentDiffers .. | assignsToCall => none

/-- The name that is reported as not found. -/
def unfound? (types : TypeRegistry) (finding : Finding SemanticProblem) : Option Unfound :=
  finding.problem.unfound?.map fun problem =>
    ⟨problem.1, problem.2, finding.problem.message types, finding.span⟩

/-- The names that are reported as not found. -/
def Analyzed.unfound (analyzed : Analyzed) : List Unfound :=
  analyzed.findings.filterMap (unfound? analyzed.state.types)

/-- The names of types among those that are not found. -/
def typesAmong (list : List Unfound) : List Unfound :=
  list.filter (·.what = .type)

/-- The diagnostics that names of some kinds are not found. -/
def Analyzed.missingDiagnostics (kinds : List Declared) (analyzed : Analyzed) : List Diagnostic :=
  (analyzed.findings.filter fun finding => finding.problem.unfound?.any fun problem => problem.1 ∈ kinds).map
    (SemanticProblem.diagnostic analyzed.state.types)

/-- Those diagnostics are shown for the names of these kinds that are reported as not found. -/
lemma Analyzed.missingDiagnostics_eq (kinds : List Declared) (analyzed : Analyzed) :
    analyzed.missingDiagnostics kinds = (analyzed.unfound.filter (·.what ∈ kinds)).map Unfound.diagnostic := by
  unfold missingDiagnostics unfound
  induction analyzed.findings with
  | nil => rfl
  | cons finding rest ih =>
    cases sought : finding.problem.unfound? with
    | none => simpa [unfound?, sought] using ih
    | some problem =>
      by_cases among : problem.1 ∈ kinds
      · simpa [unfound?, sought, among, Unfound.diagnostic, SemanticProblem.diagnostic, Finding.diagnostic] using ih
      · simpa [unfound?, sought, among] using ih

end ArrowScript.Analysis

namespace ArrowScript
open Analysis

/-! ## Written types -/

mutual

/-- The names in a written type that are bound to nothing. -/
def TypeRef.unresolved : TypeRef → List Unfound
  | ⟨name, _, arguments, _, binding⟩ =>
    (if binding.isNone then [.named .type name.content none name] else []) ++ typesUnresolved arguments

/-- The names in some written types that are bound to nothing. -/
def typesUnresolved : List TypeRef → List Unfound
  | [] => []
  | written :: rest => written.unresolved ++ typesUnresolved rest

end

section
variable (state : State) (scope : ScopeId)

mutual

/-- Looking a written type up from a scope gives what it is bound to and nothing new, and so it is with its
type arguments. -/
def TypeRef.Resolved : TypeRef → Prop
  | ⟨name, builtin, arguments, array, binding⟩ =>
    lookUp scope ⟨name, builtin, arguments, array, binding⟩ state = (binding, state) ∧
      typesResolved arguments

/-- Looking some written types up gives what they are bound to. -/
def typesResolved : List TypeRef → Prop
  | [] => True
  | written :: rest => written.Resolved ∧ typesResolved rest

end

end

/-! ## Declarations -/

/-- A declared variable or function with what is written as its type, or as the type it returns, and the
owner of the scope that this stands in. -/
structure Ascription where
  node : NodeId
  owner : NodeId
  written : Option TypeRef

/-- The names in the written type of an ascription that are bound to nothing. -/
def Ascription.unresolved (ascription : Ascription) : List Unfound :=
  ascription.written.elim [] TypeRef.unresolved

/-- The ascription of a field or variable. -/
def Declaration.ascription (owner : NodeId) (declaration : Declaration) : Ascription :=
  ⟨declaration.id, owner, declaration.written⟩

/-- The ascription of a parameter. -/
def Parameter.ascription (owner : NodeId) (parameter : Parameter) : Ascription :=
  ⟨parameter.id, owner, some parameter.written⟩

mutual

/-- The ascriptions in a block. -/
def Block.ascriptions (nested : Bool) : Block → List Ascription
  | ⟨id, _, statements, _⟩ => statementAscriptions nested id statements

/-- The ascriptions in some statements. -/
def statementAscriptions (nested : Bool) (owner : NodeId) : List Statement → List Ascription
  | [] => []
  | statement :: rest => statement.ascriptions nested owner ++ statementAscriptions nested owner rest

/-- The ascriptions in a statement. -/
def Statement.ascriptions (nested : Bool) (owner : NodeId) : Statement → List Ascription
  | .type definition => if nested then [] else definition.ascriptions
  | .function definition => if nested then [] else definition.ascriptions
  | .variable declaration => [declaration.ascription owner]
  | .whileLoop _ _ body => body.ascriptions nested
  | .conditional conditional => conditional.ascriptions nested
  | .returning .. | .breaking _ | .continuing _ | .importing .. | .path .. | .expression _ => []

/-- The ascriptions in a conditional. -/
def Conditional.ascriptions (nested : Bool) : Conditional → List Ascription
  | ⟨_, body, otherwise, _⟩ => body.ascriptions nested ++ otherwise.ascriptions nested

/-- The ascriptions in what is done when a condition fails. -/
def Otherwise.ascriptions (nested : Bool) : Otherwise → List Ascription
  | .nothing => []
  | .conditional conditional => conditional.ascriptions nested
  | .block block => block.ascriptions nested

/-- The ascriptions in a function. -/
def FunctionDef.ascriptions : FunctionDef → List Ascription
  | ⟨id, _, _, parameters, returns, body, _⟩ =>
    ⟨id, id, returns⟩ :: parameters.map (Parameter.ascription id) ++ body.ascriptions true

/-- The ascriptions in some functions. -/
def functionAscriptions : List FunctionDef → List Ascription
  | [] => []
  | definition :: rest => definition.ascriptions ++ functionAscriptions rest

/-- The ascriptions in a type. -/
def TypeDef.ascriptions : TypeDef → List Ascription
  | ⟨id, _, _, fields, methods, _, _⟩ =>
    fields.map (Declaration.ascription id) ++ functionAscriptions methods

end

namespace Analysis

/-! ## Places -/

/-- A place in an analyzed program, seen when the analysis is over. -/
structure Hindsight where
  /-- What is written as the types of declarations. -/
  ascriptions : List (NodeId × Option TypeRef)
  /-- What is known in the end, but for the scopes around the place and the types of the variables without a
  written type, which are those of the variables before it. -/
  state : State

namespace Hindsight

/-- The same inside an owner of a scope. -/
def inside (owner : NodeId) (view : Hindsight) : Hindsight :=
  let own := (view.state.scopes.scopeOf? owner).toList
  { view with state := { view.state with active := own ++ view.state.active } }

/-- The same behind further variables. -/
def after (inferred : List (NodeId × TypeId)) (view : Hindsight) : Hindsight :=
  { view with state := { view.state with inferredTypes := inferred ++ view.state.inferredTypes } }

/-- The type of what a name is bound to: that of the declaration, if one is written there. -/
def typeOf (view : Hindsight) : Binding → Option TypeId
  | .variable node => (view.ascriptions.lookup node).bind fun written =>
    written.elim (view.state.inferredTypes.lookup node) TypeRef.binding
  | .function node => (view.ascriptions.lookup node).bind fun written =>
    written.elim (some .nothing) TypeRef.binding
  | .type type => some type

end Hindsight

/-- An analyzed program from outside. -/
def Analyzed.hindsight (analyzed : Analyzed) : Hindsight where
  ascriptions := (analyzed.program.root.ascriptions false).map fun ascription =>
    (ascription.node, ascription.written)
  state := { analyzed.state with inferredTypes := [] }

end Analysis

/-! ## Links -/

namespace Link

/-- Whether the name of a link is bound. -/
def isBound (link : Link) : Bool :=
  link.identifier.binding.isSome

/-- The type arguments of a call. -/
def typeArguments : Link → List TypeRef
  | call _ written _ _ => written.getD []
  | name _ | index .. => []

/-- What the name of a link is looked up as. -/
def what (link : Link) : Declared :=
  if link.isCall then .function else .variable

/-- What looking the name of a link up gives to bind it to. -/
def sought (owner : Option TypeId) (state : State) (link : Link) : Except Fault (Option Binding) :=
  if link.isCall then do
    let symbol? : Option FunctionSymbol ←
      findMember owner (mangle link.identifier.name link.arity) state
    return symbol?.map fun symbol => .function symbol.node
  else do
    let symbol? : Option VariableSymbol ← findMember owner link.identifier.name state
    return symbol?.map fun symbol => .variable symbol.node

/-- The name of a link, if it is bound to nothing, with the name of the type that it belongs to. -/
def lost (what : Declared) (owner : Option String) (link : Link) : List Unfound :=
  if link.isBound then [] else [.named what link.identifier.name owner link.identifier.span]

variable (view : Hindsight)

/-- The type of what the name of a link is bound to. -/
def boundType (link : Link) : Option TypeId :=
  link.identifier.binding.bind view.typeOf

/-- The type of a link. An index takes an element of an array. -/
def typeIn (link : Link) : Option TypeId :=
  match link with
  | name _ | call .. => link.boundType view
  | index .. => (link.boundType view).map fun type => (view.state.types.element? type).getD type

/-- The type of a link behind `new`. An index makes an array. -/
def madeIn (link : Link) : Option TypeId :=
  match link with
  | name _ | call .. => link.boundType view
  | index .. => (link.boundType view).map fun type => (view.state.types.arrayOf type).1

end Link

/-- The type of some links one behind the other: that of the last one, if all of them have a type. -/
def linksType (view : Hindsight) (owner : Option TypeId) : List Link → Option TypeId
  | [] => owner
  | link :: rest => (link.typeIn view).bind fun type => linksType view (some type) rest

/-- The type of some links behind `new`. -/
def newType (view : Hindsight) : List Link → Option TypeId
  | [] => none
  | first :: rest => (first.madeIn view).bind fun type => linksType view (some type) rest

/-- The bound links of a chain come first. If its type is known all of them are bound, and what comes behind
an unbound link is left blank. -/
structure Chain.Halts (path : Chain) : Prop where
  first : path.links.filter Link.isBound <+: path.links
  known : path.type.isSome → ∀ link ∈ path.links, link.isBound
  untouched : path.links.Pairwise fun link later => link.isBound = false → later.Blank

/-! ## Encounters -/

namespace Analysis

/-- A chain or a link that the analysis comes to, and the place. -/
inductive Encounter
  | chain (view : Hindsight) (path : Chain)
  /-- A chain behind `new`. -/
  | new (view : Hindsight) (path : Chain)
  /-- A link, with the type of what stands before it. -/
  | link (view : Hindsight) (owner : Option TypeId) (link : Link)
  /-- The first link behind `new`. -/
  | made (view : Hindsight) (link : Link)

end Analysis

section
variable (view : Hindsight)

mutual

/-- What is encountered in an expression. -/
def Expr.encounters : Expr → List Encounter
  | .binary _ _ left right _ => left.encounters ++ right.encounters
  | .unary _ _ operand _ => operand.encounters
  | .chain path => path.encounters
  | .new _ path => path.newEncounters
  | .newArray _ element => element.encounters
  | .literal .. | .nothing _ | .missing _ => []

/-- What is encountered in a whole expression. -/
def Expression.encounters : Expression → List Encounter
  | ⟨root, _⟩ => root.encounters

/-- A chain and what is encountered in it. -/
def Chain.encounters : Chain → List Encounter
  | ⟨links, span, type⟩ => .chain view ⟨links, span, type⟩ :: linksEncounters none links

/-- A chain behind `new` and what is encountered in it. -/
def Chain.newEncounters : Chain → List Encounter
  | ⟨[], span, type⟩ => [.new view ⟨[], span, type⟩]
  | ⟨first :: rest, span, type⟩ =>
    .new view ⟨first :: rest, span, type⟩ :: first.innerEncounters ++ .made view first ::
      match first.madeIn view with
      | none => []
      | some owner => linksEncounters (some owner) rest

/-- The links that are looked up one behind the other, as far as their types are known. -/
def linksEncounters (owner : Option TypeId) : List Link → List Encounter
  | [] => []
  | link :: rest =>
    link.innerEncounters ++ .link view owner link ::
      match link.typeIn view with
      | none => []
      | some owner => linksEncounters (some owner) rest

/-- What is encountered in the index or the arguments of a link. -/
def Link.innerEncounters : Link → List Encounter
  | .name _ => []
  | .index _ index _ => index.encounters
  | .call _ _ arguments _ => argumentsEncounters arguments

/-- What is encountered in some arguments. -/
def argumentsEncounters : List Expression → List Encounter
  | [] => []
  | argument :: rest => argument.encounters ++ argumentsEncounters rest

end

end

/-- What is encountered in an expression that may be absent. -/
def optionEncounters (view : Hindsight) (value : Option Expression) : List Encounter :=
  value.elim [] (Expression.encounters view)

/-- What is encountered in some fields. -/
def fieldsEncounters (view : Hindsight) : List Declaration → List Encounter
  | [] => []
  | field :: rest => optionEncounters view field.initial ++ fieldsEncounters (view.after field.inferred) rest

mutual

/-- What is encountered in a block. -/
def Block.encounters (nested : Bool) (view : Hindsight) : Block → List Encounter
  | ⟨id, _, statements, _⟩ => statementEncounters nested (view.inside id) statements

/-- What is encountered in some statements. -/
def statementEncounters (nested : Bool) (view : Hindsight) : List Statement → List Encounter
  | [] => []
  | statement :: rest =>
    statement.encounters nested view ++
      statementEncounters nested (view.after (statement.inferred nested)) rest

/-- What is encountered in a statement. -/
def Statement.encounters (nested : Bool) (view : Hindsight) : Statement → List Encounter
  | .type definition => if nested then [] else definition.encounters view
  | .function definition => if nested then [] else definition.encounters view
  | .variable declaration => optionEncounters view declaration.initial
  | .returning _ value => optionEncounters view value
  | .whileLoop _ condition body => condition.encounters view ++ body.encounters nested view
  | .conditional conditional => conditional.encounters nested view
  | .expression expression => expression.encounters view
  | .breaking _ | .continuing _ | .importing .. | .path .. => []

/-- What is encountered in a conditional. -/
def Conditional.encounters (nested : Bool) (view : Hindsight) : Conditional → List Encounter
  | ⟨condition, body, otherwise, _⟩ =>
    condition.encounters view ++ body.encounters nested view ++
      otherwise.encounters nested (view.after (body.inferred nested))

/-- What is encountered in what is done when a condition fails. -/
def Otherwise.encounters (nested : Bool) (view : Hindsight) : Otherwise → List Encounter
  | .nothing => []
  | .conditional conditional => conditional.encounters nested view
  | .block block => block.encounters nested view

/-- What is encountered in a function. -/
def FunctionDef.encounters (view : Hindsight) : FunctionDef → List Encounter
  | ⟨id, _, _, _, _, body, _⟩ => body.encounters true (view.inside id)

/-- What is encountered in some functions. -/
def functionEncounters (view : Hindsight) : List FunctionDef → List Encounter
  | [] => []
  | definition :: rest =>
    definition.encounters view ++ functionEncounters (view.after definition.inferred) rest

/-- What is encountered in a type. -/
def TypeDef.encounters (view : Hindsight) : TypeDef → List Encounter
  | ⟨id, _, _, fields, methods, _, _⟩ =>
    fieldsEncounters (view.inside id) fields ++
      functionEncounters ((view.inside id).after (fieldsInferred fields)) methods

end

namespace Analysis

/-- The declarations that were visited in an analyzed program. -/
def Analyzed.ascriptions (analyzed : Analyzed) : List Ascription :=
  analyzed.program.root.ascriptions false

/-- What is encountered in an analyzed program. -/
def Analyzed.encounters (analyzed : Analyzed) : List Encounter :=
  analyzed.program.root.encounters false analyzed.hindsight

namespace Encounter

/-- Chains have the type that the bindings of their links give. Links are bound to what looking them up gives,
behind the type that was given so far, and so are their type arguments. -/
def Settled : Encounter → Prop
  | chain view path => path.type = linksType view none path.links
  | new view path => path.type = newType view path.links
  | link view owner sought => sought.sought owner view.state = .ok sought.identifier.binding ∧
    ∃ scope, view.state.scope = .ok scope ∧ typesResolved view.state scope sought.typeArguments
  | made view first =>
    ∃ scope, view.state.scope = .ok scope ∧ typesResolved view.state scope first.typeArguments

/-- An unbound link ends a chain. -/
def Halts : Encounter → Prop
  | chain _ path | new _ path => path.Halts
  | link .. | made .. => True

/-- The links of a chain are among some encounters, each behind the type of what stands before it, as far as
these types are known. -/
def Reaches (encounters : List Encounter) : Encounter → Prop
  | chain view path => ∀ before next after, path.links = before ++ next :: after →
      before = [] ∨ (linksType view none before).isSome →
        link view (linksType view none before) next ∈ encounters
  | new view path => ∀ first rest, path.links = first :: rest → made view first ∈ encounters ∧
      ∀ before next after, rest = before ++ next :: after → (newType view (first :: before)).isSome →
        link view (newType view (first :: before)) next ∈ encounters
  | link .. | made .. => True

/-- The names that are not found: type arguments, and the name of a link that is looked up. -/
def unfound : Encounter → List Unfound
  | chain .. | new .. => []
  | link view owner sought =>
    typesUnresolved sought.typeArguments ++ sought.lost sought.what (owner.map view.state.types.name)
  | made _ first => typesUnresolved first.typeArguments ++ first.lost .type none

end Encounter

end Analysis

end ArrowScript
