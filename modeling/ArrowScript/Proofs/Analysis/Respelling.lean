import ArrowScript.Proofs.Analysis.Recast
import Mathlib.Data.List.Induction
import Mathlib.Tactic.Common

/-!
# Respelled programs

Names can be spelled differently throughout a program and throughout what the analysis knows. Only names are
touched: definitions, parameters, type parameters, the names in chains and those of written types. Keys of scopes
are names as well, some of them with a number behind an apostrophe (`mangle`), and a registered type is shown by a
name. `Respelling` lists what a change of spelling must have in order to go unnoticed.
-/

namespace ArrowScript
open Analysis

/-! ## Trees -/

section
variable (spell : String → String)

/-- A name at its place, spelled differently. -/
def Span.respell (name : Span) : Span :=
  { name with text := some (spell name.content) }

/-- A name within a chain, spelled differently. -/
def Identifier.respell (identifier : Identifier) : Identifier :=
  { identifier with span := identifier.span.respell spell }

mutual

/-- A written type, spelled differently. -/
def TypeRef.respell : TypeRef → TypeRef
  | ⟨name, builtin, arguments, array, binding⟩ =>
    ⟨name.respell spell, builtin, typesRespell arguments, array, binding⟩

/-- Some written types, spelled differently. -/
def typesRespell : List TypeRef → List TypeRef
  | [] => []
  | written :: rest => written.respell :: typesRespell rest

end

mutual

/-- An expression, spelled differently. -/
def Expr.respell : Expr → Expr
  | .binary operator operatorSpan left right type =>
    .binary operator operatorSpan left.respell right.respell type
  | .unary operator operatorSpan operand type => .unary operator operatorSpan operand.respell type
  | .chain path => .chain path.respell
  | .literal kind span type => .literal kind span type
  | .new keyword path => .new keyword path.respell
  | .newArray keyword element => .newArray keyword element.respell
  | .nothing span => .nothing span
  | .missing span => .missing span

/-- A whole expression, spelled differently. -/
def Expression.respell : Expression → Expression
  | ⟨root, type⟩ => ⟨root.respell, type⟩

/-- A chain, spelled differently. -/
def Chain.respell : Chain → Chain
  | ⟨links, span, type⟩ => ⟨linksRespell links, span, type⟩

/-- Some links, spelled differently. -/
def linksRespell : List Link → List Link
  | [] => []
  | link :: rest => link.respell :: linksRespell rest

/-- A link, spelled differently. -/
def Link.respell : Link → Link
  | .name identifier => .name (identifier.respell spell)
  | .index identifier index close => .index (identifier.respell spell) index.respell close
  | .call identifier written arguments close =>
    .call (identifier.respell spell) (written.map (typesRespell spell)) (argumentsRespell arguments) close

/-- Some arguments, spelled differently. -/
def argumentsRespell : List Expression → List Expression
  | [] => []
  | argument :: rest => argument.respell :: argumentsRespell rest

end

/-- A declaration, spelled differently. -/
def Declaration.respell (declaration : Declaration) : Declaration :=
  { declaration with
    name := declaration.name.respell spell
    written := declaration.written.map (TypeRef.respell spell)
    initial := declaration.initial.map (Expression.respell spell) }

/-- A parameter, spelled differently. -/
def Parameter.respell (parameter : Parameter) : Parameter :=
  { parameter with
    name := parameter.name.respell spell
    written := parameter.written.respell spell }

mutual

/-- A block, spelled differently. -/
def Block.respell : Block → Block
  | ⟨id, kind, statements, span⟩ => ⟨id, kind, statementsRespell statements, span⟩

/-- Some statements, spelled differently. -/
def statementsRespell : List Statement → List Statement
  | [] => []
  | statement :: rest => statement.respell :: statementsRespell rest

/-- A statement, spelled differently. -/
def Statement.respell : Statement → Statement
  | .type definition => .type definition.respell
  | .function definition => .function definition.respell
  | .variable declaration => .variable (declaration.respell spell)
  | .returning keyword value => .returning keyword (value.map (Expression.respell spell))
  | .breaking keyword => .breaking keyword
  | .continuing keyword => .continuing keyword
  | .whileLoop keyword condition body => .whileLoop keyword (condition.respell spell) body.respell
  | .conditional conditional => .conditional conditional.respell
  | .importing keyword target => .importing keyword (target.respell spell)
  | .path keyword target => .path keyword (target.respell spell)
  | .expression expression => .expression (expression.respell spell)

/-- A conditional, spelled differently. -/
def Conditional.respell : Conditional → Conditional
  | ⟨condition, body, otherwise, keyword⟩ =>
    ⟨condition.respell spell, body.respell, otherwise.respell, keyword⟩

/-- What is done when a condition fails, spelled differently. -/
def Otherwise.respell : Otherwise → Otherwise
  | .nothing => .nothing
  | .conditional conditional => .conditional conditional.respell
  | .block block => .block block.respell

/-- A function, spelled differently. -/
def FunctionDef.respell : FunctionDef → FunctionDef
  | ⟨id, name, typeParameters, parameters, returns, body, keyword⟩ =>
    ⟨id, name.respell spell, typeParameters.map (List.map (Span.respell spell)),
      parameters.map (Parameter.respell spell), returns.map (TypeRef.respell spell), body.respell, keyword⟩

/-- Some functions, spelled differently. -/
def functionsRespell : List FunctionDef → List FunctionDef
  | [] => []
  | definition :: rest => definition.respell :: functionsRespell rest

/-- A type, spelled differently. -/
def TypeDef.respell : TypeDef → TypeDef
  | ⟨id, name, typeParameters, fields, methods, keyword, binding⟩ =>
    ⟨id, name.respell spell, typeParameters.map (List.map (Span.respell spell)),
      fields.map (Declaration.respell spell), functionsRespell methods, keyword, binding⟩

end

/-- A program, spelled differently. -/
def Program.respell (program : Program) : Program :=
  { program with root := program.root.respell spell }

/-! ## Scopes -/

/-- A declared type, spelled differently. -/
def TypeSymbol.respell (symbol : TypeSymbol) : TypeSymbol :=
  { symbol with span := symbol.span.respell spell }

/-- A declared function, spelled differently. -/
def FunctionSymbol.respell (symbol : FunctionSymbol) : FunctionSymbol :=
  { symbol with
    span := symbol.span.respell spell
    parameters := symbol.parameters.map (Prod.map id (TypeRef.respell spell))
    returns := symbol.returns.map (TypeRef.respell spell) }

/-- A declared variable, spelled differently. -/
def VariableSymbol.respell (symbol : VariableSymbol) : VariableSymbol :=
  { symbol with
    span := symbol.span.respell spell
    written := symbol.written.map (TypeRef.respell spell) }

/-- A scope, spelled differently. -/
def Scope.respell (scope : Scope) : Scope where
  parent := scope.parent
  typeTable := scope.typeTable.map (Prod.map spell (TypeSymbol.respell spell))
  functionTable := scope.functionTable.map (Prod.map spell (FunctionSymbol.respell spell))
  variableTable := scope.variableTable.map (Prod.map spell (VariableSymbol.respell spell))

/-- All scopes, spelled differently. -/
def ScopeTable.respell (table : ScopeTable) : ScopeTable :=
  { table with scopes := table.scopes.map (Scope.respell spell) }

/-! ## Types -/

/-- What is registered behind the types of a registry, spelled differently. The name of an array type is made from
the one of its elements; built-in types keep their names. -/
def TypeInfo.respell (before : TypeRegistry) : TypeInfo → TypeInfo
  | ⟨name, .builtin⟩ => ⟨name, .builtin⟩
  | ⟨name, .user node⟩ => ⟨spell name, .user node⟩
  | ⟨name, .parameter⟩ => ⟨spell name, .parameter⟩
  | ⟨_, .array element⟩ => ⟨before.name element ++ "[]", .array element⟩

/-- The registered types, spelled differently, in the order in which they were registered. -/
def TypeRegistry.respell (registry : TypeRegistry) : TypeRegistry :=
  registry.entries.foldl (fun before info => (before.register (info.respell spell before)).2) ⟨#[]⟩

/-! ## The state -/

namespace Analysis

/-- A problem, spelled differently. -/
def SemanticProblem.respell : SemanticProblem → SemanticProblem
  | .alreadyDefined what name first => .alreadyDefined what (spell name) (first.respell spell)
  | .typeInFunction => .typeInFunction
  | .functionInFunction => .functionInFunction
  | .unknownType name => .unknownType (spell name)
  | .missing what name => .missing what (spell name)
  | .missingMember what name owner => .missingMember what (spell name) owner
  | .operandsDiffer left right => .operandsDiffer left right
  | .initialDiffers expected found => .initialDiffers expected found
  | .returnDiffers expected found => .returnDiffers expected found
  | .indexNotInt found => .indexNotInt found
  | .argumentCount function expected found => .argumentCount (spell function) expected found
  | .argumentDiffers position function expected found =>
    .argumentDiffers position (spell function) expected found
  | .assignsToCall => .assignsToCall

/-- A found problem, spelled differently, and the name where it stands. -/
def findingRespell (finding : Finding SemanticProblem) : Finding SemanticProblem where
  problem := finding.problem.respell spell
  span := if finding.problem.atName then finding.span.respell spell else finding.span

/-- What the analysis knows, spelled differently. -/
def State.respell (state : State) : State :=
  { state with
    types := state.types.respell spell
    scopes := state.scopes.respell spell
    findings := state.findings.map (findingRespell spell) }

/-- An analyzed program, spelled differently. -/
def Analyzed.respell (analyzed : Analyzed) : Analyzed where
  program := analyzed.program.respell spell
  fault? := analyzed.fault?
  findings := analyzed.findings.map (findingRespell spell)
  state := analyzed.state.respell spell

end Analysis

/-! ## Changes of spelling -/

/-- A change of spelling that goes unnoticed: different names stay different, the built-in types keep their names,
and the key of a name goes along with the name. -/
structure Respelling : Prop where
  injective : Function.Injective spell
  builtin : ∀ entry ∈ TypeRegistry.builtins, spell entry.1 = entry.1
  mangle : ∀ name arity, spell (mangle name arity) = ArrowScript.mangle (spell name) arity

end

variable {spell : String → String}

/-! ## Registered types -/

namespace TypeRegistry

/-- Every registry comes about by registering one type after the other. -/
lemma registering {motive : TypeRegistry → Prop} (empty : motive ⟨#[]⟩)
    (register : ∀ registry info, motive registry → motive (registry.register info).2) (registry : TypeRegistry) :
    motive registry := by
  -- The last entry comes off, not the first: the name of an array refers to the types registered before it.
  obtain ⟨⟨entries⟩⟩ := registry
  induction entries using List.reverseRecOn with
  | nil => exact empty
  | append_singleton entries info ih =>
    have e : (⟨⟨entries ++ [info]⟩⟩ : TypeRegistry) = ((⟨⟨entries⟩⟩ : TypeRegistry).register info).2 := by
      rw [TypeRegistry.register, List.push_toArray]
    exact e ▸ register _ info ih

/-- A type that is registered last is spelled differently last. -/
lemma respell_register (registry : TypeRegistry) (info : TypeInfo) :
    (registry.register info).2.respell spell =
      ((registry.respell spell).register (info.respell spell (registry.respell spell))).2 := by
  unfold respell
  show (registry.entries.push info).foldl _ _ = _
  rw [Array.foldl_push]

/-- The built-in types keep their names. -/
lemma respell_initial : initial.respell spell = initial := by
  rfl

/-- The kind of what is registered stays. -/
@[simp] lemma kind_respell (before : TypeRegistry) (info : TypeInfo) :
    (info.respell spell before).kind = info.kind := by
  obtain ⟨name, kind⟩ := info
  cases kind <;> rfl

/-- The kinds of the types stay, in their order. -/
lemma map_kind_respell (registry : TypeRegistry) :
    (registry.respell spell).entries.map TypeInfo.kind = registry.entries.map TypeInfo.kind := by
  induction registry using registering with
  | empty => rfl
  | register registry info ih =>
    rw [respell_register]
    show (Array.push _ _).map _ = (Array.push _ _).map _
    rw [Array.map_push, Array.map_push, ih, kind_respell]

/-- There are as many types as before. -/
@[simp] lemma size_respell (registry : TypeRegistry) : (registry.respell spell).size = registry.size := by
  have sizes : ((registry.respell spell).entries.map TypeInfo.kind).size =
      (registry.entries.map TypeInfo.kind).size :=
    congrArg Array.size registry.map_kind_respell
  rwa [Array.size_map, Array.size_map] at sizes

/-- Types are of the kinds that they were of. -/
@[simp] lemma kind?_respell (registry : TypeRegistry) (type : TypeId) :
    (registry.respell spell).kind? type = registry.kind? type := by
  unfold kind? info?
  rw [← Array.getElem?_map, map_kind_respell, Array.getElem?_map]

/-- Types are defined by the nodes that they were defined by. -/
@[simp] lemma userNode?_respell (registry : TypeRegistry) (type : TypeId) :
    (registry.respell spell).userNode? type = registry.userNode? type := by
  rw [userNode?, userNode?, kind?_respell]

/-- Arrays have the elements that they had. -/
@[simp] lemma element?_respell (registry : TypeRegistry) (type : TypeId) :
    (registry.respell spell).element? type = registry.element? type := by
  rw [element?, element?, kind?_respell]

/-- Type parameters stay type parameters, and so do arrays of them. -/
@[simp] lemma isGeneric_respell (registry : TypeRegistry) (type : TypeId) :
    (registry.respell spell).isGeneric type = registry.isGeneric type := by
  have within : ∀ depth type, (registry.respell spell).isGenericWithin depth type =
      registry.isGenericWithin depth type := by
    intro depth
    induction depth with
    | zero => exact fun _ => rfl
    | succ depth ih =>
      intro type
      simp only [isGenericWithin, kind?_respell, ih]
  rw [isGeneric, isGeneric, size_respell, within]

/-- The array type over some elements is found where it was found. -/
lemma array?_respell (registry : TypeRegistry) (element : TypeId) :
    (registry.respell spell).array? element = registry.array? element := by
  -- Arrays are looked up by what they are arrays of, so their changed names play no part.
  have kinds : ∀ registry : TypeRegistry, registry.array? element =
      ((registry.entries.map TypeInfo.kind).findIdx? (· = .array element)).map TypeId.mk := by
    intro registry
    rw [Array.findIdx?_map]
    rfl
  rw [kinds, kinds, map_kind_respell]

/-- An array type is given or registered alike. -/
lemma arrayOf_respell (registry : TypeRegistry) (element : TypeId) :
    (registry.respell spell).arrayOf element =
      ((registry.arrayOf element).1, (registry.arrayOf element).2.respell spell) := by
  unfold arrayOf
  rw [array?_respell]
  cases registry.array? element with
  | some array => rfl
  | none =>
    rw [respell_register]
    exact Prod.ext (congrArg TypeId.mk registry.size_respell) rfl

/-- A type of a program is registered alike under its changed name. -/
lemma registerUser_respell (registry : TypeRegistry) (name : String) (node : NodeId) :
    (registry.respell spell).registerUser (spell name) node =
      ((registry.registerUser name node).1, (registry.registerUser name node).2.respell spell) := by
  unfold registerUser
  rw [respell_register]
  exact Prod.ext (congrArg TypeId.mk registry.size_respell) rfl

/-- A type parameter is registered alike under its changed name. -/
lemma registerParameter_respell (registry : TypeRegistry) (name : String) :
    (registry.respell spell).registerParameter (spell name) =
      ((registry.registerParameter name).1, (registry.registerParameter name).2.respell spell) := by
  unfold registerParameter
  rw [respell_register]
  exact Prod.ext (congrArg TypeId.mk registry.size_respell) rfl

end TypeRegistry

end ArrowScript
