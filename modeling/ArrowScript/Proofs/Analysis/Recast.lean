import ArrowScript.Analysis.Statement
import ArrowScript.Proofs.Grammar.Respanning

/-!
# Recast programs

The analysis compares names, and the texts and ends of spans where it combines them; it hands on all else that a span
tells without a look at it. So the spans of a program can be recast, and along with them the keys of scopes and the
registered types. `Recast.Unnoticed` lists what this must have in order to go unnoticed.
-/

namespace ArrowScript
open Analysis

/-- New spans for names and for all else, new keys and new registered types. -/
structure Recast where
  name : Span → Span
  mark : Span → Span
  key : String → String
  types : TypeRegistry → TypeRegistry

/-- Whether a problem is reported where a name stands. -/
def Analysis.SemanticProblem.atName : SemanticProblem → Bool
  | .alreadyDefined .. | .unknownType _ | .missing .. | .missingMember .. | .argumentCount .. => true
  | .typeInFunction | .functionInFunction | .operandsDiffer .. | .initialDiffers .. | .returnDiffers ..
  | .indexNotInt _ | .argumentDiffers .. | .assignsToCall => false

namespace Recast

variable (recast : Recast)

/-! ## Scopes -/

/-- A declared type, recast. -/
def typeSymbol (symbol : TypeSymbol) : TypeSymbol :=
  { symbol with span := recast.name symbol.span }

/-- A declared function, recast. -/
def functionSymbol (symbol : FunctionSymbol) : FunctionSymbol :=
  { symbol with
    span := recast.name symbol.span
    parameters := symbol.parameters.map (Prod.map id (TypeRef.respan recast.name))
    returns := symbol.returns.map (TypeRef.respan recast.name) }

/-- A declared variable, recast. -/
def variableSymbol (symbol : VariableSymbol) : VariableSymbol :=
  { symbol with
    span := recast.name symbol.span
    written := symbol.written.map (TypeRef.respan recast.name) }

/-- A scope, recast. -/
def scope (scope : Scope) : Scope where
  parent := scope.parent
  typeTable := scope.typeTable.map (Prod.map recast.key recast.typeSymbol)
  functionTable := scope.functionTable.map (Prod.map recast.key recast.functionSymbol)
  variableTable := scope.variableTable.map (Prod.map recast.key recast.variableSymbol)

/-- All scopes, recast. -/
def scopes (table : ScopeTable) : ScopeTable :=
  { table with scopes := table.scopes.map recast.scope }

/-! ## The state -/

/-- A problem, recast. -/
def problem : SemanticProblem → SemanticProblem
  | .alreadyDefined what name first => .alreadyDefined what (recast.key name) (recast.name first)
  | .typeInFunction => .typeInFunction
  | .functionInFunction => .functionInFunction
  | .unknownType name => .unknownType (recast.key name)
  | .missing what name => .missing what (recast.key name)
  | .missingMember what name owner => .missingMember what (recast.key name) owner
  | .operandsDiffer left right => .operandsDiffer left right
  | .initialDiffers expected found => .initialDiffers expected found
  | .returnDiffers expected found => .returnDiffers expected found
  | .indexNotInt found => .indexNotInt found
  | .argumentCount function expected found => .argumentCount (recast.key function) expected found
  | .argumentDiffers position function expected found =>
    .argumentDiffers position (recast.key function) expected found
  | .assignsToCall => .assignsToCall

/-- A found problem, recast, and the name or mark where it stands. -/
def finding (finding : Finding SemanticProblem) : Finding SemanticProblem where
  problem := recast.problem finding.problem
  span := if finding.problem.atName then recast.name finding.span else recast.mark finding.span

/-- What the analysis knows, recast. -/
def state (state : State) : State :=
  { state with
    types := recast.types state.types
    scopes := recast.scopes state.scopes
    findings := state.findings.map recast.finding }

/-- An analyzed program, recast. -/
def analyzed (analyzed : Analyzed) : Analyzed where
  program := analyzed.program.respan recast.name recast.mark
  fault? := analyzed.fault?
  findings := analyzed.findings.map recast.finding
  state := recast.state analyzed.state

/-! ## Going unnoticed -/

/-- What goes unnoticed: different names stay different, the built-in types keep their names, the key of a name goes
along with the name, combined spans with those that are combined, and registered types stay what they are. -/
structure Unnoticed : Prop where
  content : ∀ span, (recast.name span).content = recast.key span.content
  injective : Function.Injective recast.key
  builtin : ∀ entry ∈ TypeRegistry.builtins, recast.key entry.1 = entry.1
  mangle : ∀ name arity, recast.key (mangle name arity) = ArrowScript.mangle (recast.key name) arity
  combine : ∀ first second, (recast.mark first).combine (recast.mark second) = (first.combine second).map recast.mark
  userNode? : ∀ registry type, (recast.types registry).userNode? type = registry.userNode? type
  element? : ∀ registry type, (recast.types registry).element? type = registry.element? type
  isGeneric : ∀ registry type, (recast.types registry).isGeneric type = registry.isGeneric type
  arrayOf : ∀ registry element,
    (recast.types registry).arrayOf element = Prod.map id recast.types (registry.arrayOf element)
  registerUser : ∀ registry name node, (recast.types registry).registerUser (recast.key name) node =
    Prod.map id recast.types (registry.registerUser name node)
  registerParameter : ∀ registry name, (recast.types registry).registerParameter (recast.key name) =
    Prod.map id recast.types (registry.registerParameter name)

/-- The types of a recast state. -/
lemma types_state (s : State) : (recast.state s).types = recast.types s.types := rfl

variable {recast}

/-- A changed key is found where the key was found. -/
lemma lookup_map {σ τ : Type} {onKey : String → String} (injective : Function.Injective onKey) (f : σ → τ)
    (table : List (String × σ)) (key : String) :
    (table.map (Prod.map onKey f)).lookup (onKey key) = (table.lookup key).map f := by
  induction table with
  | nil => rfl
  | cons entry rest ih =>
    obtain ⟨other, value⟩ := entry
    rw [List.map_cons, Prod.map_apply, List.lookup_cons, List.lookup_cons, ih]
    by_cases same : key = other
    · simp [same]
    -- Different keys stay different, so the entry is passed over under its changed key as well.
    · rw [beq_false_of_ne same, beq_false_of_ne (injective.ne same)]

namespace Unnoticed

variable (unnoticed : recast.Unnoticed)
include unnoticed

/-- Built-in types are found under recast names where they were found. -/
lemma builtin? (name : String) : TypeRegistry.builtin? (recast.key name) = TypeRegistry.builtin? name := by
  have kept : TypeRegistry.builtins.map (Prod.map recast.key id) = TypeRegistry.builtins :=
    (List.map_congr_left fun entry mem => show Prod.map recast.key id entry = id entry from
      Prod.ext (unnoticed.builtin entry mem) rfl).trans (List.map_id _)
  have found := lookup_map unnoticed.injective id TypeRegistry.builtins name
  rw [kept] at found
  exact found.trans Option.map_id_apply

/-- A recast written type is kept under the recast key. -/
lemma mangledName (written : TypeRef) : (written.respan recast.name).mangledName = recast.key written.mangledName := by
  rw [TypeRef.mangledName, TypeRef.mangledName, written.length_arguments_respan, written.name_respan,
    unnoticed.content, unnoticed.mangle]

/-- The name of a recast identifier is the recast key. -/
lemma name (identifier : Identifier) : (identifier.respan recast.name).name = recast.key identifier.name :=
  unnoticed.content identifier.span

/-- Types go together where they did. -/
lemma compatible (registry : TypeRegistry) (expected found : TypeId) :
    (recast.types registry).compatible expected found = registry.compatible expected found := by
  rw [TypeRegistry.compatible, TypeRegistry.compatible, unnoticed.isGeneric, unnoticed.isGeneric]

end Unnoticed

end Recast

/-! ## Declared symbols -/

/-- What is declared in a scope can be recast along with the scope. -/
class Recastable (σ : Type) [Symbol σ] where
  recast : Recast → σ → σ
  span_recast change symbol : Symbol.span (recast change symbol) = change.name (Symbol.span symbol)
  table_recast change scope : (Symbol.table (change.scope scope) : List (String × σ)) =
    (Symbol.table scope).map (Prod.map change.key (recast change))
  insert_recast change key symbol scope : Symbol.insert (change.key key) (recast change symbol) (change.scope scope) =
    change.scope (Symbol.insert key symbol scope)

instance : Recastable TypeSymbol where
  recast := Recast.typeSymbol
  span_recast _ _ := rfl
  table_recast _ _ := rfl
  insert_recast _ _ _ _ := rfl

instance : Recastable FunctionSymbol where
  recast := Recast.functionSymbol
  span_recast _ _ := rfl
  table_recast _ _ := rfl
  insert_recast _ _ _ _ := rfl

instance : Recastable VariableSymbol where
  recast := Recast.variableSymbol
  span_recast _ _ := rfl
  table_recast _ _ := rfl
  insert_recast _ _ _ _ := rfl

namespace ScopeTable

variable {recast : Recast} (table : ScopeTable)

/-- There are as many scopes as before. -/
lemma size_recast : (recast.scopes table).size = table.size := Array.size_map

/-- Scopes have the handles that they had. -/
lemma get?_recast (scope : ScopeId) : (recast.scopes table).get? scope = (table.get? scope).map recast.scope :=
  Array.getElem?_map

/-- A scope is added alike. -/
lemma openUnder_recast (parent : Option ScopeId) :
    (recast.scopes table).openUnder parent = Prod.map id recast.scopes (table.openUnder parent) := by
  refine Prod.ext (congrArg ScopeId.mk table.size_recast) ?_
  simp only [openUnder, Recast.scopes, Prod.map_snd, Array.map_push]
  rfl

/-- The scope of a node is recorded alike. -/
lemma close_recast (node : NodeId) (scope : ScopeId) :
    (recast.scopes table).close node scope = (table.close node scope).map recast.scopes := by
  unfold close
  rw [show (recast.scopes table).scopeOf? node = table.scopeOf? node from rfl]
  cases table.scopeOf? node <;> rfl

variable {σ : Type} [Symbol σ] [Recastable σ] (injective : Function.Injective recast.key)
include injective

/-- A recast name is declared where the name was declared. -/
lemma declared?_recast (scope : ScopeId) (key : String) :
    ((recast.scopes table).declared? scope (recast.key key) : Option σ) =
      (table.declared? scope key).map (Recastable.recast recast) := by
  unfold declared?
  rw [get?_recast]
  cases table.get? scope with
  | none => rfl
  | some scope =>
    rw [Option.map_some, Option.bind_some, Option.bind_some, Recastable.table_recast, Recast.lookup_map injective]

/-- A symbol is declared alike under the recast key. -/
lemma declare_recast (scope : ScopeId) (key : String) (symbol : σ) :
    (recast.scopes table).declare scope (recast.key key) (Recastable.recast recast symbol) =
      Prod.map (Option.map recast.name) recast.scopes (table.declare scope key symbol) := by
  unfold declare
  rw [table.declared?_recast injective]
  cases (table.declared? scope key : Option σ) with
  | some first => exact Prod.ext (congrArg some (Recastable.span_recast recast first)) rfl
  | none =>
    refine Prod.ext rfl (congrArg (ScopeTable.mk · table.closed) ?_)
    show (table.scopes.map _).modify _ _ = (table.scopes.modify _ _).map _
    refine Array.ext_getElem? fun position => ?_
    rw [Array.getElem?_modify, Array.getElem?_map, Array.getElem?_map, Array.getElem?_modify]
    split
    · rw [Option.map_map, Option.map_map]
      exact Option.map_congr fun scope _ => Recastable.insert_recast recast key symbol scope
    · rfl

/-- A recast name is found from a scope outward where the name was found. -/
lemma findWithin_recast (key : String) :
    ∀ (steps : Nat) (scope : ScopeId), ((recast.scopes table).findWithin (recast.key key) steps scope : Option σ) =
      (table.findWithin key steps scope).map (Recastable.recast recast)
  | 0, _ => rfl
  | steps + 1, id => by
    rw [findWithin, findWithin, get?_recast]
    cases table.get? id with
    | none => rfl
    | some scope =>
      have parent : (recast.scope scope).parent = scope.parent := rfl
      simp only [Option.map_some, Recastable.table_recast, Recast.lookup_map injective, parent]
      cases (Symbol.table scope : List (String × σ)).lookup key with
      | some symbol => rfl
      | none =>
        cases scope.parent with
        | none => rfl
        | some parent => exact findWithin_recast key steps parent

/-- A recast name is found where the name was found. -/
lemma find?_recast (scope : ScopeId) (key : String) (reach : Reach) :
    ((recast.scopes table).find? scope (recast.key key) reach : Option σ) =
      (table.find? scope key reach).map (Recastable.recast recast) := by
  cases reach with
  | here => exact table.declared?_recast injective scope key
  | outward =>
    -- The search may take as many steps as there are scopes, and recasting adds none.
    rw [find?, find?, size_recast]
    exact table.findWithin_recast injective key _ scope

end ScopeTable

end ArrowScript
