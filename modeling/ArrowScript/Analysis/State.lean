import ArrowScript.Analysis.Problem
import ArrowScript.ScopeTable
import ArrowScript.Syntax.Statement

/-!
# Analysis state

The analysis knows the types and scopes so far, which scopes it is in, and the types that it has already
found for declarations. It lasts over several programs: what one of them leaves open stays open.

A step cannot fail. Declaring may fail with a fault. Visiting a node gives the node back with names and
types filled in; when it fails with a fault, the node comes with the fault, filled in as far as the visit
went. `within` puts such a node back into the one around it.
-/

namespace ArrowScript.Analysis

/-- What the analysis knows. -/
structure State where
  types : TypeRegistry
  scopes : ScopeTable
  /-- The scopes that are being worked in, the innermost first. -/
  active : List ScopeId
  /-- How many function bodies there are around the current node. -/
  functionDepth : Nat
  /-- The types of written types by the node that declares them, nothing for unknown types. The first
  use of a declaration finds its type, so that an unknown type is reported once. -/
  declaredTypes : List (NodeId × Option TypeId)
  /-- The types of variables that were declared without one. -/
  inferredTypes : List (NodeId × TypeId)
  /-- The types to be returned from the functions around the current node, the innermost first. -/
  returnTypes : List (Option TypeId)
  /-- The types that nodes define. -/
  definedTypes : List (NodeId × TypeId)
  findings : Array (Finding SemanticProblem)

/-- Nothing but the built-in types. -/
def State.initial : State where
  types := .initial
  scopes := .empty
  active := []
  functionDepth := 0
  declaredTypes := []
  inferredTypes := []
  returnTypes := []
  definedTypes := []
  findings := #[]

/-- The innermost scope. -/
def State.scope (state : State) : Except Fault ScopeId :=
  match state.active with
  | scope :: _ => .ok scope
  | [] => .error .noOpenScope

/-! ## Steps -/

/-- An action that cannot fail. -/
abbrev Step := StateM State

/-- A step is an action that could fail in any way. -/
instance {ε : Type} : MonadLift (StateM State) (EStateM ε State) where
  monadLift step state :=
    let (value, state) := step state
    .ok value state

/-- Reports a problem at a span. -/
def report (problem : SemanticProblem) (span : Span) : Step Unit :=
  modify fun state => { state with findings := state.findings.push ⟨problem, span⟩ }

/-- Goes into a scope. -/
def enter (scope : ScopeId) : Step Unit :=
  modify fun state => { state with active := scope :: state.active }

/-- Leaves the innermost scope. -/
def leave : Step Unit :=
  modify fun state => { state with active := state.active.tail }

/-- Adds a scope under another. -/
def openUnder (parent : Option ScopeId) : Step ScopeId :=
  modifyGet fun state =>
    let (scope, scopes) := state.scopes.openUnder parent
    (scope, { state with scopes })

/-- The array type over some elements. -/
def arrayOf (element : TypeId) : Step TypeId :=
  modifyGet fun state =>
    let (type, types) := state.types.arrayOf element
    (type, { state with types })

/-! ## Failing actions -/

/-- What the state has to say, or else a fault with something that comes with it. -/
def ask {ε α : Type} (fail : Fault → ε) (question : State → Except Fault α) : EStateM ε State α :=
  fun state =>
    match question state with
    | .ok answer => .ok answer state
    | .error fault => .error (fail fault) state

/-- Does something as part of a function body. -/
def insideFunction {ε α : Type} (action : EStateM ε State α) : EStateM ε State α :=
  let restore (state : State) : State := { state with functionDepth := state.functionDepth - 1 }
  fun state =>
    match action { state with functionDepth := state.functionDepth + 1 } with
    | .ok value state => .ok value (restore state)
    | .error failure state => .error failure (restore state)

/-- Does something where a type is to be returned. -/
def returningType {ε α : Type} (type : Option TypeId) (action : EStateM ε State α) :
    EStateM ε State α :=
  let restore (state : State) : State := { state with returnTypes := state.returnTypes.tail }
  fun state =>
    match action { state with returnTypes := type :: state.returnTypes } with
    | .ok value state => .ok value (restore state)
    | .error failure state => .error failure (restore state)

/-- A visit of a node of type `ν`. -/
abbrev Visit (ν : Type) := EStateM (Fault × ν) State

/-- Works on a part of a node; `place` puts the part back into the node when the work fails. -/
def within {ν μ α : Type} (place : ν → μ) (visit : Visit ν α) : Visit μ α :=
  visit.adaptExcept fun (fault, node) => (fault, place node)

/-- Asks the state; when it has no answer, the node stays as it is. -/
def askFor {ν α : Type} (node : ν) (question : State → Except Fault α) :
    Visit ν α :=
  ask (fun fault => (fault, node)) question

end ArrowScript.Analysis
