import ArrowScript.Syntax.TypeRef

/-!
# Scopes

A scope keeps types, functions and variables apart and knows its parent. Of several declarations of one
name the first is kept. Looking a name up goes from a scope to its parents until one declares it. Once
everything in a scope is declared, the scope is recorded for the node that owns it.
-/

namespace ArrowScript

/-- A declared type. -/
structure TypeSymbol where
  type : TypeId
  span : Span

/-- A declared function. Its signature is written in the function's own scope. -/
structure FunctionSymbol where
  node : NodeId
  span : Span
  scope : ScopeId
  parameters : List (NodeId × TypeRef)
  returns : Option TypeRef

/-- A declared variable or parameter and the scope that it stands in. -/
structure VariableSymbol where
  node : NodeId
  span : Span
  scope : ScopeId
  written : Option TypeRef

/-- Names with what they were declared as. -/
structure Scope where
  parent : Option ScopeId
  typeTable : List (String × TypeSymbol)
  functionTable : List (String × FunctionSymbol)
  variableTable : List (String × VariableSymbol)

namespace Scope

/-- A scope without declarations. -/
def empty (parent : Option ScopeId) : Scope :=
  ⟨parent, [], [], []⟩

/-- How many names are declared in a scope, those of different kinds counted apart. -/
def size (scope : Scope) : Nat :=
  scope.typeTable.length + scope.functionTable.length + scope.variableTable.length

end Scope

/-- What can be declared in a scope: it has a place, and a scope has a table for its kind. -/
class Symbol (σ : Type) where
  span : σ → Span
  table : Scope → List (String × σ)
  insert : String → σ → Scope → Scope

instance : Symbol TypeSymbol where
  span := TypeSymbol.span
  table := Scope.typeTable
  insert name symbol scope := { scope with typeTable := (name, symbol) :: scope.typeTable }

instance : Symbol FunctionSymbol where
  span := FunctionSymbol.span
  table := Scope.functionTable
  insert name symbol scope := { scope with functionTable := (name, symbol) :: scope.functionTable }

instance : Symbol VariableSymbol where
  span := VariableSymbol.span
  table := Scope.variableTable
  insert name symbol scope := { scope with variableTable := (name, symbol) :: scope.variableTable }

/-- How far a name is looked up. -/
inductive Reach
  /-- Only in the given scope. -/
  | here
  /-- In the given scope and then in its parents. -/
  | outward
deriving DecidableEq

/-- All scopes, each at the place that its handle tells, and the scopes recorded for nodes. -/
structure ScopeTable where
  scopes : Array Scope
  closed : List (NodeId × ScopeId)

namespace ScopeTable

/-- No scopes. -/
def empty : ScopeTable :=
  ⟨#[], []⟩

/-- How many scopes there are. -/
def size (table : ScopeTable) : Nat :=
  table.scopes.size

/-- The scope with a handle. -/
def get? (table : ScopeTable) (scope : ScopeId) : Option Scope :=
  table.scopes[scope.index]?

/-- Adds a scope without declarations. -/
def openUnder (table : ScopeTable) (parent : Option ScopeId) : ScopeId × ScopeTable :=
  (⟨table.size⟩, { table with scopes := table.scopes.push (.empty parent) })

theorem get?_openUnder (table : ScopeTable) (parent : Option ScopeId) (scope : ScopeId) :
    (table.openUnder parent).2.get? scope =
      if scope = (table.openUnder parent).1 then some (.empty parent) else table.get? scope := by
  obtain ⟨index⟩ := scope
  simp [openUnder, size, get?, Array.getElem?_push]

/-- The scope recorded for a node. -/
def scopeOf? (table : ScopeTable) (node : NodeId) : Option ScopeId :=
  table.closed.lookup node

/-- Records the scope of a node, which is done once. -/
def close (table : ScopeTable) (node : NodeId) (scope : ScopeId) : Except Fault ScopeTable :=
  match table.scopeOf? node with
  | some _ => .error (.closedTwice node)
  | none => .ok { table with closed := (node, scope) :: table.closed }

theorem scopeOf?_of_close {table closed : ScopeTable} {node : NodeId} {scope : ScopeId}
    (h : table.close node scope = .ok closed) (other : NodeId) :
    closed.scopeOf? other = if other = node then some scope else table.scopeOf? other := by
  unfold close at h
  split at h
  · cases h
  · cases h
    by_cases e : other = node
    · simp [scopeOf?, e]
    · simp [scopeOf?, e, List.lookup_cons, beq_false_of_ne e]

/-- The scope recorded for a node, which must have been recorded. -/
def reopen (table : ScopeTable) (node : NodeId) : Except Fault ScopeId :=
  match table.scopeOf? node with
  | some scope => .ok scope
  | none => .error (.neverClosed node)

/-- The recorded scopes in the order of their nodes. -/
def closedInOrder (table : ScopeTable) : List (NodeId × ScopeId) :=
  table.closed.mergeSort fun first second => first.1.index ≤ second.1.index

variable {σ : Type} [Symbol σ]

/-- The first declaration of a name in one scope. -/
def declared? (table : ScopeTable) (scope : ScopeId) (name : String) : Option σ :=
  (table.get? scope).bind fun scope => (Symbol.table scope).lookup name

/-- Declares a name. If it is taken, nothing changes and the span of the first declaration is returned;
in a scope that does not exist nothing is declared. -/
def declare (table : ScopeTable) (scope : ScopeId) (name : String) (symbol : σ) :
    Option Span × ScopeTable :=
  match (table.declared? scope name : Option σ) with
  | some first => (some (Symbol.span first), table)
  | none =>
    (none, { table with scopes := table.scopes.modify scope.index (Symbol.insert name symbol) })

/-- Looks a name up in a scope and at most `steps - 1` of its parents. -/
def findWithin (table : ScopeTable) (name : String) : Nat → ScopeId → Option σ
  | 0, _ => none
  | steps + 1, id =>
    match table.get? id with
    | none => none
    | some scope =>
      match (Symbol.table scope).lookup name, scope.parent with
      | some symbol, _ => some symbol
      | none, some parent => table.findWithin name steps parent
      | none, none => none

/-- Looks a name up. No path of parents is longer than the number of scopes. It does not matter whether the name was
heard of in any declaration: one that was not is found nowhere (`NestedMaps.unheard`), so names are looked for as they
are and no table of them is kept. -/
def find? (table : ScopeTable) (scope : ScopeId) (name : String) : Reach → Option σ
  | .here => table.declared? scope name
  | .outward => table.findWithin name table.size scope

end ScopeTable

end ArrowScript
