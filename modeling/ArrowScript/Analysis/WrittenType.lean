import ArrowScript.Analysis.State

/-!
# Written types

A written type is looked up from the scope that it is written in. The type of a declaration is found when
it is first asked for, wherever that is, and kept; an unknown type is thereby reported once. Type
arguments do not influence the type but must be known as well.
-/

namespace ArrowScript.Analysis

/-- The type that the name of a written type stands for, as seen from a scope. -/
def namedType? (state : State) (scope : ScopeId) (written : TypeRef) : Option TypeId :=
  if written.builtin then TypeRegistry.builtin? written.name.content
  else
    (state.scopes.find? scope written.mangledName .outward : Option TypeSymbol).map TypeSymbol.type

/-- The type that a written type stands for, as seen from a scope. -/
def lookUp (scope : ScopeId) (written : TypeRef) : Step (Option TypeId) := do
  match namedType? (← get) scope written with
  | none => return none
  | some type => if written.array then return some (← arrayOf type) else return some type

mutual

/-- Looks up a written type and its type arguments and reports those that are not known. -/
def resolve (scope : ScopeId) : TypeRef → Step (Option TypeId)
  | ⟨name, builtin, arguments, array, binding⟩ => do
    let type ← lookUp scope ⟨name, builtin, arguments, array, binding⟩
    if type.isNone then report (.unknownType name.content) name
    resolveAll scope arguments
    return type

/-- Looks up some written types. -/
def resolveAll (scope : ScopeId) : List TypeRef → Step Unit
  | [] => return
  | written :: rest => do
    discard (resolve scope written)
    resolveAll scope rest

end

mutual

/-- Fills in the type arguments of a written type. -/
def bindArguments (scope : ScopeId) : TypeRef → Step TypeRef
  | ⟨name, builtin, arguments, array, binding⟩ => do
    return ⟨name, builtin, ← bindAll scope arguments, array, binding⟩

/-- Fills in some type arguments with their own arguments. -/
def bindAll (scope : ScopeId) : List TypeRef → Step (List TypeRef)
  | [] => return []
  | written :: rest => do
    let binding ← lookUp scope written
    let filled ← bindArguments scope written
    return { filled with binding } :: (← bindAll scope rest)

end

/-- The type that a node is declared with, in words written in a scope. -/
def declaredType (node : NodeId) (scope : ScopeId) (written : TypeRef) : Step (Option TypeId) := do
  match (← get).declaredTypes.lookup node with
  | some type => return type
  | none =>
    let type ← resolve scope written
    modify fun state => { state with declaredTypes := (node, type) :: state.declaredTypes }
    return type

/-- Fills in the written type of a declaration and gives the type. -/
def bindDeclared (node : NodeId) (scope : ScopeId) (written : TypeRef) :
    Step (TypeRef × Option TypeId) := do
  let type ← declaredType node scope written
  return (← bindArguments scope { written with binding := type }, type)

/-- Fills in a type argument of a call. -/
def bindTypeArgument (scope : ScopeId) (written : TypeRef) : Step TypeRef := do
  let type ← resolve scope written
  bindArguments scope { written with binding := type }

/-- Fills in the type arguments of a call, one after the other. -/
def bindTypeArgumentList (scope : ScopeId) (written : List TypeRef) : Step (List TypeRef) :=
  written.mapM (bindTypeArgument scope)

end ArrowScript.Analysis
