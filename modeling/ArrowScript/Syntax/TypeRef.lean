import ArrowScript.Span

/-!
# Written types

A written type is a name, possibly with type arguments in angle brackets and with brackets that make it
an array: `int`, `Point`, `List<int>[]`. Types and functions with type parameters are kept under a name
that also counts those parameters, so that the same name may stand for several of them.
-/

namespace ArrowScript

/-- The name under which a type or function with `arity` type parameters is kept. -/
def mangle (name : String) (arity : Nat) : String :=
  if arity = 0 then name else s!"{name}'{arity}"

/-- A written type; `binding` is the type that it was found to denote. -/
structure TypeRef where
  name : Span
  /-- Whether the name is one of the built-in types. -/
  builtin : Bool
  arguments : List TypeRef
  /-- Whether the name is followed by brackets. -/
  array : Bool
  binding : Option TypeId
deriving Inhabited

/-- A bare name as a written type. -/
def TypeRef.named (name : Span) (builtin : Bool) : TypeRef where
  name := name
  builtin := builtin
  arguments := []
  array := false
  binding := none

/-- The name under which the type of a written type is kept, whether or not it is an array. -/
def TypeRef.mangledName (type : TypeRef) : String :=
  mangle type.name.content type.arguments.length

end ArrowScript
