/-!
# Handles

Nodes of a program, registered types and scopes are named by numbers. Each kind of handle is a type of
its own, so that a node is never looked up where a scope is meant. The six built-in types have fixed
handles.
-/

namespace ArrowScript

/-- Names a block, a definition, a parameter or a variable of a program. -/
structure NodeId where
  index : Nat
deriving DecidableEq, Inhabited

/-- Names a registered type. -/
structure TypeId where
  index : Nat
deriving DecidableEq, Inhabited

/-- Names a scope. -/
structure ScopeId where
  index : Nat
deriving DecidableEq, Inhabited

namespace TypeId

/-- The type of the absent value. -/
def nothing : TypeId := ⟨0⟩

/-- The type of whole numbers. -/
def int : TypeId := ⟨1⟩

/-- The type of numbers written with a point. -/
def decimal : TypeId := ⟨2⟩

/-- The type of truth values. -/
def bool : TypeId := ⟨3⟩

/-- The type of texts. -/
def str : TypeId := ⟨4⟩

/-- The type of bytes. -/
def byte : TypeId := ⟨5⟩

end TypeId

end ArrowScript
