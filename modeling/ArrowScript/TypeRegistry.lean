import ArrowScript.Handle

/-!
# Type registry

The registry gives out the handles of types. It starts with the built-in types, and every registration
takes the next handle. An array type is registered once per type of its elements, so two types are the
same exactly if their handles are.
-/

namespace ArrowScript

/-- How a type came about. -/
inductive TypeKind
  | builtin
  /-- Defined in a program by the node. -/
  | user (node : NodeId)
  /-- A type parameter of a definition. -/
  | parameter
  | array (element : TypeId)
deriving DecidableEq

/-- A registered type with the name that messages show. -/
structure TypeInfo where
  name : String
  kind : TypeKind
deriving DecidableEq

/-- The types registered so far, each at the place that its handle tells. -/
structure TypeRegistry where
  entries : Array TypeInfo

namespace TypeRegistry

/-- The built-in types with their names, in the order of their handles. -/
def builtins : List (String × TypeId) :=
  [("nothing", .nothing), ("int", .int), ("decimal", .decimal), ("bool", .bool), ("str", .str),
    ("byte", .byte)]

/-- The built-in type with a name. -/
def builtin? (name : String) : Option TypeId :=
  builtins.lookup name

/-- The registry of the built-in types. -/
def initial : TypeRegistry where
  entries := (builtins.map fun entry => ⟨entry.1, .builtin⟩).toArray

/-- How many types are registered. -/
def size (registry : TypeRegistry) : Nat :=
  registry.entries.size

/-- What is registered for a handle. -/
def info? (registry : TypeRegistry) (type : TypeId) : Option TypeInfo :=
  registry.entries[type.index]?

/-- The name of a type, a question mark when the handle is not known. -/
def name (registry : TypeRegistry) (type : TypeId) : String :=
  (registry.info? type).elim "?" TypeInfo.name

/-- The kind of a type. -/
def kind? (registry : TypeRegistry) (type : TypeId) : Option TypeKind :=
  (registry.info? type).map TypeInfo.kind

/-- The node that defines a type of a program. -/
def userNode? (registry : TypeRegistry) (type : TypeId) : Option NodeId :=
  match registry.kind? type with
  | some (.user node) => some node
  | _ => none

/-- The type of the elements of an array type. -/
def element? (registry : TypeRegistry) (type : TypeId) : Option TypeId :=
  match registry.kind? type with
  | some (.array element) => some element
  | _ => none

/-- Whether a type is a type parameter or an array nested at most `depth - 1` times over one. -/
def isGenericWithin (registry : TypeRegistry) : Nat → TypeId → Bool
  | 0, _ => false
  | depth + 1, type =>
    match registry.kind? type with
    | some .parameter => true
    | some (.array element) => registry.isGenericWithin depth element
    | _ => false

/-- Whether a type is a type parameter or an array of one. No chain of array types is longer than the
registry. -/
def isGeneric (registry : TypeRegistry) (type : TypeId) : Bool :=
  registry.isGenericWithin registry.size type

/-- Registers a type under the next handle. -/
def register (registry : TypeRegistry) (info : TypeInfo) : TypeId × TypeRegistry :=
  (⟨registry.size⟩, ⟨registry.entries.push info⟩)

@[simp] theorem size_register (registry : TypeRegistry) (info : TypeInfo) :
    (registry.register info).2.size = registry.size + 1 := by
  simp [register, size]

theorem info?_register (registry : TypeRegistry) (info : TypeInfo) (type : TypeId) :
    (registry.register info).2.info? type =
      if type = (registry.register info).1 then some info else registry.info? type := by
  obtain ⟨index⟩ := type
  simp [register, size, info?, Array.getElem?_push]

/-- Registers a type that a node defines. -/
def registerUser (registry : TypeRegistry) (name : String) (node : NodeId) : TypeId × TypeRegistry :=
  registry.register ⟨name, .user node⟩

/-- Registers a type parameter. -/
def registerParameter (registry : TypeRegistry) (name : String) : TypeId × TypeRegistry :=
  registry.register ⟨name, .parameter⟩

/-- The registered array type over some elements. There is at most one, so it is found among all types and no table of
array types is kept beside them: it is the one that was given for these elements before (`Interns.inverse`,
`Interns.remembered`). -/
def array? (registry : TypeRegistry) (element : TypeId) : Option TypeId :=
  (registry.entries.findIdx? fun info => info.kind = .array element).map TypeId.mk

/-- The array type over some elements, registered when it is asked for the first time. -/
def arrayOf (registry : TypeRegistry) (element : TypeId) : TypeId × TypeRegistry :=
  match registry.array? element with
  | some array => (array, registry)
  | none => registry.register ⟨registry.name element ++ "[]", .array element⟩

/-- Whether a value of the found type may stand where the expected one is declared. Type parameters
accept anything and are accepted everywhere. -/
def compatible (registry : TypeRegistry) (expected found : TypeId) : Bool :=
  expected = found || registry.isGeneric expected || registry.isGeneric found

end TypeRegistry

end ArrowScript
