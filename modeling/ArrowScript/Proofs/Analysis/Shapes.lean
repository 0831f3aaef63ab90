import ArrowScript.Proofs.Analysis.Looking

/-!
# Shapes of types

Handles of types are numbers that depend on the order in which types are met. The shape of a type does not:
it says which declaration the type comes from and how many arrays are built over it. `origins` lists the
declarations that the first handles stand for; all later handles are arrays. In such a registry every handle
has exactly one shape, and no two handles have the same (`Shaped.unique`, `Shaped.injective`), so everything
that is asked of handles may be asked of shapes.
-/

namespace ArrowScript.Analysis

/-- The declaration that a type comes from, or the built-in type that it is. -/
inductive Origin
  | builtin (type : TypeId)
  | user (node : NodeId) (name : String)
  /-- The type parameter of a definition at a position. -/
  | parameter (owner : NodeId) (position : Nat) (name : String)
deriving DecidableEq

/-- What is registered for a declaration. -/
def Origin.info : Origin → TypeInfo
  | builtin type => ⟨TypeRegistry.initial.name type, .builtin⟩
  | user node name => ⟨name, .user node⟩
  | parameter _ _ name => ⟨name, .parameter⟩

/-- Whether a declaration is that of a type parameter. -/
def Origin.isParameter : Origin → Bool
  | parameter .. => true
  | builtin _ | user .. => false

/-- The built-in types in the order of their handles. -/
def builtinOrigins : List Origin :=
  TypeRegistry.builtins.map fun entry => .builtin entry.2

/-- A declared type under a number of arrays. -/
structure Shape where
  origin : Origin
  depth : Nat
deriving DecidableEq

namespace Shape

/-- A built-in type. -/
def builtin (type : TypeId) : Shape :=
  ⟨.builtin type, 0⟩

/-- The array type over a type. -/
def array (shape : Shape) : Shape :=
  ⟨shape.origin, shape.depth + 1⟩

/-- The type of the elements of an array; other types stay as they are. -/
def element (shape : Shape) : Shape :=
  ⟨shape.origin, shape.depth - 1⟩

/-- Whether a type is a type parameter or an array of one. -/
def isGeneric (shape : Shape) : Bool :=
  shape.origin.isParameter

/-- The node that defines a type of a program. -/
def userNode? : Shape → Option NodeId
  | ⟨.user node _, 0⟩ => some node
  | _ => none

/-- The name of a type. -/
def label (shape : Shape) : String :=
  (List.replicate shape.depth "[]").foldl (· ++ ·) shape.origin.info.name

/-- Whether a value of the found type may stand where the expected one is declared. -/
def compatible (expected found : Shape) : Bool :=
  expected = found || expected.isGeneric || found.isGeneric

/-- Arrays over different types are different. -/
lemma array_injective {first second : Shape} (h : first.array = second.array) : first = second := by
  obtain ⟨origin, depth⟩ := first
  obtain ⟨other, depth'⟩ := second
  obtain ⟨rfl, depths⟩ : origin = other ∧ depth + 1 = depth' + 1 := Shape.mk.inj h
  rw [Nat.succ.inj depths]

lemma label_array (shape : Shape) : shape.array.label = shape.label ++ "[]" := by
  simp [label, array, List.replicate_succ', List.foldl_append]

end Shape

/-- A handle stands for a shape. -/
inductive Shaped (origins : List Origin) (registry : TypeRegistry) : TypeId → Shape → Prop
  | origin {type : TypeId} {origin : Origin} : origins[type.index]? = some origin →
    Shaped origins registry type ⟨origin, 0⟩
  | array {type element : TypeId} {shape : Shape} : registry.element? type = some element →
    Shaped origins registry element shape → Shaped origins registry type shape.array

/-- A registry has the declared types first and otherwise arrays over older types, at most one for each. -/
structure Grown (origins : List Origin) (registry : TypeRegistry) : Prop where
  nodup : origins.Nodup
  builtins : builtinOrigins <+: origins
  size : origins.length ≤ registry.size
  declared : ∀ type origin, origins[type.index]? = some origin → registry.info? type = some origin.info
  arrays : ∀ type, origins.length ≤ type.index → type.index < registry.size → ∃ element : TypeId,
    element.index < type.index ∧ registry.info? type = some ⟨registry.name element ++ "[]", .array element⟩
  distinct : ∀ first second element, registry.element? first = some element →
    registry.element? second = some element → first = second

variable {origins : List Origin} {registry later : TypeRegistry} {type element other : TypeId}
  {shape form : Shape} {origin : Origin}

/-! ## Handles and shapes -/

namespace Grown

/-- A built-in type stands for itself. -/
lemma shaped_builtin (grown : Grown origins registry) (small : type.index < 6) :
    Shaped origins registry type (.builtin type) := by
  have all : ∀ index < 6, builtinOrigins[index]? = some (.builtin ⟨index⟩) := by decide
  obtain ⟨rest, rfl⟩ := grown.builtins
  refine .origin ?_
  rw [List.getElem?_append_left (show _ < builtinOrigins.length from small)]
  exact all type.index small

/-- A declared type is of the kind of its declaration. -/
lemma kind?_declared (grown : Grown origins registry) (found : origins[type.index]? = some origin) :
    registry.kind? type = some origin.info.kind := by
  rw [TypeRegistry.kind?, grown.declared type origin found, Option.map_some]

/-- A declared type is no array. -/
lemma element?_declared (grown : Grown origins registry) (found : origins[type.index]? = some origin) :
    registry.element? type = none := by
  rw [TypeRegistry.element?, grown.kind?_declared found]
  cases origin <;> rfl

/-- The elements of an array type are older, and it is named after them. -/
lemma of_element? (grown : Grown origins registry) (array : registry.element? type = some element) :
    element.index < type.index ∧
      registry.info? type = some ⟨registry.name element ++ "[]", .array element⟩ := by
  have beyond : origins.length ≤ type.index := by
    by_contra below
    have found := grown.element?_declared (List.getElem?_eq_getElem (Nat.lt_of_not_le below))
    rw [found] at array
    cases array
  have registered : type.index < registry.size := by
    by_contra unknown
    have none : registry.info? type = none := Array.getElem?_eq_none (Nat.le_of_not_lt unknown)
    rw [TypeRegistry.element?, TypeRegistry.kind?, none] at array
    cases array
  obtain ⟨other, older, info⟩ := grown.arrays type beyond registered
  rw [TypeRegistry.element?, TypeRegistry.kind?, info, Option.map_some] at array
  obtain rfl : other = element := Option.some.inj array
  exact ⟨older, info⟩

end Grown

namespace Shaped

/-- A handle that stands for a shape is registered. -/
lemma known (shaped : Shaped origins registry type shape) (grown : Grown origins registry) :
    type.index < registry.size := by
  cases shaped with
  | origin found => exact Nat.lt_of_lt_of_le (List.getElem?_eq_some_iff.mp found).1 grown.size
  | array array _ =>
    exact (Array.getElem?_eq_some_iff.mp (grown.of_element? array).2).1

/-- Every registered handle stands for a shape. -/
lemma of_known (grown : Grown origins registry) (known : type.index < registry.size) :
    ∃ shape, Shaped origins registry type shape := by
  obtain ⟨index⟩ := type
  induction index using Nat.strongRecOn with
  | _ index ih =>
    rcases Nat.lt_or_ge index origins.length with declared | beyond
    · exact ⟨_, .origin (List.getElem?_eq_getElem declared)⟩
    · obtain ⟨⟨element⟩, older, info⟩ := grown.arrays ⟨index⟩ beyond known
      obtain ⟨shape, shaped⟩ := ih element older (Nat.lt_trans older known)
      refine ⟨shape.array, .array ?_ shaped⟩
      rw [TypeRegistry.element?, TypeRegistry.kind?, info, Option.map_some]

/-- A handle stands for one shape only. -/
lemma unique (shaped : Shaped origins registry type shape) (grown : Grown origins registry)
    (other : Shaped origins registry type form) : shape = form := by
  induction shaped generalizing form with
  | origin found =>
    cases other with
    | origin found' =>
      obtain rfl := Option.some.inj (found.symm.trans found')
      rfl
    | array array _ =>
      rw [grown.element?_declared found] at array
      cases array
  | array array _ ih =>
    cases other with
    | origin found =>
      rw [grown.element?_declared found] at array
      cases array
    | array array' shaped' =>
      obtain rfl := Option.some.inj (array.symm.trans array')
      rw [ih shaped']

/-- Only one handle stands for a shape. -/
lemma injective (shaped : Shaped origins registry type shape) (grown : Grown origins registry)
    (same : Shaped origins registry other shape) : type = other := by
  induction shaped generalizing other with
  | @origin type origin found =>
    generalize e : (⟨origin, 0⟩ : Shape) = shape at same
    cases same with
    | origin found' =>
      cases e
      obtain ⟨bound, at_type⟩ := List.getElem?_eq_some_iff.mp found
      have := (List.getElem?_inj bound grown.nodup).mp (found.trans found'.symm)
      exact congrArg TypeId.mk this
    | array _ _ => cases e
  | @array type element shape array _ ih =>
    generalize e : shape.array = whole at same
    cases same with
    | origin _ => cases e
    | array array' shaped' =>
      obtain rfl := ih (Shape.array_injective e ▸ shaped')
      exact grown.distinct _ _ _ array array'

/-- Handles are the same exactly if their shapes are. -/
lemma eq_iff (shaped : Shaped origins registry type shape) (grown : Grown origins registry)
    (same : Shaped origins registry other form) : type = other ↔ shape = form := by
  constructor
  · rintro rfl
    exact shaped.unique grown same
  · rintro rfl
    exact shaped.injective grown same

/-- A handle goes by the label of its shape. -/
lemma name (shaped : Shaped origins registry type shape) (grown : Grown origins registry) :
    registry.name type = shape.label := by
  induction shaped with
  | origin found => rw [TypeRegistry.name, grown.declared _ _ found]; rfl
  | array array _ ih =>
    rw [TypeRegistry.name, (grown.of_element? array).2, Option.elim_some, ih, Shape.label_array]

/-- A handle stands for a type of the node that its shape comes from. -/
lemma userNode? (shaped : Shaped origins registry type shape) (grown : Grown origins registry) :
    registry.userNode? type = shape.userNode? := by
  cases shaped with
  | origin found =>
    rw [TypeRegistry.userNode?, grown.kind?_declared found]
    rename_i origin
    cases origin <;> rfl
  | @array _ element shape array _ =>
    rw [TypeRegistry.userNode?, TypeRegistry.kind?, (grown.of_element? array).2]
    obtain ⟨origin, depth⟩ := shape
    cases origin <;> rfl

/-- Taking elements of an array takes elements of its shape. -/
lemma elements (shaped : Shaped origins registry type shape) (grown : Grown origins registry) :
    Shaped origins registry ((registry.element? type).getD type) shape.element := by
  cases shaped with
  | origin found =>
    rw [grown.element?_declared found]
    exact .origin found
  | array array shaped =>
    rw [array]
    exact shaped

/-- A handle is generic if its shape is. -/
lemma isGeneric (shaped : Shaped origins registry type shape) (grown : Grown origins registry) :
    registry.isGeneric type = shape.isGeneric := by
  have within : ∀ depth, type.index < depth →
      registry.isGenericWithin depth type = shape.isGeneric := by
    induction shaped with
    | @origin type origin found =>
      intro depth enough
      obtain ⟨depth, rfl⟩ := Nat.exists_eq_succ_of_ne_zero (Nat.ne_of_gt (Nat.zero_lt_of_lt enough))
      rw [TypeRegistry.isGenericWithin, grown.kind?_declared found]
      cases origin <;> rfl
    | array array _ ih =>
      intro depth enough
      obtain ⟨depth, rfl⟩ := Nat.exists_eq_succ_of_ne_zero (Nat.ne_of_gt (Nat.zero_lt_of_lt enough))
      obtain ⟨older, info⟩ := grown.of_element? array
      rw [TypeRegistry.isGenericWithin, TypeRegistry.kind?, info]
      exact ih depth (by omega)
  exact within registry.size (shaped.known grown)

/-- Handles are compatible if their shapes are. -/
lemma compatible (shaped : Shaped origins registry type shape) (grown : Grown origins registry)
    (found : Shaped origins registry other form) :
    registry.compatible type other = shape.compatible form := by
  rw [TypeRegistry.compatible, Shape.compatible, shaped.isGeneric grown, found.isGeneric grown,
    decide_eq_decide.mpr (shaped.eq_iff grown found)]

end Shaped

/-! ## Registering arrays -/

/-- Handles keep their shapes. -/
def Keeps (origins : List Origin) (registry later : TypeRegistry) : Prop :=
  ∀ type shape, Shaped origins registry type shape → Shaped origins later type shape

lemma Keeps.refl (origins : List Origin) (registry : TypeRegistry) : Keeps origins registry registry :=
  fun _ _ shaped => shaped

lemma Keeps.trans {last : TypeRegistry} (h : Keeps origins registry later)
    (g : Keeps origins later last) : Keeps origins registry last :=
  fun type shape shaped => g type shape (h type shape shaped)

/-- The array type that is found for some elements has these elements. -/
lemma element?_of_array? (found : registry.array? element = some type) :
    registry.element? type = some element := by
  obtain ⟨index, place, rfl⟩ := Option.map_eq_some_iff.mp found
  obtain ⟨bound, kind, -⟩ := Array.findIdx?_eq_some_iff_getElem.mp place
  have info : registry.info? ⟨index⟩ = some registry.entries[index] := Array.getElem?_eq_getElem bound
  rw [TypeRegistry.element?, TypeRegistry.kind?, info, Option.map_some, of_decide_eq_true kind]

/-- If no array type is found for some elements, there is none. -/
lemma element?_of_no_array? (none : registry.array? element = none) :
    registry.element? type ≠ some element := by
  intro array
  have absent := Array.findIdx?_eq_none_iff.mp (Option.map_eq_none_iff.mp none)
  cases info : registry.info? type with
  | none =>
    rw [TypeRegistry.element?, TypeRegistry.kind?, info] at array
    cases array
  | some info' =>
    have kind : info'.kind ≠ .array element := by simpa using absent info' (Array.mem_of_getElem? info)
    rw [TypeRegistry.element?, TypeRegistry.kind?, info, Option.map_some] at array
    split at array
    · next other e =>
      obtain rfl := Option.some.inj array
      exact kind (Option.some.inj e)
    · cases array

/-- A new array type has its elements. -/
lemma element?_register (type : TypeId) (name : String) :
    (registry.register ⟨name, .array element⟩).2.element? type =
      if type = ⟨registry.size⟩ then some element else registry.element? type := by
  unfold TypeRegistry.element? TypeRegistry.kind?
  rw [TypeRegistry.info?_register]
  by_cases e : type = ⟨registry.size⟩
  · rw [if_pos e, if_pos (show type = (registry.register _).1 from e), Option.map_some]
  · rw [if_neg e, if_neg (show ¬ type = (registry.register _).1 from e)]

/-- Registering an array type over a known type that has none yet. -/
lemma Grown.register (grown : Grown origins registry) (known : element.index < registry.size)
    (none : registry.array? element = none) :
    Grown origins (registry.register ⟨registry.name element ++ "[]", .array element⟩).2 := by
  have older : ∀ {type : TypeId}, type.index < registry.size →
      (registry.register ⟨registry.name element ++ "[]", .array element⟩).2.info? type =
        registry.info? type := fun old => info?_of_older registry old
  have names : ∀ {type : TypeId}, type.index < registry.size →
      (registry.register ⟨registry.name element ++ "[]", .array element⟩).2.name type =
        registry.name type := by
    intro type old
    exact congrArg (Option.elim · "?" TypeInfo.name) (older old)
  refine
    { nodup := grown.nodup
      builtins := grown.builtins
      size := ?_
      declared := fun type origin found => ?_
      arrays := fun type beyond registered => ?_
      distinct := fun first second other array array' => ?_ }
  · rw [TypeRegistry.size_register]
    exact Nat.le_succ_of_le grown.size
  · rw [older (Nat.lt_of_lt_of_le (List.getElem?_eq_some_iff.mp found).1 grown.size)]
    exact grown.declared type origin found
  · rw [TypeRegistry.size_register] at registered
    -- A registered type is an older one or the array itself.
    rcases Nat.lt_or_ge type.index registry.size with old | new
    · obtain ⟨other, lt, info⟩ := grown.arrays type beyond old
      exact ⟨other, lt, by rw [older old, info, names (Nat.lt_trans lt old)]⟩
    · have e : type = ⟨registry.size⟩ := by
        obtain ⟨index⟩ := type
        exact congrArg TypeId.mk (Nat.le_antisymm (Nat.le_of_lt_succ registered) new)
      refine ⟨element, by rw [e]; exact known, ?_⟩
      rw [TypeRegistry.info?_register, names known]
      exact if_pos e
  · rw [element?_register] at array array'
    -- That no array of the element was registered before keeps two arrays from having one element.
    split at array <;> split at array'
    · next e e' => exact e.trans e'.symm
    · obtain rfl := Option.some.inj array
      exact absurd array' (element?_of_no_array? none)
    · obtain rfl := Option.some.inj array'
      exact absurd array (element?_of_no_array? none)
    · exact grown.distinct first second other array array'

/-- The array type over a known type stands for the array over its shape; all handles keep their shapes. -/
lemma Grown.arrayOf (grown : Grown origins registry) (shaped : Shaped origins registry element shape) :
    Grown origins (registry.arrayOf element).2 ∧ Keeps origins registry (registry.arrayOf element).2 ∧
      Shaped origins (registry.arrayOf element).2 (registry.arrayOf element).1 shape.array := by
  unfold TypeRegistry.arrayOf
  cases found : registry.array? element with
  | some array => exact ⟨grown, .refl _ _, .array (element?_of_array? found) shaped⟩
  | none =>
    have known := shaped.known grown
    have keeps : Keeps origins registry
        (registry.register ⟨registry.name element ++ "[]", .array element⟩).2 := by
      intro type shape shaped
      induction shaped with
      | origin found => exact .origin found
      | @array type _ _ array shaped ih =>
        refine .array ?_ ih
        rw [element?_register, if_neg ?_, array]
        rintro rfl
        exact Nat.lt_irrefl _ ((Shaped.array array shaped).known grown)
    refine ⟨grown.register known found, keeps, .array ?_ (keeps _ _ shaped)⟩
    rw [element?_register]
    exact if_pos rfl

end ArrowScript.Analysis
