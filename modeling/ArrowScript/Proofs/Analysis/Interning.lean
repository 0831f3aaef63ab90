import ArrowScript.Proofs.Analysis.Shapes

/-!
# Interned array types

A registry is asked for the handles of defined types, of type parameters and of arrays over known types, in any order
and any number of times. Every declaration gets a handle of its own, every type of elements gets one array type, and
what a handle stands for never changes (`array_types_are_interned`). The elements of an array type are always older
than the array, which bounds every recursion from arrays to their elements.
-/

namespace ArrowScript.TypeRegistry
open Analysis

/-- What a registry is asked for. -/
inductive Request
  | user (name : String) (node : NodeId)
  | parameter (name : String)
  | array (element : TypeId)
deriving DecidableEq

/-- The kind of what is asked for. -/
def Request.kind : Request → TypeKind
  | user _ node => .user node
  | parameter _ => .parameter
  | array element => .array element

/-- The name of what is asked for. -/
def Request.label (registry : TypeRegistry) : Request → String
  | user name _ | parameter name => name
  | array element => registry.name element ++ "[]"

/-- What stands for a request in a registry. -/
def Request.info (registry : TypeRegistry) (request : Request) : TypeInfo :=
  ⟨request.label registry, request.kind⟩

/-- The handle for a request, and the registry from then on. -/
def answer (registry : TypeRegistry) : Request → TypeId × TypeRegistry
  | .user name node => registry.registerUser name node
  | .parameter name => registry.registerParameter name
  | .array element => registry.arrayOf element

/-- A handle was given out. -/
def Knows (registry : TypeRegistry) (type : TypeId) : Prop :=
  type.index < registry.size

/-- Arrays are asked for over known types only. -/
def Admits (registry : TypeRegistry) : Request → Prop
  | .array element => registry.Knows element
  | .user .. | .parameter _ => True

instance (registry : TypeRegistry) (type : TypeId) : Decidable (registry.Knows type) :=
  inferInstanceAs (Decidable (_ < _))

instance (registry : TypeRegistry) : (request : Request) → Decidable (registry.Admits request)
  | .array element => inferInstanceAs (Decidable (registry.Knows element))
  | .user .. | .parameter _ => inferInstanceAs (Decidable True)

/-- Requests with their answers, the oldest first, that lead from one registry to another. -/
inductive Run (registry : TypeRegistry) : List (Request × TypeId) → TypeRegistry → Prop
  | nil : Run registry [] registry
  | snoc {calls : List (Request × TypeId)} {later : TypeRegistry} (request : Request) : Run registry calls later →
    later.Admits request →
    Run registry (calls ++ [(request, (later.answer request).1)]) (later.answer request).2

/-- The array types among the answers, by their elements. -/
def arrays (calls : List (Request × TypeId)) : List (TypeId × TypeId) :=
  calls.filterMap fun
    | (.array element, array) => some (element, array)
    | (.user .., _) | (.parameter _, _) => none

/-- The type that is no array under a number of arrays. -/
inductive Nested (registry : TypeRegistry) : TypeId → Nat → TypeId → Prop
  | innermost {type : TypeId} : registry.element? type = none → Nested registry type 0 type
  | array {type element innermost : TypeId} {depth : Nat} : registry.element? type = some element →
    Nested registry element depth innermost → Nested registry type (depth + 1) innermost

/-- What is known of handles stays as it is. -/
structure Stays (registry later : TypeRegistry) : Prop where
  size : registry.size ≤ later.size
  info : ∀ type, registry.Knows type → later.info? type = registry.info? type
  name : ∀ type, registry.Knows type → later.name type = registry.name type
  kind : ∀ type, registry.Knows type → later.kind? type = registry.kind? type
  node : ∀ type, registry.Knows type → later.userNode? type = registry.userNode? type

/-- One handle is new, and stands for a type. -/
structure Adds (registry : TypeRegistry) (info : TypeInfo) (answer : TypeId × TypeRegistry) : Prop where
  fresh : ¬ registry.Knows answer.1
  info : answer.2.info? answer.1 = some info
  size : answer.2.size = registry.size + 1
  stays : registry.Stays answer.2

/-- Array types name their elements, which are older, and no two name the same. -/
structure Layered (registry : TypeRegistry) : Prop where
  older : ∀ array element, registry.element? array = some element → element.index < array.index
  named : ∀ array element, registry.element? array = some element →
    registry.name array = registry.name element ++ "[]"
  distinct : ∀ first second element, registry.element? first = some element →
    registry.element? second = some element → first = second

/-- What holds of a registry and of the answers that it has given. -/
structure Interns (registry : TypeRegistry) (calls : List (Request × TypeId)) : Prop where
  layered : registry.Layered
  known : ∀ request type, (request, type) ∈ calls → registry.Knows type
  kinds : ∀ request type, (request, type) ∈ calls → registry.kind? type = some request.kind
  /-- Arrays of the same elements have the same handle, and others have not. -/
  same : ∀ first second array array', (.array first, array) ∈ calls → (.array second, array') ∈ calls →
    (array = array' ↔ first = second)
  inverse : ∀ element array, registry.array? element = some array ↔ registry.element? array = some element
  remembered : ∀ element, registry.array? element = (arrays calls).lookup element
  /-- Every type is an array of arrays down to some innermost type, which tells its name and whether it is generic. -/
  ends : ∀ type, ∃ depth innermost, registry.Nested type depth innermost
  unique : ∀ type depth innermost depth' innermost', registry.Nested type depth innermost →
    registry.Nested type depth' innermost' → depth = depth' ∧ innermost = innermost'
  inside : ∀ type depth innermost, registry.Nested type depth innermost → registry.Knows type →
    registry.Knows innermost ∧ registry.element? innermost = none
  name : ∀ type depth innermost, registry.Nested type depth innermost →
    registry.name type = registry.name innermost ++ String.join (List.replicate depth "[]")
  generic : ∀ type depth innermost, registry.Nested type depth innermost →
    (registry.isGeneric type = true ↔ registry.kind? innermost = some .parameter)
  recursion : ∀ type, registry.isGeneric type =
    match registry.kind? type with
    | some .parameter => true
    | some (.array element) => registry.isGeneric element
    | some .builtin | some (.user _) | none => false
  bounded : ∀ type steps, registry.size ≤ steps → registry.isGenericWithin steps type = registry.isGeneric type
  /-- All types that are registered are new, apart from arrays that were asked for before. -/
  user : ∀ name node, registry.Adds ⟨name, .user node⟩ (registry.registerUser name node)
  parameter : ∀ name, registry.Adds ⟨name, .parameter⟩ (registry.registerParameter name)
  found : ∀ element array, registry.element? array = some element → registry.arrayOf element = (array, registry)
  added : ∀ element, (∀ array, registry.element? array ≠ some element) →
    registry.Adds ⟨registry.name element ++ "[]", .array element⟩ (registry.arrayOf element)

variable {registry later last : TypeRegistry} {type element innermost : TypeId} {info : TypeInfo} {request : Request}
  {calls more : List (Request × TypeId)} {depth : Nat}

/-! ## Registering -/

/-- An array type is one of the kind of arrays. -/
lemma element?_eq_some : registry.element? type = some element ↔ registry.kind? type = some (.array element) := by
  unfold element?
  constructor
  · intro found
    split at found
    · next kind => rwa [Option.some.inj found] at kind
    · cases found
  · intro kind
    rw [kind]

/-- An array type is known. -/
lemma knows_of_element? (array : registry.element? type = some element) : registry.Knows type := by
  obtain ⟨info, found, -⟩ := Option.map_eq_some_iff.mp (element?_eq_some.mp array)
  exact (Array.getElem?_eq_some_iff.mp found).1

/-- The built-in types are no arrays. -/
lemma element?_initial (type : TypeId) : initial.element? type = none := by
  refine Option.eq_none_iff_forall_ne_some.mpr fun element array => ?_
  have plain : ∀ index < 6, initial.kind? ⟨index⟩ = some .builtin := by decide
  cases (plain type.index (knows_of_element? array)).symm.trans (element?_eq_some.mp array)

lemma Stays.of_info (size : registry.size ≤ later.size)
    (info : ∀ type, registry.Knows type → later.info? type = registry.info? type) : registry.Stays later where
  size := size
  info := info
  name := fun type known => by rw [TypeRegistry.name, info type known, ← TypeRegistry.name]
  kind := fun type known => by rw [kind?, info type known, ← kind?]
  node := fun type known => by rw [userNode?, kind?, info type known, ← kind?, ← userNode?]

lemma Stays.refl (registry : TypeRegistry) : registry.Stays registry :=
  .of_info (Nat.le_refl _) fun _ _ => rfl

lemma Stays.knows (h : registry.Stays later) (known : registry.Knows type) : later.Knows type :=
  Nat.lt_of_lt_of_le known h.size

lemma Stays.trans (h : registry.Stays later) (g : later.Stays last) : registry.Stays last :=
  .of_info (Nat.le_trans h.size g.size) fun type known => (g.info type (h.knows known)).trans (h.info type known)

/-- The elements of known array types stay as they are. -/
lemma Stays.element? (h : registry.Stays later) (known : registry.Knows type) :
    later.element? type = registry.element? type := by
  rw [TypeRegistry.element?, h.kind type known, ← TypeRegistry.element?]

/-- Registering a type adds a handle for it. -/
lemma register_adds (registry : TypeRegistry) (info : TypeInfo) : registry.Adds info (registry.register info) where
  fresh := Nat.lt_irrefl _
  info := (info?_register registry info _).trans (if_pos rfl)
  size := size_register registry info
  stays := .of_info (by rw [size_register]; exact Nat.le_succ _) fun _ known => info?_of_older registry known

/-- What a new registry knows is either new or known before. -/
lemma Adds.eq_or_knows {answer : TypeId × TypeRegistry} (adds : registry.Adds info answer)
    (known : answer.2.Knows type) : type = answer.1 ∨ registry.Knows type := by
  have bound : answer.1.index < answer.2.size := (Array.getElem?_eq_some_iff.mp adds.info).1
  have fresh : registry.size ≤ answer.1.index := Nat.le_of_not_lt adds.fresh
  obtain ⟨index⟩ := type
  have below : index < registry.size + 1 := adds.size ▸ known
  rw [adds.size] at bound
  rcases Nat.lt_or_ge index registry.size with old | new
  · exact .inr old
  · exact .inl (congrArg TypeId.mk (show index = answer.1.index by omega))

/-- Either a handle is new for what was asked, or the array type was there and nothing changes. -/
lemma answer_cases (registry : TypeRegistry) (request : Request) :
    (registry.Adds (request.info registry) (registry.answer request) ∧
        ∀ element, request = .array element → registry.array? element = none) ∨
      ∃ element array, request = .array element ∧ registry.array? element = some array ∧
        registry.answer request = (array, registry) := by
  cases request with
  | user name node => exact .inl ⟨register_adds registry _, nofun⟩
  | parameter name => exact .inl ⟨register_adds registry _, nofun⟩
  | array element =>
    rw [answer, arrayOf]
    cases found : registry.array? element with
    | none =>
      refine .inl ⟨register_adds registry _, ?_⟩
      rintro _ ⟨⟩
      exact found
    | some array => exact .inr ⟨element, array, rfl, found, rfl⟩

/-- What is known stays as it is when more is asked for. -/
lemma answer_stays (registry : TypeRegistry) (request : Request) : registry.Stays (registry.answer request).2 := by
  rcases registry.answer_cases request with ⟨adds, -⟩ | ⟨_, _, -, -, same⟩
  · exact adds.stays
  · rw [same]
    exact .refl registry

/-- The answer is known from then on. -/
lemma knows_answer (registry : TypeRegistry) (request : Request) :
    (registry.answer request).2.Knows (registry.answer request).1 := by
  rcases registry.answer_cases request with ⟨adds, -⟩ | ⟨_, _, -, found, same⟩
  · exact (Array.getElem?_eq_some_iff.mp adds.info).1
  · rw [same]
    exact knows_of_element? (element?_of_array? found)

/-- The answer is of the kind that was asked for. -/
lemma kind?_answer (registry : TypeRegistry) (request : Request) :
    (registry.answer request).2.kind? (registry.answer request).1 = some request.kind := by
  rcases registry.answer_cases request with ⟨adds, -⟩ | ⟨_, _, rfl, found, same⟩
  · rw [kind?, adds.info, Option.map_some]
    rfl
  · rw [same]
    exact element?_eq_some.mp (element?_of_array? found)

/-! ## Layers of arrays -/

namespace Layered

/-- At first there are no arrays. -/
lemma initial : TypeRegistry.initial.Layered := by
  constructor <;> intros <;> simp_all only [element?_initial, reduceCtorEq]

/-- Array types are found for their elements, and only for these. -/
lemma array?_eq_some (layered : registry.Layered) {array : TypeId} :
    registry.array? element = some array ↔ registry.element? array = some element := by
  refine ⟨element?_of_array?, fun there => ?_⟩
  cases found : registry.array? element with
  | none => exact absurd there (element?_of_no_array? found)
  | some other => rw [layered.distinct _ _ _ (element?_of_array? found) there]

/-- What is asked for over known types leaves the layers as they are, or adds one. -/
lemma answer (layered : registry.Layered) (admits : registry.Admits request) :
    (registry.answer request).2.Layered := by
  rcases registry.answer_cases request with ⟨adds, unseen⟩ | ⟨_, _, -, -, same⟩
  rotate_left
  · rwa [same]
  -- An array type is either the new one, over a known type without an array so far, or one from before.
  have cases_of : ∀ {array element}, (registry.answer request).2.element? array = some element →
      (array = (registry.answer request).1 ∧ request = .array element) ∨
        registry.Knows array ∧ registry.element? array = some element := by
    intro array element there
    rcases adds.eq_or_knows (knows_of_element? there) with rfl | known
    · rw [element?_eq_some, kind?, adds.info, Option.map_some] at there
      refine .inl ⟨rfl, ?_⟩
      cases request <;> cases there
      rfl
    · exact .inr ⟨known, adds.stays.element? known ▸ there⟩
  refine ⟨fun array element there => ?_, fun array element there => ?_, fun first second element there there' => ?_⟩
  · rcases cases_of there with ⟨rfl, rfl⟩ | ⟨-, before⟩
    · exact Nat.lt_of_lt_of_le admits (Nat.le_of_not_lt adds.fresh)
    · exact layered.older array element before
  · rcases cases_of there with ⟨rfl, rfl⟩ | ⟨known, before⟩
    · rw [name, adds.info, adds.stays.name element admits]
      rfl
    · have older := layered.older array element before
      rw [adds.stays.name array known, adds.stays.name element (Nat.lt_trans older known)]
      exact layered.named array element before
  · rcases cases_of there with ⟨rfl, e⟩ | ⟨-, before⟩ <;> rcases cases_of there' with ⟨rfl, e'⟩ | ⟨-, before'⟩
    · rfl
    · exact absurd before' (element?_of_no_array? (unseen element e))
    · exact absurd before (element?_of_no_array? (unseen element e'))
    · exact layered.distinct first second element before before'

end Layered

/-! ## Types inside arrays -/

namespace Nested

/-- There is one innermost type only. -/
lemma unique {depth' : Nat} {innermost' : TypeId} (nested : registry.Nested type depth innermost)
    (other : registry.Nested type depth' innermost') : depth = depth' ∧ innermost = innermost' := by
  induction nested generalizing depth' with
  | innermost plain =>
    cases other with
    | innermost => exact ⟨rfl, rfl⟩
    | array array _ => cases plain.symm.trans array
  | array array _ ih =>
    cases other with
    | innermost plain => cases plain.symm.trans array
    | array array' nested' =>
      obtain rfl := Option.some.inj (array.symm.trans array')
      obtain ⟨rfl, rfl⟩ := ih nested'
      exact ⟨rfl, rfl⟩

/-- Every type has an innermost one, as elements are older. -/
lemma exists_of_layered (layered : registry.Layered) (type : TypeId) :
    ∃ depth innermost, registry.Nested type depth innermost := by
  obtain ⟨index⟩ := type
  induction index using Nat.strongRecOn with
  | _ index ih =>
    cases array : registry.element? ⟨index⟩ with
    | none => exact ⟨0, ⟨index⟩, .innermost array⟩
    | some element =>
      obtain ⟨depth, innermost, nested⟩ := ih element.index (layered.older _ _ array)
      exact ⟨depth + 1, innermost, .array array nested⟩

/-- Each array around a type takes one handle at least. -/
lemma index_add_depth_le (nested : registry.Nested type depth innermost) (layered : registry.Layered) :
    innermost.index + depth ≤ type.index := by
  induction nested with
  | innermost => exact Nat.le_refl _
  | array array _ ih => exact Nat.lt_of_le_of_lt ih (layered.older _ _ array)

/-- The innermost type is no array. -/
lemma element?_innermost (nested : registry.Nested type depth innermost) : registry.element? innermost = none := by
  induction nested with
  | innermost plain => exact plain
  | array _ _ ih => exact ih

/-- No more arrays are around a type than there are types. -/
lemma depth_lt (nested : registry.Nested type depth innermost) (layered : registry.Layered)
    (some : 0 < registry.size) : depth < registry.size := by
  cases nested with
  | innermost => exact some
  | array array inner =>
    have below := (Nested.array array inner).index_add_depth_le layered
    exact Nat.lt_of_le_of_lt (Nat.le_trans (Nat.le_add_left _ _) below) (knows_of_element? array)

/-- A type is named after its innermost one. -/
lemma name (nested : registry.Nested type depth innermost) (layered : registry.Layered) :
    registry.name type = registry.name innermost ++ String.join (List.replicate depth "[]") := by
  induction nested with
  | innermost => exact String.append_empty.symm
  | array array _ ih =>
    rw [layered.named _ _ array, ih, List.replicate_succ', String.join_append, String.append_assoc]
    rfl

/-- Whether a type is generic is decided by its innermost one, within as many steps as there are arrays. -/
lemma isGenericWithin (nested : registry.Nested type depth innermost) {steps : Nat} (enough : depth < steps) :
    registry.isGenericWithin steps type = decide (registry.kind? innermost = some .parameter) := by
  obtain ⟨steps, rfl⟩ := Nat.exists_eq_succ_of_ne_zero (Nat.ne_zero_of_lt enough)
  induction nested generalizing steps with
  | @innermost type plain =>
    rw [TypeRegistry.isGenericWithin]
    split
    · next kind => exact (decide_eq_true kind).symm
    · next kind => cases plain.symm.trans (element?_eq_some.mpr kind)
    · next other _ => exact (decide_eq_false other).symm
  | array array _ ih =>
    rw [TypeRegistry.isGenericWithin, element?_eq_some.mp array]
    obtain ⟨steps, rfl⟩ := Nat.exists_eq_succ_of_ne_zero (Nat.ne_zero_of_lt (Nat.lt_of_succ_lt_succ enough))
    exact ih steps (Nat.lt_of_succ_lt_succ enough)

end Nested

/-! ## Runs -/

namespace Run

/-- What is known stays as it is. -/
lemma stays (run : Run registry calls later) : registry.Stays later := by
  induction run with
  | nil => exact .refl registry
  | snoc request _ _ ih => exact ih.trans (answer_stays _ request)

/-- The layers of arrays are kept. -/
lemma layered (run : Run registry calls later) (layered : registry.Layered) : later.Layered := by
  induction run with
  | nil => exact layered
  | snoc _ _ admits ih => exact ih.answer admits

/-- The answers are known, and of the kinds that were asked for. -/
lemma answered (run : Run registry calls later) {call : Request × TypeId} (mem : call ∈ calls) :
    later.Knows call.2 ∧ later.kind? call.2 = some call.1.kind := by
  induction run with
  | nil => cases mem
  | @snoc calls later request _ _ ih =>
    rcases List.mem_append.mp mem with before | last
    · obtain ⟨known, kind⟩ := ih before
      have stays := later.answer_stays request
      exact ⟨stays.knows known, (stays.kind _ known).trans kind⟩
    · obtain rfl := List.mem_singleton.mp last
      exact ⟨later.knows_answer request, later.kind?_answer request⟩

/-- Every array type was answered. -/
lemma mem_of_element? (run : Run .initial calls registry) {array : TypeId}
    (there : registry.element? array = some element) : (.array element, array) ∈ calls := by
  induction run with
  | nil =>
    rw [element?_initial] at there
    cases there
  | @snoc calls later request before admits ih =>
    rcases later.answer_cases request with ⟨adds, -⟩ | ⟨_, _, -, -, same⟩
    · rcases adds.eq_or_knows (knows_of_element? there) with rfl | known
      · have kind := later.kind?_answer request
        rw [element?_eq_some.mp there] at kind
        refine List.mem_append_right _ ?_
        cases request <;> cases kind
        exact List.mem_singleton_self _
      · exact List.mem_append_left _ (ih (adds.stays.element? known ▸ there))
    · rw [same] at there
      exact List.mem_append_left _ (ih there)

end Run

/-- The answers for arrays are remembered. -/
lemma mem_arrays {array : TypeId} : (element, array) ∈ arrays calls ↔ (.array element, array) ∈ calls := by
  rw [arrays, List.mem_filterMap]
  constructor
  · rintro ⟨⟨request, type⟩, mem, e⟩
    cases request <;> cases e
    exact mem
  · intro mem
    exact ⟨_, mem, rfl⟩

/-- Looking the array type over some elements up in the answers so far does what searching the registry does. -/
lemma Run.array?_eq_lookup (run : Run .initial calls registry) (element : TypeId) :
    registry.array? element = (arrays calls).lookup element := by
  have layered := run.layered .initial
  have answered : ∀ {array}, (element, array) ∈ arrays calls → registry.array? element = some array := fun mem =>
    layered.array?_eq_some.mpr (element?_eq_some.mpr (run.answered (mem_arrays.mp mem)).2)
  cases looked : (arrays calls).lookup element with
  | none =>
    refine Option.eq_none_iff_forall_ne_some.mpr fun array found => ?_
    have mem := run.mem_of_element? (element?_of_array? found)
    exact absurd rfl (bne_iff_ne.mp (List.lookup_eq_none_iff.mp looked _ (mem_arrays.mpr mem)))
  | some array =>
    obtain ⟨before, after, split, -⟩ := List.lookup_eq_some_iff.mp looked
    exact answered (split ▸ List.mem_append_right _ (List.mem_cons_self ..))

/-- Whatever is asked for, array types are registered once for each type of elements, declared types each time, and
no handle ever changes. -/
theorem array_types_are_interned (run : Run .initial calls registry) :
    registry.Interns calls ∧ ∀ more later, Run registry more later → registry.Stays later := by
  have layered := run.layered .initial
  have nonempty : 0 < registry.size := Nat.lt_of_lt_of_le (by decide) run.stays.size
  have element : ∀ {element array}, (.array element, array) ∈ calls → registry.element? array = some element :=
    fun mem => element?_eq_some.mpr (run.answered mem).2
  have generic : ∀ {type depth innermost steps}, registry.Nested type depth innermost → registry.size ≤ steps →
      registry.isGenericWithin steps type = decide (registry.kind? innermost = some .parameter) :=
    fun nested enough => nested.isGenericWithin (Nat.lt_of_lt_of_le (nested.depth_lt layered nonempty) enough)
  refine ⟨{
    layered := layered
    known := fun _ _ mem => (run.answered mem).1
    kinds := fun _ _ mem => (run.answered mem).2
    same := fun first second array array' mem mem' => ?same
    inverse := fun _ _ => layered.array?_eq_some
    remembered := run.array?_eq_lookup
    ends := Nested.exists_of_layered layered
    unique := fun _ _ _ _ _ nested other => nested.unique other
    inside := fun _ _ _ nested known => ⟨Nat.lt_of_le_of_lt (Nat.le_trans (Nat.le_add_right _ _)
      (nested.index_add_depth_le layered)) known, nested.element?_innermost⟩
    name := fun _ _ _ nested => nested.name layered
    generic := fun type depth innermost nested => ?generic
    recursion := fun type => ?recursion
    bounded := fun type steps enough => ?bounded
    user := fun name node => register_adds registry _
    parameter := fun name => register_adds registry _
    found := fun element array there => ?found
    added := fun element unseen => ?added }, fun _ _ => Run.stays⟩
  case same =>
    constructor
    · rintro rfl
      exact Option.some.inj ((element mem).symm.trans (element mem'))
    · rintro rfl
      exact layered.distinct _ _ _ (element mem) (element mem')
  case generic =>
    rw [isGeneric, generic nested (Nat.le_refl _)]
    exact decide_eq_true_iff
  case recursion =>
    -- One more step makes no difference, and so the recursion may be unfolded once.
    obtain ⟨depth, innermost, nested⟩ := Nested.exists_of_layered layered type
    rw [isGeneric, generic nested (Nat.le_refl _), ← generic nested (Nat.le_succ _), isGenericWithin]
    cases registry.kind? type with
    | none => rfl
    | some kind => cases kind <;> rfl
  case bounded =>
    obtain ⟨depth, innermost, nested⟩ := Nested.exists_of_layered layered type
    rw [isGeneric, generic nested enough, generic nested (Nat.le_refl _)]
  case found => rw [arrayOf, layered.array?_eq_some.mpr there]
  case added =>
    have none : registry.array? element = none :=
      Option.eq_none_iff_forall_ne_some.mpr fun array found => unseen array (element?_of_array? found)
    rw [arrayOf, none]
    exact register_adds registry _

/-- Two types with one name, and arrays over arrays over a type parameter, one of them asked for twice. -/
theorem array_types_are_interned_nested :
    ∃ calls registry, Run .initial calls registry ∧
      calls = [(.user "T" ⟨3⟩, ⟨6⟩), (.parameter "T", ⟨7⟩), (.array ⟨7⟩, ⟨8⟩), (.array ⟨8⟩, ⟨9⟩), (.array ⟨7⟩, ⟨8⟩)] ∧
      registry.name ⟨9⟩ = "T[][]" ∧ registry.isGeneric ⟨9⟩ = true ∧ registry.size = 10 ∧
      registry.Interns calls ∧ ∀ more later, Run registry more later → registry.Stays later := by
  have asked : Run initial _ _ := (Run.nil.snoc (.user "T" ⟨3⟩) trivial).snoc (.parameter "T") trivial
  have nested := (asked.snoc (.array ⟨7⟩) (by decide +kernel)).snoc (.array ⟨8⟩) (by decide +kernel)
  have run := nested.snoc (.array ⟨7⟩) (by decide +kernel)
  refine ⟨_, _, run, ?_, ?_, ?_, ?_, array_types_are_interned run⟩
  all_goals decide +kernel

end ArrowScript.TypeRegistry
