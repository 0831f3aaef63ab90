import ArrowScript.Proofs.Analysis.Declarations
import ArrowScript.Proofs.Analysis.Scoping

/-!
# Looking types and names up

`Visits` says what visiting part of a program does to the state: scopes stay as they are, array types may
be registered, types that are found for declarations are kept, and `inferred` are the types of variables
without a written type. What is known at one point is known later (`Later`). Looking a name up gives what
the rule of lexical scoping says, in the state of that moment and in every later one.
-/

namespace ArrowScript.Analysis
open Token

variable {P : Piece → Prop} {s t u : State} {added more : List (NodeId × TypeId)}

/-! ## What visiting does -/

/-- What is known of types in one state is known in another. -/
structure Later (s t : State) : Prop where
  size : s.types.size ≤ t.types.size
  users : ∀ type, t.types.userNode? type = s.types.userNode? type
  elements : ∀ type, type.index < s.types.size → t.types.element? type = s.types.element? type
  arrays : ∀ element array, s.types.array? element = some array →
    t.types.array? element = some array
  declared : ∀ node found, s.declaredTypes.lookup node = some found →
    t.declaredTypes.lookup node = some found

namespace Later

/-- Nothing happened. -/
lemma refl (s : State) : Later s s :=
  ⟨Nat.le_refl _, fun _ => rfl, fun _ _ => rfl, fun _ _ h => h, fun _ _ h => h⟩

/-- One thing happened after the other. -/
lemma trans (h : Later s t) (g : Later t u) : Later s u where
  size := Nat.le_trans h.size g.size
  users := fun type => (g.users type).trans (h.users type)
  elements := fun type known =>
    (g.elements type (Nat.lt_of_lt_of_le known h.size)).trans (h.elements type known)
  arrays := fun element array found => g.arrays element array (h.arrays element array found)
  declared := fun node found there => g.declared node found (h.declared node found there)

/-- The same from a state with the same types on. -/
lemma same (h : Later t u) (types : s.types = t.types) (declared : s.declaredTypes = t.declaredTypes) :
    Later s u where
  size := by rw [types]; exact h.size
  users := by rw [types]; exact h.users
  elements := by rw [types]; exact h.elements
  arrays := by rw [types]; exact h.arrays
  declared := by rw [declared]; exact h.declared

end Later

/-- A type is registered, if there is one. -/
def Known (s : State) (type : Option TypeId) : Prop :=
  ∀ found ∈ type, found.index < s.types.size

/-- What is registered stays so. -/
lemma Known.later {type : Option TypeId} (h : Known s type) (later : Later s t) : Known t type :=
  fun found mem => Nat.lt_of_lt_of_le (h found mem) later.size

/-- All types that a state knows of are registered. -/
structure Sound (s : State) : Prop where
  builtins : 6 ≤ s.types.size
  scopes : TypesKnown s
  declared : ∀ node type, s.declaredTypes.lookup node = some type → Known s type
  inferred : ∀ node, Known s (s.inferredTypes.lookup node)

/-- The same in a state that knows the same. -/
lemma Sound.same (sound : Sound s) (types : t.types = s.types) (scopes : t.scopes = s.scopes)
    (declared : t.declaredTypes = s.declaredTypes) (inferred : t.inferredTypes = s.inferredTypes) :
    Sound t where
  builtins := types ▸ sound.builtins
  scopes := sound.scopes.same types scopes
  declared := by rw [declared]; unfold Known; rw [types]; exact sound.declared
  inferred := by rw [inferred]; unfold Known; rw [types]; exact sound.inferred

/-- What visiting does to the state. -/
structure Visits (inferred : List (NodeId × TypeId)) (s t : State) : Prop where
  frame : SameFrame s t
  scopes : t.scopes = s.scopes
  later : Later s t
  inferredTypes : t.inferredTypes = inferred ++ s.inferredTypes
  sound : Sound s → Sound t

namespace Visits

/-- Nothing was visited. -/
lemma refl (s : State) : Visits [] s s :=
  ⟨.refl s, rfl, .refl s, rfl, id⟩

/-- One thing was visited after the other. -/
lemma trans (h : Visits added s t) (g : Visits more t u) : Visits (more ++ added) s u where
  frame := h.frame.trans g.frame
  scopes := g.scopes.trans h.scopes
  later := h.later.trans g.later
  inferredTypes := by rw [g.inferredTypes, h.inferredTypes, List.append_assoc]
  sound := g.sound ∘ h.sound

/-- The same in other words. -/
lemma cast {inferred : List (NodeId × TypeId)} (h : Visits added s t) (e : added = inferred) :
    Visits inferred s t :=
  e ▸ h

/-- A visit in a scope. -/
lemma inside {scope : ScopeId} (h : Visits added { s with active := scope :: s.active } t) :
    Visits added s { t with active := t.active.tail } where
  frame := ⟨by show t.active.tail = _; rw [h.frame.active]; rfl, h.frame.functionDepth,
    h.frame.returnTypes⟩
  scopes := h.scopes
  later := ⟨h.later.size, h.later.users, h.later.elements, h.later.arrays, h.later.declared⟩
  inferredTypes := h.inferredTypes
  sound := fun sound => (h.sound (sound.same rfl rfl rfl rfl)).same rfl rfl rfl rfl

/-- A visit inside a function body. -/
lemma insideFunction (h : Visits added { s with functionDepth := s.functionDepth + 1 } t) :
    Visits added s { t with functionDepth := t.functionDepth - 1 } where
  frame := ⟨h.frame.active, by show t.functionDepth - 1 = _; rw [h.frame.functionDepth]; rfl,
    h.frame.returnTypes⟩
  scopes := h.scopes
  later := ⟨h.later.size, h.later.users, h.later.elements, h.later.arrays, h.later.declared⟩
  inferredTypes := h.inferredTypes
  sound := fun sound => (h.sound (sound.same rfl rfl rfl rfl)).same rfl rfl rfl rfl

/-- A visit where a type is to be returned. -/
lemma returningType {type : Option TypeId}
    (h : Visits added { s with returnTypes := type :: s.returnTypes } t) :
    Visits added s { t with returnTypes := t.returnTypes.tail } where
  frame := ⟨h.frame.active, h.frame.functionDepth, by
    show t.returnTypes.tail = _; rw [h.frame.returnTypes]; rfl⟩
  scopes := h.scopes
  later := ⟨h.later.size, h.later.users, h.later.elements, h.later.arrays, h.later.declared⟩
  inferredTypes := h.inferredTypes
  sound := fun sound => (h.sound (sound.same rfl rfl rfl rfl)).same rfl rfl rfl rfl

end Visits

/-- Looking written types up finds no types for declarations. -/
structure Resolves (s t : State) : Prop extends Visits [] s t where
  declaredTypes : t.declaredTypes = s.declaredTypes

namespace Resolves

/-- Nothing was looked up. -/
lemma refl (s : State) : Resolves s s :=
  ⟨.refl s, rfl⟩

/-- One thing was looked up after the other. -/
lemma trans (h : Resolves s t) (g : Resolves t u) : Resolves s u :=
  ⟨h.toVisits.trans g.toVisits, g.declaredTypes.trans h.declaredTypes⟩

end Resolves

/-! ## Registering arrays -/

section
variable (registry : TypeRegistry) (name : String) (element : TypeId)

/-- Registering a type does not change older ones. -/
lemma info?_of_older {info : TypeInfo} {type : TypeId} (known : type.index < registry.size) :
    (registry.register info).2.info? type = registry.info? type := by
  refine (TypeRegistry.info?_register _ _ _).trans (if_neg ?_)
  rintro rfl
  exact Nat.lt_irrefl _ known

/-- Registering an array type adds no type with members. -/
lemma userNode?_registerArray (type : TypeId) :
    (registry.register ⟨name, .array element⟩).2.userNode? type = registry.userNode? type := by
  by_cases e : type = ⟨registry.size⟩
  · have found := (TypeRegistry.info?_register registry ⟨name, .array element⟩ type).trans (if_pos e)
    have beyond : registry.info? type = none := e ▸ Array.getElem?_size
    simp only [TypeRegistry.userNode?, TypeRegistry.kind?, found, beyond, Option.map_some,
      Option.map_none]
  · have found := (TypeRegistry.info?_register registry ⟨name, .array element⟩ type).trans (if_neg e)
    simp only [TypeRegistry.userNode?, TypeRegistry.kind?, found]

/-- The elements of a registered array type are among older types. -/
lemma element?_registerArray {type other : TypeId} (older : ∀ type other,
    registry.element? type = some other → other.index < registry.size)
    (known : element.index < registry.size)
    (found : (registry.register ⟨name, .array element⟩).2.element? type = some other) :
    other.index < registry.size := by
  unfold TypeRegistry.element? TypeRegistry.kind? at found
  rw [TypeRegistry.info?_register] at found
  by_cases e : type = (registry.register ⟨name, .array element⟩).1
  · rw [if_pos e, Option.map_some] at found
    obtain rfl := Option.some.inj found
    exact known
  · rw [if_neg e] at found
    exact older type other found

/-- A registered array type is found for its elements, unless there was one before. -/
lemma array?_registerArray (other : TypeId) :
    (registry.register ⟨name, .array element⟩).2.array? other =
      (registry.array? other).or (if element = other then some ⟨registry.size⟩ else none) := by
  show Option.map TypeId.mk (Array.findIdx? _ (registry.entries.push _)) = _
  rw [Array.findIdx?_push, Option.map_or]
  congr 1
  by_cases e : element = other <;> simp [e, TypeRegistry.size]

end

/-! ## Steps -/

/-- Reporting changes nothing that is known. -/
lemma report_resolves (problem : SemanticProblem) (span : Span) :
    Leads (report problem span) s fun _ t => Resolves s t :=
  ⟨⟨⟨rfl, rfl, rfl⟩, rfl,
    ⟨Nat.le_refl _, fun _ => rfl, fun _ _ => rfl, fun _ _ h => h, fun _ _ h => h⟩, rfl,
    fun sound => sound.same rfl rfl rfl rfl⟩, rfl⟩

/-- An array type is the one that is registered for its elements from then on. -/
lemma arrayOf_resolves {element : TypeId} (element_known : Sound s → Known s (some element)) :
    Leads (arrayOf element) s fun array t =>
      Resolves s t ∧ t.types.array? element = some array ∧ Known t (some array) := by
  show Resolves s { s with types := (s.types.arrayOf element).2 } ∧
    (s.types.arrayOf element).2.array? element = some (s.types.arrayOf element).1 ∧
    Known { s with types := (s.types.arrayOf element).2 } (some (s.types.arrayOf element).1)
  unfold TypeRegistry.arrayOf
  cases found : s.types.array? element with
  | some array =>
    refine ⟨.refl s, found, ?_⟩
    rintro _ ⟨⟩
    obtain ⟨index, place, rfl⟩ := Option.map_eq_some_iff.mp found
    exact (Array.findIdx?_eq_some_iff_findIdx_eq.mp place).1
  | none =>
    -- A new array type is appended, which changes nothing about older types.
    let registered := (s.types.register ⟨s.types.name element ++ "[]", .array element⟩).2
    have size : registered.size = s.types.size + 1 := TypeRegistry.size_register _ _
    have known : ∀ {type : Option TypeId}, Known s type → Known { s with types := registered } type := by
      intro type known found mem
      exact Nat.lt_of_lt_of_le (known found mem) (size ▸ Nat.le_succ _)
    have later : Later s { s with types := registered } :=
      { size := size ▸ Nat.le_succ _
        users := userNode?_registerArray _ _ _
        elements := fun type old => by
          show registered.element? type = s.types.element? type
          rw [TypeRegistry.element?, TypeRegistry.kind?, info?_of_older _ old]
          rfl
        arrays := fun other array there => by
          show registered.array? other = some array
          rw [array?_registerArray, there]
          rfl
        declared := fun _ _ there => there }
    refine ⟨⟨⟨⟨rfl, rfl, rfl⟩, rfl, later, rfl, fun sound => ⟨?_, ?_, ?_, ?_⟩⟩, rfl⟩, ?_, ?_⟩
    · exact Nat.le_trans sound.builtins later.size
    · refine ⟨fun scope here get key symbol looked => ?_, fun type other array => ?_⟩
      · exact Nat.lt_of_lt_of_le (sound.scopes.symbols scope here get key symbol looked) later.size
      · exact Nat.lt_of_lt_of_le
          (element?_registerArray _ _ _ sound.scopes.elements (element_known sound element rfl) array)
          later.size
    · exact fun node type there => known (sound.declared node type there)
    · exact fun node => known (sound.inferred node)
    · show registered.array? element = some ⟨s.types.size⟩
      rw [array?_registerArray, found, if_pos rfl]
      rfl
    · rintro _ ⟨⟩
      exact size ▸ Nat.lt_succ_self s.types.size

/-- Built-in types are registered. -/
lemma known_builtin? (sound : Sound s) (name : String) : Known s (TypeRegistry.builtin? name) := by
  intro type mem
  obtain ⟨first, rest, e, -⟩ := List.lookup_eq_some_iff.mp mem
  have mem : (name, type) ∈ TypeRegistry.builtins := by simp [e]
  have small : ∀ entry ∈ TypeRegistry.builtins, entry.2.index < 6 := by decide
  exact Nat.lt_of_lt_of_le (small _ mem) sound.builtins

/-- Types that are found in scopes are registered. -/
lemma known_find? (sound : Sound s) (scope : ScopeId) (name : String) (reach : Reach) :
    Known s ((s.scopes.find? scope name reach : Option TypeSymbol).map TypeSymbol.type) := by
  have within : ∀ (steps : Nat) (scope : ScopeId) (symbol : TypeSymbol),
      s.scopes.findWithin name steps scope = some symbol → symbol.type.index < s.types.size := by
    intro steps
    induction steps with
    | zero => exact fun _ _ found => by cases found
    | succ steps ih =>
      intro scope symbol found
      rw [ScopeTable.findWithin] at found
      split at found
      · cases found
      · next here get =>
        split at found
        · next looked =>
          obtain rfl := Option.some.inj found
          exact sound.scopes.symbols scope here get name _ looked
        · next parent _ _ => exact ih parent symbol found
        · cases found
  intro type mem
  obtain ⟨symbol, found, rfl⟩ := Option.map_eq_some_iff.mp mem
  cases reach with
  | here =>
    obtain ⟨here, get, looked⟩ := Option.bind_eq_some_iff.mp found
    exact sound.scopes.symbols scope here get name symbol looked
  | outward => exact within _ scope symbol found

/-- The name of a written type stands for a registered type. -/
lemma known_namedType? (sound : Sound s) (scope : ScopeId) (written : TypeRef) :
    Known s (namedType? s scope written) := by
  unfold namedType?
  split
  · exact known_builtin? sound _
  · exact known_find? sound _ _ _

/-- Looking a written type up. -/
lemma lookUp_resolves (scope : ScopeId) (written : TypeRef) :
    Leads (lookUp scope written) s fun type t => Resolves s t ∧ (Sound s → Known t type) := by
  refine Leads.bind (Leads.get ?_)
  cases found : namedType? s scope written with
  | none => exact ⟨.refl s, fun _ => nofun⟩
  | some type =>
    show Leads (if written.array then do return some (← arrayOf type) else return some type) s
      fun type t => Resolves s t ∧ (Sound s → Known t type)
    have known : Sound s → Known s (some type) :=
      fun sound => found ▸ known_namedType? sound scope written
    split
    · refine Leads.bind ((arrayOf_resolves known).mono fun array t h => ?_)
      exact ⟨h.1, fun _ => h.2.2⟩
    · exact ⟨.refl s, known⟩

mutual

/-- Looking a written type and its type arguments up. -/
lemma resolve_resolves (scope : ScopeId) : ∀ (written : TypeRef) {s : State},
    Leads (resolve scope written) s fun type t => Resolves s t ∧ (Sound s → Known t type)
  | ⟨name, builtin, arguments, array, binding⟩, s => by
    rw [resolve]
    refine Leads.bind ((lookUp_resolves scope _).mono fun type t found => ?_)
    obtain ⟨first, known⟩ := found
    have rest : ∀ {u : State}, Resolves t u →
        Leads (do resolveAll scope arguments; return type) u fun type v =>
          Resolves s v ∧ (Sound s → Known v type) := by
      intro u second
      refine Leads.bind ((resolveAll_resolve scope arguments).mono fun _ v third => ?_)
      have others := second.trans third
      exact ⟨first.trans others, fun sound => (known sound).later others.later⟩
    split
    · exact Leads.bind ((report_resolves _ _).mono fun _ u second => rest second)
    · exact rest (.refl t)

lemma resolveAll_resolve (scope : ScopeId) : ∀ (list : List TypeRef) {s : State},
    Leads (resolveAll scope list) s fun _ t => Resolves s t
  | [], s => by
    rw [resolveAll]
    exact .pure (.refl s)
  | written :: rest, s => by
    rw [resolveAll]
    refine Leads.bind (.discard ((resolve_resolves scope written).mono fun _ t first => ?_))
    exact (resolveAll_resolve scope rest).mono fun _ u others => first.1.trans others

end

mutual

/-- Filling in the type arguments of a written type. -/
lemma bindArguments_resolve (scope : ScopeId) : ∀ (written : TypeRef) {s : State},
    Leads (bindArguments scope written) s fun _ t => Resolves s t
  | ⟨name, builtin, arguments, array, binding⟩, s => by
    rw [bindArguments]
    exact Leads.bind ((bindAll_resolve scope arguments).mono fun _ _ done => done)

lemma bindAll_resolve (scope : ScopeId) : ∀ (list : List TypeRef) {s : State},
    Leads (bindAll scope list) s fun _ t => Resolves s t
  | [], s => by
    rw [bindAll]
    exact .pure (.refl s)
  | written :: rest, s => by
    rw [bindAll]
    refine Leads.bind ((lookUp_resolves scope written).mono fun _ t first => ?_)
    refine Leads.bind ((bindArguments_resolve scope written).mono fun _ u second => ?_)
    refine Leads.bind ((bindAll_resolve scope rest).mono fun _ v third => ?_)
    exact (first.1.trans second).trans third

end

/-- The type of a declaration is found once and kept. -/
lemma declaredType_visits (node : NodeId) (scope : ScopeId) (written : TypeRef) :
    Leads (declaredType node scope written) s fun type t =>
      Visits [] s t ∧ (Sound s → Known t type) ∧ t.declaredTypes.lookup node = some type := by
  refine Leads.bind (Leads.get ?_)
  cases found : s.declaredTypes.lookup node with
  | some type => exact ⟨.refl s, fun sound => sound.declared node type found, found⟩
  | none =>
    refine Leads.bind ((resolve_resolves scope written).mono fun type t resolved => ?_)
    obtain ⟨resolved, known⟩ := resolved
    refine Leads.bind (Leads.changed ?_)
    have kept : ∀ other, ((node, type) :: t.declaredTypes).lookup other =
        if other = node then some type else s.declaredTypes.lookup other := by
      intro other
      rw [resolved.declaredTypes]
      by_cases e : other = node
      · simp [e]
      · simp [List.lookup_cons, e, beq_false_of_ne e]
    have later : Later s { t with declaredTypes := (node, type) :: t.declaredTypes } := by
      refine ⟨resolved.later.size, resolved.later.users, resolved.later.elements,
        resolved.later.arrays, fun other there old => ?_⟩
      refine (kept other).trans ((if_neg ?_).trans old)
      rintro rfl
      rw [found] at old
      cases old
    refine ⟨⟨⟨resolved.frame.active, resolved.frame.functionDepth, resolved.frame.returnTypes⟩,
      resolved.scopes, later, resolved.inferredTypes, fun sound => ?_⟩, known, ?_⟩
    · have sound' := resolved.sound sound
      refine ⟨sound'.builtins, sound'.scopes.same rfl rfl, fun other there old => ?_, sound'.inferred⟩
      have old := (kept other).symm.trans old
      split at old
      · obtain rfl := Option.some.inj old
        exact known sound
      · exact (sound.declared other there old).later later
    · exact (kept node).trans (if_pos rfl)

/-- Filling in the written type of a declaration. -/
lemma bindDeclared_visits (node : NodeId) (scope : ScopeId) (written : TypeRef) :
    Leads (bindDeclared node scope written) s fun bound t =>
      Visits [] s t ∧ (Sound s → Known t bound.2) := by
  refine Leads.bind ((declaredType_visits node scope written).mono fun type t first => ?_)
  obtain ⟨first, known, -⟩ := first
  refine Leads.bind ((bindArguments_resolve scope _).mono fun _ u second => ?_)
  exact ⟨first.trans second.toVisits, fun sound => (known sound).later second.later⟩

/-- Filling in the type arguments of a call keeps their number. -/
lemma bindTypeArgumentList_visits (scope : ScopeId) (written : List TypeRef) :
    Leads (bindTypeArgumentList scope written) s fun bound t =>
      Visits [] s t ∧ bound.length = written.length := by
  unfold bindTypeArgumentList
  induction written generalizing s with
  | nil => exact ⟨.refl s, rfl⟩
  | cons first rest ih =>
    rw [List.mapM_cons]
    refine Leads.bind (Leads.bind ((resolve_resolves scope first).mono fun type t resolved => ?_))
    refine (bindArguments_resolve scope _).mono fun bound u filled => ?_
    refine Leads.bind (ih.mono fun others v visited => ?_)
    have upto := (resolved.1.trans filled).toVisits
    exact ⟨upto.trans visited.1, congrArg Nat.succ visited.2⟩

end ArrowScript.Analysis
