import ArrowScript.Proofs.Analysis.AccountingNames
import ArrowScript.Proofs.Analysis.Hindsight
import ArrowScript.Proofs.Analysis.Registered

/-!
# Names in hindsight

A place in the analyzed program shows a setting of the account (`Hindsight.Shows`) when what can be seen from
there, what is known of variables and what is ascribed are the same. Then names that are looked up again are
found as they were judged, and what they are bound to has the type that was judged.
-/

namespace ArrowScript
open Analysis

variable {origins : List Origin} {table : ScopeTable} {facts : Facts} {code : Shape → TypeId} {layer : Layer}
  {state : State} {scope : ScopeId} {setting : Setting} {registry : TypeRegistry}

namespace Analysis

/-! ## Registered types -/

/-- The array type over a type is found, if it is registered. -/
lemma Shaped.array?_eq_some {type element : TypeId} {form : Shape} (shaped : Shaped origins registry element form)
    (grown : Grown origins registry) (array : Shaped origins registry type form.array) :
    registry.array? element = some type := by
  cases found : registry.array? element with
  | some other => rw [(Shaped.array (element?_of_array? found) shaped).injective grown array]
  | none =>
    generalize e : form.array = whole at array
    cases array with
    | origin => cases e
    | array there inner =>
      obtain rfl := Shape.array_injective e
      rw [inner.injective grown shaped] at there
      exact absurd there (element?_of_no_array? found)

/-- A shape with a recorded type has that type. -/
lemma Coded.typed (coded : Coded origins registry code) (injective : Function.Injective code)
    (grown : Grown origins registry) {shape : Option Shape}
    (stays : (shape.map code).map registry.clip = shape.map code) :
    Typed origins registry (shape.map code) shape := by
  cases shape with
  | none => exact .none
  | some form =>
    refine .some (coded.shaped injective grown ?_)
    rw [← Option.some.inj stays]
    exact grown.known_clip _

end Analysis

/-! ## Written types -/

section
variable (code layer)

/-- There are as many type arguments when they are filled in. -/
lemma length_typesFilled (list : List TypeRef) : (typesFilled code layer list).length = list.length := by
  induction list with
  | nil => rfl
  | cons written rest ih => rw [typesFilled, List.length_cons, List.length_cons, ih]

/-- Type arguments are filled in one by one. -/
lemma typesFilled_eq_map (list : List TypeRef) :
    typesFilled code layer list = list.map (TypeRef.bound code layer) := by
  induction list with
  | nil => rfl
  | cons written rest ih =>
    obtain ⟨name, builtin, arguments, array, binding⟩ := written
    rw [typesFilled, List.map_cons, ih, TypeRef.bound, TypeRef.filled, TypeRef.filled]

end

/-- A written type is looked up by its name and the number of its type arguments, filled in or not. -/
lemma lookUp_filled (name : Span) (builtin array : Bool) (arguments : List TypeRef)
    (first second : Option TypeId) :
    lookUp scope ⟨name, builtin, typesFilled code layer arguments, array, first⟩ state =
      lookUp scope ⟨name, builtin, arguments, array, second⟩ state := by
  unfold lookUp namedType? TypeRef.mangledName
  rw [length_typesFilled]

/-- Looking a written type up once more gives the type that it stands for and nothing new, if that type is
registered. -/
def FoundAgain (code : Shape → TypeId) (layer : Layer) (state : State) (scope : ScopeId) : Prop :=
  ∀ written : TypeRef,
    ((layer.shape? written).map code).map state.types.clip = (layer.shape? written).map code →
      lookUp scope written state = ((layer.shape? written).map code, state)

/-- Written types are found again in the end. -/
lemma foundAgain (tracks : Tracks facts origins table state) (views : Views origins table (some scope) layer)
    (coded : Coded origins state.types code) (injective : Function.Injective code) :
    FoundAgain code layer state scope := by
  intro written stays
  have typed := coded.typed injective tracks.grown stays
  have seen := namedType?_rel tracks views written
  unfold Layer.shape? at typed ⊢
  suffices leads : Leads (lookUp scope written) state fun type t => (type, t) = (_, state) from leads
  refine Leads.bind (Leads.get ?_)
  generalize namedType? state scope written = named? at seen
  generalize layer.origin? written = origin? at seen typed
  cases seen with
  | none => rfl
  | @some type origin listed =>
    have shaped : Shaped origins state.types type ⟨origin, 0⟩ := .origin listed
    cases array : written.array with
    | false => exact congrArg (some · , state) (coded _ _ shaped).symm
    | true =>
      rw [array] at typed
      cases typed with
      | some whole =>
        have found := shaped.array?_eq_some tracks.grown whole
        show (some (state.types.arrayOf type).1, { state with types := (state.types.arrayOf type).2 }) = _
        rw [TypeRegistry.arrayOf, found]
        rfl

mutual

/-- A written type that is filled in with registered types is resolved. -/
lemma TypeRef.resolved_bound (again : FoundAgain code layer state scope) : ∀ written : TypeRef,
    (written.bound code layer).rename state.types.clip = written.bound code layer →
      (written.bound code layer).Resolved state scope
  | ⟨name, builtin, arguments, array, binding⟩, stays => by
    rw [TypeRef.bound, TypeRef.filled] at stays ⊢
    rw [TypeRef.rename] at stays
    obtain ⟨-, -, inner, -, own⟩ := TypeRef.mk.inj stays
    rw [TypeRef.Resolved]
    refine ⟨?_, typesFilled_resolved again arguments inner⟩
    rw [lookUp_filled name builtin array arguments _ binding]
    exact again _ own

lemma typesFilled_resolved (again : FoundAgain code layer state scope) : ∀ list : List TypeRef,
    typesRename state.types.clip (typesFilled code layer list) = typesFilled code layer list →
      typesResolved state scope (typesFilled code layer list)
  | [], _ => trivial
  | written :: rest, stays => by
    rw [typesFilled_eq_map, List.map_cons, ← typesFilled_eq_map, typesRename] at stays
    obtain ⟨own, others⟩ := List.cons.inj stays
    rw [typesFilled_eq_map, List.map_cons, ← typesFilled_eq_map, typesResolved]
    exact ⟨written.resolved_bound again own, typesFilled_resolved again rest others⟩

end

section
variable (registry)

mutual

/-- The names in a written type that are bound to nothing are those that are reported as unknown. -/
lemma TypeRef.unresolved_bound : ∀ written : TypeRef,
    (written.bound code layer).unresolved = (written.unknown layer).filterMap (unfound? registry)
  | ⟨name, builtin, arguments, array, binding⟩ => by
    rw [TypeRef.bound, TypeRef.filled, TypeRef.unresolved, TypeRef.unknown, List.filterMap_append,
      typesUnresolved_filled]
    cases layer.shape? ⟨name, builtin, arguments, array, binding⟩ <;> rfl

lemma typesUnresolved_filled : ∀ list : List TypeRef,
    typesUnresolved (typesFilled code layer list) = (unknownNames layer list).filterMap (unfound? registry)
  | [] => rfl
  | written :: rest => by
    rw [typesFilled_eq_map, List.map_cons, ← typesFilled_eq_map, typesUnresolved, unknownNames,
      List.filterMap_append, TypeRef.unresolved_bound, typesUnresolved_filled]

end

end

namespace Analysis

/-! ## Places -/

/-- The same setting outside of functions. -/
def Setting.outside (setting : Setting) : Setting :=
  { setting with returned := none, nested := false }

/-- The variables and functions of a layer have ascriptions, and the types in these are found. -/
def Layer.Noted (origins : List Origin) (registry : TypeRegistry) (ascriptions : List (NodeId × Option TypeRef))
    (facts : Facts) (layer : Layer) : Prop :=
  ∀ key entry, layer.variableOf key = some entry ∨ layer.functionOf key = some entry →
    ∃ written, ascriptions.lookup entry.node = some written ∧ written.isSome = entry.typed ∧
      ∀ type ∈ written, Typed origins registry type.binding (facts.declared entry.node)

/-- What is shown from a place, in a scope if there is any, is a setting. -/
structure Hindsight.Shows (origins : List Origin) (table : ScopeTable) (setting : Setting)
    (outer : Option ScopeId) (view : Hindsight) : Prop where
  located : Located origins table setting.outside view.state outer
  coded : Coded origins view.state.types setting.code
  injective : Function.Injective setting.code
  around : setting.around.Noted origins view.state.types view.ascriptions setting.facts
  members : ∀ node layer, setting.facts.members node = some layer →
    layer.Noted origins view.state.types view.ascriptions setting.facts

/-- A type stands for a shape, or it is the type for an array that may not be registered, as behind `new` with an
index. -/
inductive Owned (origins : List Origin) (registry : TypeRegistry) : Option TypeId → Option Shape → Prop
  | typed {owner : Option TypeId} {shape : Option Shape} :
    Typed origins registry owner shape → Owned origins registry owner shape
  | array {element : TypeId} {form : Shape} :
    Shaped origins registry element form →
      Owned origins registry (some (registry.arrayOf element).1) (some form.array)

section
variable {element : TypeId} {form : Shape} (shaped : Shaped origins registry element form)
  (grown : Grown origins registry)
include shaped grown

/-- An array that is not registered gets a handle without an entry. -/
lemma array_registered_or_unknown : Shaped origins registry (registry.arrayOf element).1 form.array ∨
    registry.info? (registry.arrayOf element).1 = none ∧
      ∀ type, Shaped origins registry type form.array → False := by
  unfold TypeRegistry.arrayOf
  cases found : registry.array? element with
  | some array => exact .inl (.array (element?_of_array? found) shaped)
  | none =>
    refine .inr ⟨Array.getElem?_eq_none (Nat.le_refl _), fun type array => ?_⟩
    cases found.symm.trans (shaped.array?_eq_some grown array)

/-- An array has no members. -/
lemma memberless_array : registry.userNode? (registry.arrayOf element).1 = none ∧ form.array.userNode? = none := by
  have memberless : form.array.userNode? = none := by
    obtain ⟨origin, depth⟩ := form
    cases origin <;> rfl
  refine ⟨?_, memberless⟩
  rcases array_registered_or_unknown shaped grown with registered | ⟨unknown, -⟩
  · exact (registered.userNode? grown).trans memberless
  · rw [TypeRegistry.userNode?, TypeRegistry.kind?, unknown]
    rfl

end

/-- The type that a name is looked up in has the name of the shape, whether or not it is registered. -/
lemma Owned.name_eq {owner : Option TypeId} {shape : Option Shape} (owned : Owned origins registry owner shape)
    (coded : Coded origins registry code) (injective : Function.Injective code) (grown : Grown origins registry) :
    owner.map registry.name = (shape.map code).map registry.name := by
  cases owned with
  | typed typed => rw [typed.coded coded]
  | @array element form shaped =>
    rcases array_registered_or_unknown shaped grown with registered | ⟨unknown, unshaped⟩
    · rw [Option.map_some, Option.map_some, Option.map_some, coded _ _ registered]
    · -- Neither handle is known, and so both names are the mark for that.
      have unknown' : registry.info? (code form.array) = none :=
        Array.getElem?_eq_none (Nat.not_lt.mp fun known => unshaped _ (coded.shaped injective grown known))
      rw [Option.map_some, Option.map_some, Option.map_some, TypeRegistry.name, TypeRegistry.name, unknown, unknown']

/-! ## Judged names -/

section
variable (setting) (owner : Option Shape) (identifier : Identifier)

/-- A variable is bound to what is seen under its name. -/
lemma Setting.judgeVariable_node (unbound : identifier.binding = none) :
    (setting.judgeVariable owner identifier).node = { identifier with
      binding := ((setting.seen owner).bind (·.variableOf identifier.name)).map
        fun entry => .variable entry.node } := by
  unfold judgeVariable
  split
  · next found => rw [found]; rfl
  · next found => rw [found, Option.map_none, ← unbound]

/-- A called function is bound to what is seen under its name and number of type parameters. -/
lemma Setting.judgeFunction_node (unbound : identifier.binding = none) (arity : Nat)
    (arguments : List (Option Shape × Span)) :
    (setting.judgeFunction owner arity arguments identifier).node = { identifier with
      binding := ((setting.seen owner).bind (·.functionOf (mangle identifier.name arity))).map
        fun entry => .function entry.node } := by
  unfold judgeFunction
  split
  · next found => rw [found]; rfl
  · next found => rw [found, Option.map_none, ← unbound]

end

/-! ## Reported names -/

/-- A mismatch is reported otherwise. -/
lemma unfound_mismatch (setting : Setting) {problem : TypeId → TypeId → SemanticProblem}
    (other : ∀ expected found span, unfound? registry ⟨problem expected found, span⟩ = none)
    (expected found : Option Shape) (span : Span) :
    (setting.mismatch problem expected found span).filterMap (unfound? registry) = [] := by
  unfold Setting.mismatch
  split
  · split
    · rfl
    · rw [List.filterMap_cons, other]
      rfl
  · rfl

/-- Problems of arguments are reported otherwise. -/
lemma unfound_argumentProblems (setting : Setting) (identifier : Identifier) (parameters : List NodeId)
    (arguments : List (Option Shape × Span)) :
    (setting.argumentProblems identifier parameters arguments).filterMap (unfound? registry) = [] := by
  have mismatches : ∀ position, (setting.argumentMismatches identifier.name position parameters
      arguments).filterMap (unfound? registry) = [] := by
    induction parameters generalizing arguments with
    | nil =>
      intro position
      rw [Setting.argumentMismatches]
      · rfl
      · simp
    | cons parameter rest ih =>
      intro position
      cases arguments with
      | nil =>
        rw [Setting.argumentMismatches]
        · rfl
        · simp
      | cons argument others =>
        obtain ⟨found, span⟩ := argument
        rw [Setting.argumentMismatches, List.filterMap_append, ih others, unfound_mismatch]
        · rfl
        · exact fun _ _ _ => rfl
  unfold Setting.argumentProblems
  rw [List.filterMap_append, mismatches]
  split <;> rfl

/-- A variable is reported if it is bound to nothing. -/
lemma unfound_judgeVariable (owner : Option Shape) {identifier : Identifier} (unbound : identifier.binding = none)
    {link : Link} (named : link.identifier = (setting.judgeVariable owner identifier).node) :
    (setting.judgeVariable owner identifier).problems.filterMap (unfound? registry) =
      link.lost .variable ((owner.map setting.code).map registry.name) := by
  unfold Link.lost Link.isBound
  rw [named]
  unfold Setting.judgeVariable
  split
  · rfl
  · rw [unbound]
    cases owner <;> rfl

/-- A called function is reported if it is bound to nothing. -/
lemma unfound_judgeFunction (owner : Option Shape) (arity : Nat) (arguments : List (Option Shape × Span))
    {identifier : Identifier} (unbound : identifier.binding = none) {link : Link}
    (named : link.identifier = (setting.judgeFunction owner arity arguments identifier).node) :
    (setting.judgeFunction owner arity arguments identifier).problems.filterMap (unfound? registry) =
      link.lost .function ((owner.map setting.code).map registry.name) := by
  unfold Link.lost Link.isBound
  rw [named]
  unfold Setting.judgeFunction
  split
  · exact unfound_argumentProblems ..
  · rw [unbound]
    cases owner <;> rfl

/-- The name of a new value is reported if it is bound to nothing. -/
lemma unfound_judgeConstructed (arity : Nat) {identifier : Identifier} (unbound : identifier.binding = none)
    {link : Link} (named : link.identifier = (setting.judgeConstructed arity identifier).node) :
    (setting.judgeConstructed arity identifier).problems.filterMap (unfound? registry) = link.lost .type none := by
  unfold Link.lost Link.isBound
  rw [named]
  unfold Setting.judgeConstructed
  split
  · rfl
  · rw [unbound]
    rfl

/-! ## Names that are looked up again -/

/-- A name is looked up without fault behind something that a type is known for. -/
lemma exists_findMember {σ : Type} [Symbol σ] {outer : ScopeId}
    (located : Located origins table setting state (some outer)) {owner : Option TypeId} {shape : Option Shape}
    (typed : Typed origins state.types owner shape) (key : String) :
    ∃ symbol? : Option σ, findMember owner key state = .ok symbol? := by
  unfold findMember
  cases typed with
  | none =>
    rw [memberScope, scope_of_head? located.innermost]
    exact ⟨_, rfl⟩
  | @some type form shaped =>
    have user := shaped.userNode? located.tracks.grown
    cases found : form.userNode? with
    | none =>
      rw [memberScope, user, found]
      exact ⟨_, rfl⟩
    | some node =>
      obtain ⟨name, rfl⟩ : ∃ name, form = ⟨.user node name, 0⟩ := by
        unfold Shape.userNode? at found
        split at found <;> cases found
        exact ⟨_, rfl⟩
      obtain ⟨own, there, layer, closed, -⟩ :=
        located.surveyed.members node name (List.mem_of_getElem? shaped.listed)
      rw [memberScope, user, found]
      simp only [ScopeTable.reopen, located.tracks.scopes, closed]
      exact ⟨_, rfl⟩

/-- Nothing is found behind something without members. -/
lemma findMember_memberless {σ : Type} [Symbol σ] {type : TypeId} (memberless : state.types.userNode? type = none)
    (key : String) : findMember (some type) key state = .ok (none : Option σ) := by
  unfold findMember
  rw [memberScope, memberless]
  rfl

namespace Hindsight.Shows

variable {outer : Option ScopeId} {view : Hindsight}

/-- What can be seen from a place is noted. -/
lemma noted (shows : view.Shows origins table setting outer) {owner : Option Shape} {layer : Layer}
    (seen : setting.seen owner = some layer) :
    layer.Noted origins view.state.types view.ascriptions setting.facts := by
  cases owner with
  | none =>
    obtain rfl := Option.some.inj seen
    exact shows.around
  | some owner =>
    obtain ⟨node, -, members⟩ := Option.bind_eq_some_iff.mp seen
    exact shows.members node layer members

/-- A variable that can be seen has the type that was judged. -/
lemma typeOf_variable (shows : view.Shows origins table setting outer) {owner : Option Shape} {key : String}
    {entry : Entry} (found : (setting.seen owner).bind (·.variableOf key) = some entry) :
    Typed origins view.state.types (view.typeOf (.variable entry.node)) (setting.typeOfVariable entry) := by
  obtain ⟨layer, seen, found⟩ := Option.bind_eq_some_iff.mp found
  obtain ⟨written, ascribed, typed, types⟩ := shows.noted seen key entry (.inl found)
  rw [Hindsight.typeOf, ascribed, Option.bind_some, Setting.typeOfVariable, ← typed]
  cases written with
  | none => exact shows.located.known entry.node
  | some written => exact types written rfl

/-- A function that can be seen returns the type that was judged. -/
lemma typeOf_function (shows : view.Shows origins table setting outer) {owner : Option Shape} {key : String}
    {entry : Entry} (found : (setting.seen owner).bind (·.functionOf key) = some entry) :
    Typed origins view.state.types (view.typeOf (.function entry.node)) (setting.typeOfCall entry) := by
  obtain ⟨layer, seen, found⟩ := Option.bind_eq_some_iff.mp found
  obtain ⟨written, ascribed, typed, types⟩ := shows.noted seen key entry (.inr found)
  rw [Hindsight.typeOf, ascribed, Option.bind_some, Setting.typeOfCall, ← typed]
  cases written with
  | none => exact .some (shows.located.tracks.grown.shaped_builtin (by decide))
  | some written => exact types written rfl

section
variable (shows : view.Shows origins table setting outer) (owner : Option Shape) {identifier : Identifier}
  (unbound : identifier.binding = none) {link : Link}

include shows unbound

/-- What the name of a variable is bound to has the type that was judged. -/
lemma boundType_variable (named : link.identifier = (setting.judgeVariable owner identifier).node) :
    Typed origins view.state.types (link.boundType view) (setting.judgeVariable owner identifier).shape := by
  rw [Link.boundType, named]
  unfold Setting.judgeVariable
  split
  · next entry found => exact shows.typeOf_variable found
  · rw [unbound]
    exact .none

/-- What the name of a called function is bound to has the type that was judged. -/
lemma boundType_function (arity : Nat) (arguments : List (Option Shape × Span))
    (named : link.identifier = (setting.judgeFunction owner arity arguments identifier).node) :
    Typed origins view.state.types (link.boundType view)
      (setting.judgeFunction owner arity arguments identifier).shape := by
  rw [Link.boundType, named]
  unfold Setting.judgeFunction
  split
  · next entry found => exact shows.typeOf_function found
  · rw [unbound]
    exact .none

end

section
variable {own : ScopeId} (shows : view.Shows origins table setting (some own)) {shape : Option Shape}
  {owner : Option TypeId} (owned : Owned origins view.state.types owner shape)

include shows owned

/-- A name is found again as it was seen, behind something that may have no members. -/
lemma found_again {σ : Type} [Symbol σ] {r : σ → Entry → Prop} {field : Layer → Option Entry} {key : String}
    (seen : Typed origins view.state.types owner shape → ∀ symbol? : Option σ,
      findMember owner key view.state = .ok symbol? → Option.Rel r symbol? ((setting.seen shape).bind field)) :
    ∃ symbol? : Option σ, findMember owner key view.state = .ok symbol? ∧
      Option.Rel r symbol? ((setting.seen shape).bind field) := by
  cases owned with
  | typed typed =>
    obtain ⟨symbol?, answer⟩ := exists_findMember (σ := σ) shows.located typed key
    exact ⟨symbol?, answer, seen typed symbol? answer⟩
  | array shaped =>
    obtain ⟨memberless, memberless'⟩ := memberless_array shaped shows.located.tracks.grown
    refine ⟨none, findMember_memberless memberless key, ?_⟩
    rw [Setting.seen, memberless']
    exact .none

variable {identifier : Identifier} (unbound : identifier.binding = none) {link : Link}

include unbound

/-- The name of a variable is bound to what is found again. -/
lemma sought_variable (uncalled : link.isCall = false)
    (named : link.identifier = (setting.judgeVariable shape identifier).node) :
    link.sought owner view.state = .ok link.identifier.binding := by
  obtain ⟨symbol?, answer, seen⟩ := shows.found_again owned fun typed _ answer =>
    (findVariable_rel shows.located typed answer).1
  have name : link.identifier.name = identifier.name := by
    rw [named, setting.judgeVariable_node shape identifier unbound]
    rfl
  rw [Link.sought, uncalled, if_neg Bool.false_ne_true, name, answer, named,
    setting.judgeVariable_node shape identifier unbound]
  generalize (setting.seen shape).bind (·.variableOf identifier.name) = entry? at seen
  cases seen with
  | none => rfl
  | some same => rw [← same]; rfl

/-- The name of a called function is bound to what is found again. -/
lemma sought_function (called : link.isCall = true) {arity : Nat} (counted : link.arity = arity)
    {arguments : List (Option Shape × Span)}
    (named : link.identifier = (setting.judgeFunction shape arity arguments identifier).node) :
    link.sought owner view.state = .ok link.identifier.binding := by
  obtain ⟨symbol?, answer, seen⟩ := shows.found_again owned fun typed _ answer =>
    (findFunction_rel shows.located typed answer).1
  have name : link.identifier.name = identifier.name := by
    rw [named, setting.judgeFunction_node shape identifier unbound]
    rfl
  rw [Link.sought, called, if_pos rfl, name, counted, answer, named,
    setting.judgeFunction_node shape identifier unbound]
  generalize (setting.seen shape).bind (·.functionOf (mangle identifier.name arity)) = entry? at seen
  cases seen with
  | none => rfl
  | some same => rw [← same]; rfl

/-- A variable is reported as it is missing behind the type that is found for it. -/
lemma lost_variable (named : link.identifier = (setting.judgeVariable shape identifier).node) :
    (setting.judgeVariable shape identifier).problems.filterMap (unfound? view.state.types) =
      link.lost .variable (owner.map view.state.types.name) := by
  rw [owned.name_eq shows.coded shows.injective shows.located.tracks.grown]
  exact unfound_judgeVariable shape unbound named

/-- A called function is reported as it is missing behind the type that is found for it. -/
lemma lost_function (arity : Nat) (arguments : List (Option Shape × Span))
    (named : link.identifier = (setting.judgeFunction shape arity arguments identifier).node) :
    (setting.judgeFunction shape arity arguments identifier).problems.filterMap (unfound? view.state.types) =
      link.lost .function (owner.map view.state.types.name) := by
  rw [owned.name_eq shows.coded shows.injective shows.located.tracks.grown]
  exact unfound_judgeFunction shape arity arguments unbound named

end

/-- What the name of a new value is bound to is the type that was judged. -/
lemma boundType_constructed {own : ScopeId} (shows : view.Shows origins table setting (some own))
    {identifier : Identifier} (unbound : identifier.binding = none) {link : Link} (arity : Nat)
    (named : link.identifier = (setting.judgeConstructed arity identifier).node) :
    Typed origins view.state.types (link.boundType view) (setting.judgeConstructed arity identifier).shape := by
  have seen := constructedType?_rel shows.located identifier.name arity
  rw [Link.boundType, named]
  unfold Setting.judgeConstructed
  change Option.Rel _ _ (setting.constructed? identifier.name arity) at seen
  generalize constructedType? view.state own identifier.name arity = type? at seen
  generalize setting.constructed? identifier.name arity = origin? at seen
  cases seen with
  | none =>
    rw [unbound]
    exact .none
  | some listed =>
    refine .some ?_
    rw [shows.coded _ _ (.origin listed)]
    exact .origin listed

/-- Type arguments of a call that are filled in with registered types are resolved. -/
lemma resolved_typeArguments {own : ScopeId} (shows : view.Shows origins table setting (some own))
    (list : List TypeRef)
    (stays : typesRename view.state.types.clip (list.map (TypeRef.bound setting.code setting.around)) =
      list.map (TypeRef.bound setting.code setting.around)) :
    ∃ scope, view.state.scope = .ok scope ∧
      typesResolved view.state scope (list.map (TypeRef.bound setting.code setting.around)) := by
  rw [← typesFilled_eq_map] at stays ⊢
  exact ⟨own, scope_of_head? shows.located.innermost, typesFilled_resolved
    (foundAgain shows.located.tracks shows.located.views shows.coded shows.injective) list stays⟩

end Hindsight.Shows

end Analysis

end ArrowScript
