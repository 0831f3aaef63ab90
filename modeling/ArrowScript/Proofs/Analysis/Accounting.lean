import ArrowScript.Proofs.Analysis.Survey
import ArrowScript.Analysis.Statement

/-!
# Written types by the account

In a state that is in line with what was collected (`Tracks`), finding types follows the account: types stand
for the shapes that are judged, parts are filled in as judged once shapes are coded by the handles that stand
for them, and the findings are the problems of the account with, for every declaration whose type was asked
for the first time, the unknown names in it (`Follows`, `Judges`).
-/

namespace ArrowScript.Analysis

variable {origins : List Origin} {table : ScopeTable} {facts : Facts} {code : Shape → TypeId}
  {s t u : State} {registry later : TypeRegistry} {type : Option TypeId} {shape : Option Shape}

/-! ## Handles and codes -/

/-- A handle stands for a shape, if there is any. -/
abbrev Typed (origins : List Origin) (registry : TypeRegistry) (type : Option TypeId)
    (shape : Option Shape) : Prop :=
  Option.Rel (Shaped origins registry) type shape

/-- Shapes are coded by the handles that stand for them. -/
def Coded (origins : List Origin) (registry : TypeRegistry) (code : Shape → TypeId) : Prop :=
  ∀ type shape, Shaped origins registry type shape → code shape = type

/-- What codes all handles codes those that were known before. -/
lemma Coded.before (coded : Coded origins later code) (keeps : Keeps origins registry later) :
    Coded origins registry code :=
  fun type shape shaped => coded type shape (keeps type shape shaped)

namespace Typed

/-- Handles keep their shapes. -/
lemma keeps (h : Typed origins registry type shape) (keeps : Keeps origins registry later) :
    Typed origins later type shape := by
  cases h with
  | none => exact .none
  | some shaped => exact .some (keeps _ _ shaped)

/-- Handles are the codes of their shapes. -/
lemma coded (h : Typed origins registry type shape) (coded : Coded origins registry code) :
    type = shape.map code := by
  cases h with
  | none => rfl
  | some shaped => exact congrArg some (coded _ _ shaped).symm

/-- Taking elements takes elements of the shape. -/
lemma element (h : Typed origins registry type shape) (grown : Grown origins registry) :
    Typed origins registry (type.map fun type => (registry.element? type).getD type)
      (shape.map Shape.element) := by
  cases h with
  | none => exact .none
  | some shaped => exact .some (shaped.elements grown)

end Typed

/-! ## States in line with what was collected -/

/-- The types that a state has found so far are those of the facts. -/
structure Tracks (facts : Facts) (origins : List Origin) (table : ScopeTable) (s : State) : Prop where
  scopes : s.scopes = table
  grown : Grown origins s.types
  declared : ∀ node type, s.declaredTypes.lookup node = some type →
    Typed origins s.types type (facts.declared node)
  nodup : (s.declaredTypes.map Prod.fst).Nodup
  defined : ∀ node name, .user node name ∈ origins →
    ∃ type : TypeId, s.definedTypes.lookup node = some type ∧ origins[type.index]? = some (.user node name)

/-- Some variables got the types of some shapes. -/
def Infers (origins : List Origin) (registry : TypeRegistry) (before after : List (NodeId × TypeId))
    (inferred : List (NodeId × Shape)) : Prop :=
  ∃ added, after = added ++ before ∧
    List.Forall₂ (fun found known => found.1 = known.1 ∧ Shaped origins registry found.2 known.2) added inferred

/-- What was found on the way from a state to another is what the account has: some problems, and the unknown
names of the declarations whose types were found on the way. -/
def Notes (facts : Facts) (s t : State) (problems : List (Finding SemanticProblem)) : Prop :=
  ∃ fresh : List NodeId, t.declaredTypes.map Prod.fst = fresh ++ s.declaredTypes.map Prod.fst ∧
    t.found = s.found + ↑problems + ↑(fresh.flatMap facts.unknown)

/-- Visiting goes on as the account says. -/
structure Follows (facts : Facts) (origins : List Origin) (table : ScopeTable) (code : Shape → TypeId)
    (s t : State) (problems : List (Finding SemanticProblem)) (inferred : List (NodeId × Shape)) : Prop where
  tracks : Tracks facts origins table t
  frame : SameFrame s t
  keeps : Keeps origins s.types t.types
  inferredTypes : Infers origins t.types s.inferredTypes t.inferredTypes inferred
  notes : Coded origins t.types code → Notes facts s t problems

namespace Follows

variable {problems more : List (Finding SemanticProblem)} {inferred added : List (NodeId × Shape)}

/-- Nothing happened. -/
lemma refl (tracks : Tracks facts origins table s) : Follows facts origins table code s s [] [] where
  tracks := tracks
  frame := .refl s
  keeps := .refl _ _
  inferredTypes := ⟨[], rfl, .nil⟩
  notes := fun _ => ⟨[], rfl, by simp⟩

/-- One thing happened after the other. -/
lemma trans (h : Follows facts origins table code s t problems inferred)
    (g : Follows facts origins table code t u more added) :
    Follows facts origins table code s u (problems ++ more) (added ++ inferred) where
  tracks := g.tracks
  frame := h.frame.trans g.frame
  keeps := h.keeps.trans g.keeps
  inferredTypes := by
    obtain ⟨first, e, infers⟩ := h.inferredTypes
    obtain ⟨second, e', infers'⟩ := g.inferredTypes
    refine ⟨second ++ first, by rw [e', e, List.append_assoc], List.rel_append infers' ?_⟩
    exact infers.imp fun _ _ same => ⟨same.1, g.keeps _ _ same.2⟩
  notes := fun coded => by
    obtain ⟨first, e, notes⟩ := h.notes (coded.before g.keeps)
    obtain ⟨second, e', notes'⟩ := g.notes coded
    refine ⟨second ++ first, by rw [e', e, List.append_assoc], ?_⟩
    rw [notes', notes, List.flatMap_append, ← Multiset.coe_add, ← Multiset.coe_add]
    abel

/-- The same in other words. -/
lemma cast (h : Follows facts origins table code s t problems inferred)
    (same : Coded origins t.types code → problems = more) (e : inferred = added) :
    Follows facts origins table code s t more added :=
  { h with
    inferredTypes := e ▸ h.inferredTypes
    notes := fun coded => same coded ▸ h.notes coded }

end Follows

/-- A part was visited as the account judges it: it has a type of the shape, and what is to be shown of it
holds when shapes are coded by handles. -/
structure Judges (facts : Facts) (origins : List Origin) (table : ScopeTable) (code : Shape → TypeId)
    (s t : State) (type : Option TypeId) (shape : Option Shape) (problems : List (Finding SemanticProblem))
    (same : Prop) : Prop where
  follows : Follows facts origins table code s t problems []
  typed : Typed origins t.types type shape
  same : Coded origins t.types code → same

section
variable (code)

/-! ## Reports and arrays -/

/-- Reporting a problem. -/
lemma report_follows (tracks : Tracks facts origins table s) (problem : SemanticProblem) (span : Span) :
    Leads (report problem span) s fun _ t => t.types = s.types ∧ t.declaredTypes = s.declaredTypes ∧
      Follows facts origins table code s t [⟨problem, span⟩] [] := by
  refine ⟨rfl, rfl, ⟨tracks.scopes, tracks.grown, tracks.declared, tracks.nodup, tracks.defined⟩, ⟨rfl, rfl, rfl⟩, .refl _ _,
    ⟨[], rfl, .nil⟩, fun _ => ⟨[], rfl, ?_⟩⟩
  show (↑(s.findings.push ⟨problem, span⟩).toList : Multiset (Finding SemanticProblem)) = _
  rw [Array.toList_push, ← Multiset.coe_add]
  simp [State.found]

/-- Asking for an array type. -/
lemma arrayOf_follows (tracks : Tracks facts origins table s) {element : TypeId} {shape : Shape}
    (shaped : Shaped origins s.types element shape) :
    Leads (arrayOf element) s fun array t => Follows facts origins table code s t [] [] ∧
      Shaped origins t.types array shape.array := by
  obtain ⟨grown, keeps, array⟩ := tracks.grown.arrayOf shaped
  have tracks' : Tracks facts origins table (arrayOf element s).2 :=
    ⟨tracks.scopes, grown, fun node type found => (tracks.declared node type found).keeps keeps, tracks.nodup,
      tracks.defined⟩
  refine ⟨⟨tracks', ⟨rfl, rfl, rfl⟩, keeps, ⟨[], rfl, .nil⟩, fun _ => ⟨[], rfl, ?_⟩⟩, array⟩
  show s.found = _
  simp

/-! ## Written types -/

/-- What stands for a declared type is listed for it. -/
lemma Shaped.listed {type : TypeId} {origin : Origin} (shaped : Shaped origins registry type ⟨origin, 0⟩) :
    origins[type.index]? = some origin := by
  generalize e : (⟨origin, 0⟩ : Shape) = shape at shaped
  cases shaped with
  | origin found =>
    cases e
    exact found
  | array => exact absurd (congrArg Shape.depth e).symm (Nat.succ_ne_zero _)

/-- Built-in types have the first handles. -/
lemma small_of_builtin? {name : String} {type : TypeId} (found : TypeRegistry.builtin? name = some type) :
    type.index < 6 := by
  obtain ⟨first, rest, e, -⟩ := List.lookup_eq_some_iff.mp found
  have mem : (name, type) ∈ TypeRegistry.builtins := by simp [e]
  have small : ∀ entry ∈ TypeRegistry.builtins, entry.2.index < 6 := by decide
  exact small _ mem

/-- The name of a written type is looked up as the layer shows. -/
lemma namedType?_rel (tracks : Tracks facts origins table s) {scope : ScopeId} {layer : Layer}
    (views : Views origins table (some scope) layer) (written : TypeRef) :
    Option.Rel (fun type origin => origins[TypeId.index type]? = some origin) (namedType? s scope written)
      (layer.origin? written) := by
  unfold namedType? Layer.origin?
  split
  · cases found : TypeRegistry.builtin? written.name.content with
    | none => exact .none
    | some type => exact .some (tracks.grown.shaped_builtin (small_of_builtin? found)).listed
  · rw [tracks.scopes]
    have seen := views.findsType written.mangledName
    generalize (table.find? scope written.mangledName .outward : Option TypeSymbol) = symbol? at seen
    generalize layer.originOf written.mangledName = origin? at seen
    cases seen with
    | none => exact .none
    | some names => exact .some names

/-- A written type is looked up as the layer shows. -/
lemma lookUp_judges (tracks : Tracks facts origins table s) {scope : ScopeId} {layer : Layer}
    (views : Views origins table (some scope) layer) (written : TypeRef) :
    Leads (lookUp scope written) s fun type t => t.declaredTypes = s.declaredTypes ∧
      Judges facts origins table code s t type (layer.shape? written) [] True := by
  refine Leads.bind (Leads.get ?_)
  have seen := namedType?_rel tracks views written
  unfold Layer.shape?
  generalize namedType? s scope written = named? at seen
  generalize layer.origin? written = origin? at seen
  cases seen with
  | none => exact ⟨rfl, .refl tracks, .none, fun _ => trivial⟩
  | @some type origin listed =>
    show Leads (if written.array then do return some (← arrayOf type) else return some type) s _
    have shaped : Shaped origins s.types type ⟨origin, 0⟩ := .origin listed
    cases written.array with
    | true =>
      obtain ⟨follows, array⟩ := arrayOf_follows code tracks shaped
      exact ⟨rfl, follows, .some array, fun _ => trivial⟩
    | false => exact ⟨rfl, .refl tracks, .some shaped, fun _ => trivial⟩

mutual

/-- Resolving a written type reports its unknown names. -/
lemma resolve_judges {scope : ScopeId} {layer : Layer} (views : Views origins table (some scope) layer) :
    ∀ (written : TypeRef) {s : State}, Tracks facts origins table s →
      Leads (resolve scope written) s fun type t => t.declaredTypes = s.declaredTypes ∧
        Judges facts origins table code s t type (layer.shape? written) (written.unknown layer) True
  | ⟨name, builtin, arguments, array, binding⟩, s, tracks => by
    rw [resolve, TypeRef.unknown]
    refine Leads.bind ((lookUp_judges code tracks views _).mono fun type t found => ?_)
    obtain ⟨same, found⟩ := found
    generalize layer.shape? ⟨name, builtin, arguments, array, binding⟩ = shape at found
    have rest : ∀ {u : State} {problems : List (Finding SemanticProblem)},
        u.types = t.types → u.declaredTypes = s.declaredTypes →
        Follows facts origins table code s u problems [] →
        Leads (do resolveAll scope arguments; return type) u fun type v =>
          v.declaredTypes = s.declaredTypes ∧ Judges facts origins table code s v type shape
            (problems ++ unknownNames layer arguments) True := by
      intro u problems types declared first
      refine Leads.bind ((resolveAll_follows views arguments first.tracks).mono fun _ v h => ?_)
      obtain ⟨declared', second⟩ := h
      refine ⟨declared'.trans declared, first.trans second, ?_, fun _ => trivial⟩
      exact (types ▸ found.typed).keeps second.keeps
    cases found.typed with
    | none =>
      refine Leads.bind ((report_follows code found.follows.tracks _ _).mono fun _ u reported => ?_)
      obtain ⟨types, declared, reported⟩ := reported
      exact rest types (declared.trans same) (found.follows.trans reported)
    | some shaped => exact rest rfl same found.follows

lemma resolveAll_follows {scope : ScopeId} {layer : Layer} (views : Views origins table (some scope) layer) :
    ∀ (list : List TypeRef) {s : State}, Tracks facts origins table s →
      Leads (resolveAll scope list) s fun _ t => t.declaredTypes = s.declaredTypes ∧
        Follows facts origins table code s t (unknownNames layer list) []
  | [], s, tracks => by
    rw [resolveAll, unknownNames]
    exact .pure ⟨rfl, .refl tracks⟩
  | written :: rest, s, tracks => by
    rw [resolveAll, unknownNames]
    refine Leads.bind (.discard ((resolve_judges views written tracks).mono fun _ t head => ?_))
    obtain ⟨same, head⟩ := head
    refine (resolveAll_follows views rest head.follows.tracks).mono fun _ u tail => ?_
    exact ⟨tail.1.trans same, head.follows.trans tail.2⟩

end

mutual

/-- The type arguments of a written type are filled in. -/
lemma bindArguments_follows {scope : ScopeId} {layer : Layer}
    (views : Views origins table (some scope) layer) :
    ∀ (written : TypeRef) {s : State}, Tracks facts origins table s →
      Leads (bindArguments scope written) s fun filled t => t.declaredTypes = s.declaredTypes ∧
        Follows facts origins table code s t [] [] ∧
          (Coded origins t.types code → filled = written.filled code layer)
  | ⟨name, builtin, arguments, array, binding⟩, s, tracks => by
    rw [bindArguments, TypeRef.filled]
    refine Leads.bind ((bindAll_follows views arguments tracks).mono fun filled t h => .pure ?_)
    refine ⟨h.1, h.2.1, fun coded => ?_⟩
    rw [h.2.2 coded]

lemma bindAll_follows {scope : ScopeId} {layer : Layer} (views : Views origins table (some scope) layer) :
    ∀ (list : List TypeRef) {s : State}, Tracks facts origins table s →
      Leads (bindAll scope list) s fun filled t => t.declaredTypes = s.declaredTypes ∧
        Follows facts origins table code s t [] [] ∧
          (Coded origins t.types code → filled = typesFilled code layer list)
  | [], s, tracks => by
    rw [bindAll, typesFilled]
    exact .pure ⟨rfl, .refl tracks, fun _ => rfl⟩
  | written :: rest, s, tracks => by
    rw [bindAll, typesFilled]
    refine Leads.bind ((lookUp_judges code tracks views written).mono fun type t found => ?_)
    obtain ⟨same, found⟩ := found
    refine Leads.bind ((bindArguments_follows views written found.follows.tracks).mono
      fun filled u head => ?_)
    obtain ⟨same', head, filled_eq⟩ := head
    refine Leads.bind ((bindAll_follows views rest head.tracks).mono fun others v tail => .pure ?_)
    obtain ⟨same'', tail, others_eq⟩ := tail
    refine ⟨same''.trans (same'.trans same), (found.follows.trans head).trans tail, fun coded => ?_⟩
    have coded' := coded.before tail.keeps
    rw [filled_eq coded', others_eq coded, found.typed.coded (coded'.before head.keeps)]

end

/-! ## Declared types -/

/-- The type of a declaration is found as the facts have it, and kept. -/
lemma declaredType_judges (tracks : Tracks facts origins table s) {node : NodeId} {scope : ScopeId}
    {written : TypeRef} {layer : Layer} (sited : Sited facts origins table node scope written layer) :
    Leads (declaredType node scope written) s fun type t =>
      (t.declaredTypes.lookup node).isSome ∧
        Judges facts origins table code s t type (facts.declared node) [] True := by
  refine Leads.bind (Leads.get ?_)
  -- The first use of a variable looks its written type up, and all others find it in the table.
  cases found : s.declaredTypes.lookup node with
  | some type => exact .pure ⟨by rw [found]; rfl, .refl tracks, tracks.declared node type found, fun _ => trivial⟩
  | none =>
    show Leads (do
      let type ← resolve scope written
      modify fun state => { state with declaredTypes := (node, type) :: state.declaredTypes }
      return type) s _
    refine Leads.bind ((resolve_judges code sited.views written tracks).mono fun type t resolved => ?_)
    obtain ⟨same, resolved⟩ := resolved
    refine Leads.bind (Leads.changed (.pure ?_))
    have follows := resolved.follows
    have typed : Typed origins t.types type (facts.declared node) := sited.declared ▸ resolved.typed
    refine ⟨by simp, ⟨⟨follows.tracks.scopes, follows.tracks.grown, fun other type' there => ?_, ?_,
      follows.tracks.defined⟩,
      ⟨follows.frame.active, follows.frame.functionDepth, follows.frame.returnTypes⟩, follows.keeps,
      follows.inferredTypes, fun coded => ?_⟩, typed, fun _ => trivial⟩
    · have there : ((node, type) :: t.declaredTypes).lookup other = some type' := there
      rw [List.lookup_cons] at there
      split at there
      · next e =>
        obtain rfl := Option.some.inj there
        rw [eq_of_beq e]
        exact typed
      · exact follows.tracks.declared other type' there
    · refine List.nodup_cons.mpr ⟨?_, follows.tracks.nodup⟩
      rw [same]
      intro mem
      obtain ⟨entry, listed, rfl⟩ := List.mem_map.mp mem
      have := List.lookup_eq_none_iff.mp found entry listed
      simp at this
    -- Looking the type up has added no entry to the table, so the variable is the only new one.
    · obtain ⟨fresh, keys, notes⟩ := follows.notes coded
      have nothing : fresh = [] := by
        rw [same] at keys
        exact List.self_eq_append_left.mp keys
      subst nothing
      refine ⟨[node], by show node :: _ = _; rw [same]; rfl, ?_⟩
      show t.found = _
      rw [notes, List.flatMap_singleton, sited.unknown]
      simp

/-- The written type of a declaration is filled in. -/
lemma bindDeclared_judges (tracks : Tracks facts origins table s) {node : NodeId} {scope : ScopeId}
    {written : TypeRef} {layer : Layer} (sited : Sited facts origins table node scope written layer) :
    Leads (bindDeclared node scope written) s fun bound t =>
      (t.declaredTypes.lookup node).isSome ∧ Judges facts origins table code s t bound.2
        (layer.shape? written) [] (bound.1 = written.bound code layer) := by
  refine Leads.bind ((declaredType_judges code tracks sited).mono fun type t found => ?_)
  obtain ⟨kept, found⟩ := found
  refine Leads.bind ((bindArguments_follows code sited.views _ found.follows.tracks).mono
    fun filled u h => .pure ?_)
  obtain ⟨same, follows, filled_eq⟩ := h
  have typed : Typed origins u.types type (layer.shape? written) :=
    sited.declared ▸ found.typed.keeps follows.keeps
  refine ⟨by rw [same]; exact kept, found.follows.trans follows, typed, fun coded => ?_⟩
  rw [filled_eq coded, typed.coded coded]
  rfl

/-- The type arguments of a call are filled in, and the unknown names in them are reported. -/
lemma bindTypeArgumentList_follows {scope : ScopeId} {layer : Layer}
    (views : Views origins table (some scope) layer) (list : List TypeRef)
    (tracks : Tracks facts origins table s) :
    Leads (bindTypeArgumentList scope list) s fun bound t =>
      Follows facts origins table code s t (unknownNames layer list) [] ∧ bound.length = list.length ∧
        (Coded origins t.types code → bound = list.map (TypeRef.bound code layer)) := by
  unfold bindTypeArgumentList
  induction list generalizing s with
  | nil =>
    rw [unknownNames]
    exact .pure ⟨.refl tracks, rfl, fun _ => rfl⟩
  | cons written rest ih =>
    rw [List.mapM_cons, unknownNames]
    refine Leads.bind (Leads.bind ((resolve_judges code views written tracks).mono fun type t found => ?_))
    obtain ⟨-, found⟩ := found
    refine (bindArguments_follows code views _ found.follows.tracks).mono fun filled u h => ?_
    obtain ⟨-, follows, filled_eq⟩ := h
    refine Leads.bind ((ih follows.tracks).mono fun others v tail => .pure ?_)
    obtain ⟨tail, length, others_eq⟩ := tail
    refine ⟨((found.follows.trans follows).trans tail).cast (fun _ => ?_) rfl, congrArg Nat.succ length,
      fun coded => ?_⟩
    · rw [List.append_nil]
    · have coded' := coded.before tail.keeps
      rw [others_eq coded, filled_eq coded', found.typed.coded (coded'.before follows.keeps)]
      rfl

end

end ArrowScript.Analysis
