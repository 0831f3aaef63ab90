import ArrowScript.Proofs.Analysis.Handles
import ArrowScript.Proofs.Analysis.Looking
import ArrowScript.Proofs.Analysis.Renaming
import Mathlib.Logic.Relation

/-!
# Changes made by visiting

Visiting makes no other changes to the state than those listed in `Change`: findings, array types and types that were
found are added, scopes are entered and left, and so are function bodies. None of them touches the scopes, their
tables or the types that a program defines, and array types are the only ones that are added. If all handles of types
are known before a change, they are known after it, so whatever state is passed on a path of changes knows all of its
handles. `StepReads` and `VisitReads` say of an action that it follows such a path, ends in the scope and in the
function that it began in, and gives known handles only.
-/

namespace ArrowScript

/-- The handles that a scope keeps: of declared types, and in the written types of functions and variables. -/
def Scope.handles (scope : Scope) : List TypeId :=
  scope.typeTable.map (fun entry => entry.2.type) ++
    scope.functionTable.flatMap (fun entry =>
      entry.2.parameters.flatMap (fun parameter => parameter.2.handles) ++ entry.2.returns.elim [] TypeRef.handles) ++
    scope.variableTable.flatMap fun entry => entry.2.written.elim [] TypeRef.handles

namespace Analysis

/-- All handles of types that a state keeps are known to its registry. -/
structure AllKnown (s : State) : Prop where
  builtins : 6 ≤ s.types.size
  elements : ∀ array element, s.types.element? array = some element → s.types.Knows element
  symbols : ∀ scope found, s.scopes.get? scope = some found → s.types.KnowsAll found.handles
  declared : ∀ entry ∈ s.declaredTypes, s.types.KnowsAll entry.2.toList
  inferred : ∀ entry ∈ s.inferredTypes, s.types.Knows entry.2
  defined : ∀ entry ∈ s.definedTypes, s.types.Knows entry.2
  returned : ∀ expected ∈ s.returnTypes, s.types.KnowsAll expected.toList
  findings : ∀ finding ∈ s.findings.toList, s.types.KnowsAll finding.problem.types

/-- A change that visiting makes to the state. -/
inductive Change : State → State → Prop
  | finding {s : State} (finding : Finding SemanticProblem) : s.types.KnowsAll finding.problem.types →
    Change s { s with findings := s.findings.push finding }
  | array {s : State} (element : TypeId) : s.types.Knows element →
    Change s { s with types := (s.types.arrayOf element).2 }
  | declared {s : State} (node : NodeId) (type : Option TypeId) : s.types.KnowsAll type.toList →
    Change s { s with declaredTypes := (node, type) :: s.declaredTypes }
  | inferred {s : State} (node : NodeId) (type : TypeId) : s.types.Knows type →
    Change s { s with inferredTypes := (node, type) :: s.inferredTypes }
  | enter {s : State} (scope : ScopeId) : Change s { s with active := scope :: s.active }
  | leave {s : State} : Change s { s with active := s.active.tail }
  | deeper {s : State} : Change s { s with functionDepth := s.functionDepth + 1 }
  | shallower {s : State} : Change s { s with functionDepth := s.functionDepth - 1 }
  | expect {s : State} (type : Option TypeId) : s.types.KnowsAll type.toList →
    Change s { s with returnTypes := type :: s.returnTypes }
  | forget {s : State} : Change s { s with returnTypes := s.returnTypes.tail }

/-- Changes that are made one after the other. -/
abbrev Path : State → State → Prop :=
  Relation.ReflTransGen Change

/-- Scopes, their tables and defined types are left alone, and only array types are added to the registry. -/
structure Extends (s t : State) : Prop where
  scopes : t.scopes = s.scopes
  definedTypes : t.definedTypes = s.definedTypes
  types : s.types.AddsArrays t.types

variable {s t u : State} {ν μ α β : Type} {types : List TypeId}

/-! ## Single changes -/

/-- Known handles stay known when types are added. -/
lemma AllKnown.grown (known : AllKnown s) {types : TypeRegistry} (stays : s.types.Stays types)
    (elements : ∀ array element, types.element? array = some element → types.Knows element) :
    AllKnown { s with types } where
  builtins := Nat.le_trans known.builtins stays.size
  elements := elements
  symbols scope found there := stays.knowsAll (known.symbols scope found there)
  declared entry mem := stays.knowsAll (known.declared entry mem)
  inferred entry mem := stays.knows (known.inferred entry mem)
  defined entry mem := stays.knows (known.defined entry mem)
  returned expected mem := stays.knowsAll (known.returned expected mem)
  findings finding mem := stays.knowsAll (known.findings finding mem)

/-- Asking for an array type adds at most that type. -/
lemma addsArrays_arrayOf (registry : TypeRegistry) (element : TypeId) :
    registry.AddsArrays (registry.arrayOf element).2 := by
  unfold TypeRegistry.arrayOf
  split
  · exact .refl registry
  · exact .register registry _ element

/-- The elements of array types are known after another one is asked for. -/
lemma elements_arrayOf {registry : TypeRegistry} {element : TypeId} (known : registry.Knows element)
    (elements : ∀ array element, registry.element? array = some element → registry.Knows element)
    (array inner : TypeId) (there : (registry.arrayOf element).2.element? array = some inner) :
    (registry.arrayOf element).2.Knows inner := by
  refine (addsArrays_arrayOf registry element).stays.knows ?_
  unfold TypeRegistry.arrayOf at there
  split at there
  · exact elements array inner there
  · exact element?_registerArray registry _ element elements known there

namespace Change

/-- No change touches what was declared. -/
lemma extend (change : Change s t) : Extends s t := by
  cases change with
  | array element _ => exact ⟨rfl, rfl, addsArrays_arrayOf s.types element⟩
  | _ => exact ⟨rfl, rfl, .refl s.types⟩

/-- After a change all handles are known, if they were before. -/
lemma allKnown (change : Change s t) (known : AllKnown s) : AllKnown t := by
  obtain ⟨builtins, elements, symbols, declared, inferred, defined, returned, findings⟩ := id known
  cases change with
  | finding finding new =>
    refine ⟨builtins, elements, symbols, declared, inferred, defined, returned, fun other mem => ?_⟩
    rcases List.mem_append.mp (Array.toList_push ▸ mem) with old | last
    · exact findings other old
    · exact List.mem_singleton.mp last ▸ new
  | array element there =>
    exact known.grown (addsArrays_arrayOf s.types element).stays (elements_arrayOf there elements)
  | declared node type new =>
    exact ⟨builtins, elements, symbols, List.forall_mem_cons.mpr ⟨new, declared⟩, inferred, defined, returned, findings⟩
  | inferred node type new =>
    exact ⟨builtins, elements, symbols, declared, List.forall_mem_cons.mpr ⟨new, inferred⟩, defined, returned, findings⟩
  | expect type new =>
    exact ⟨builtins, elements, symbols, declared, inferred, defined, List.forall_mem_cons.mpr ⟨new, returned⟩, findings⟩
  | forget =>
    exact ⟨builtins, elements, symbols, declared, inferred, defined,
      fun expected mem => returned expected (List.mem_of_mem_tail mem), findings⟩
  | enter | leave | deeper | shallower =>
    exact ⟨builtins, elements, symbols, declared, inferred, defined, returned, findings⟩

end Change

/-! ## Paths -/

namespace Path

/-- Along a path only array types are added to what was declared. -/
lemma extend (path : Path s t) : Extends s t := by
  induction path with
  | refl => exact ⟨rfl, rfl, .refl s.types⟩
  | tail _ change ih =>
    have last := change.extend
    exact ⟨last.scopes.trans ih.scopes, last.definedTypes.trans ih.definedTypes, ih.types.trans last.types⟩

/-- Along a path all handles stay known. -/
lemma allKnown (path : Path s t) (known : AllKnown s) : AllKnown t := by
  induction path with
  | refl => exact known
  | tail _ change ih => exact change.allKnown ih

/-- Known handles stay known along a path. -/
lemma knowsAll (path : Path s t) (known : s.types.KnowsAll types) : t.types.KnowsAll types :=
  path.extend.types.stays.knowsAll known

end Path

/-- A path of changes that ends in the scope and in the function that it began in. -/
structure Reads (s t : State) : Prop where
  path : Path s t
  frame : SameFrame s t

namespace Reads

lemma refl (s : State) : Reads s s :=
  ⟨.refl, .refl s⟩

lemma trans (h : Reads s t) (g : Reads t u) : Reads s u :=
  ⟨h.path.trans g.path, h.frame.trans g.frame⟩

/-- A single change that leaves the frame alone. -/
lemma single (change : Change s t) (frame : SameFrame s t) : Reads s t :=
  ⟨.single change, frame⟩

lemma allKnown (h : Reads s t) (known : AllKnown s) : AllKnown t :=
  h.path.allKnown known

lemma knowsAll (h : Reads s t) (known : s.types.KnowsAll types) : t.types.KnowsAll types :=
  h.path.knowsAll known

end Reads

/-! ## Steps -/

/-- A step makes changes only, ends where it began, and gives known handles. -/
def StepReads (handles : α → List TypeId) (step : Step α) (s : State) : Prop :=
  Reads s (step s).2 ∧ (step s).2.types.KnowsAll (handles (step s).1)

namespace StepReads

variable {handles : α → List TypeId} {others : β → List TypeId}

/-- A result on its own. -/
lemma pure {a : α} (known : s.types.KnowsAll (handles a)) : StepReads handles (Pure.pure a) s :=
  ⟨.refl s, known⟩

/-- A sequence of steps. -/
lemma bind {step : Step α} {next : α → Step β} (first : StepReads handles step s)
    (rest : ∀ a t, Reads s t → t.types.KnowsAll (handles a) → StepReads others (next a) t) :
    StepReads others (step >>= next) s := by
  obtain ⟨reads, given⟩ := first
  obtain ⟨reads', given'⟩ := rest _ _ reads given
  exact ⟨reads.trans reads', given'⟩

/-- A step that asks for the state. -/
lemma get {next : State → Step β} (rest : StepReads others (next s) s) :
    StepReads others (MonadState.get >>= next) s :=
  rest

/-- A step whose result nobody asks for. -/
lemma discard {step : Step α} (first : StepReads handles step s) :
    StepReads (fun _ => []) (Functor.discard step) s :=
  ⟨first.1, TypeRegistry.knowsAll_nil⟩

/-- A single change. -/
lemma changed {change : State → State} (single : Change s (change s)) (frame : SameFrame s (change s)) :
    StepReads (fun _ => []) (modify change) s :=
  ⟨.single single frame, TypeRegistry.knowsAll_nil⟩

end StepReads

/-! ## Visits -/

/-- What came of a visit: changes were made, the state at the end is as stated unless there was a fault, and what is
given or comes with the fault has known handles. -/
def Made (ends : State → Prop) (inside : ν → List TypeId) (handles : α → List TypeId) (s : State) :
    EStateM.Result (Fault × ν) State α → Prop
  | .ok a t => ends t ∧ Path s t ∧ t.types.KnowsAll (handles a)
  | .error (_, node) t => Path s t ∧ t.types.KnowsAll (inside node)

/-- A visit makes changes only and ends in a state as stated. What it gives and the node that comes with a fault have
known handles. -/
def VisitMakes (ends : State → Prop) (inside : ν → List TypeId) (handles : α → List TypeId) (visit : Visit ν α)
    (s : State) : Prop :=
  Made ends inside handles s (visit s)

/-- A visit makes changes only, and ends where it began unless it ends with a fault. What it gives and the node that
comes with a fault have known handles. -/
abbrev VisitReads (inside : ν → List TypeId) (handles : α → List TypeId) (visit : Visit ν α) (s : State) : Prop :=
  VisitMakes (SameFrame s) inside handles visit s

/-- A visit of a node that gives its type as well. -/
abbrev TypedReads (handles : ν → List TypeId) (visit : Visit ν (ν × Option TypeId)) (s : State) : Prop :=
  VisitReads handles (fun visited => handles visited.1 ++ visited.2.toList) visit s

namespace VisitMakes

variable {ends middle : State → Prop} {inside : ν → List TypeId} {around : μ → List TypeId}
  {handles : α → List TypeId} {others : β → List TypeId}

/-- A result on its own. -/
lemma pure {a : α} (ended : ends s) (known : s.types.KnowsAll (handles a)) :
    VisitMakes ends inside handles (Pure.pure a) s :=
  ⟨ended, .refl, known⟩

/-- A sequence of visits. -/
lemma bind {visit : Visit ν α} {next : α → Visit ν β} (first : VisitMakes middle inside handles visit s)
    (rest : ∀ a t, middle t → Path s t → t.types.KnowsAll (handles a) → VisitMakes ends inside others (next a) t) :
    VisitMakes ends inside others (visit >>= next) s := by
  show Made ends inside others s (EStateM.bind visit next s)
  unfold EStateM.bind
  unfold VisitMakes at first
  cases e : visit s with
  | error failure t =>
    rw [e] at first
    exact first
  | ok a t =>
    rw [e] at first
    obtain ⟨reached, path, given⟩ := first
    have rest := rest a t reached path given
    show Made ends inside others s (next a t)
    unfold VisitMakes at rest
    cases e' : next a t with
    | ok b u =>
      rw [e'] at rest
      exact ⟨rest.1, path.trans rest.2.1, rest.2.2⟩
    | error failure u =>
      rw [e'] at rest
      exact ⟨path.trans rest.1, rest.2⟩

/-- A visit that begins with a single change. -/
lemma changed {change : State → State} {next : PUnit → Visit ν β} (single : Change s (change s))
    (rest : VisitMakes ends inside others (next ⟨⟩) (change s)) :
    VisitMakes ends inside others (liftM (modify change : Step PUnit) >>= next) s :=
  have first : VisitMakes (· = change s) inside (fun _ => []) (liftM (modify change : Step PUnit)) s :=
    ⟨rfl, .single single, TypeRegistry.knowsAll_nil⟩
  first.bind fun _ _ same _ _ => same ▸ rest

end VisitMakes

namespace VisitReads

variable {inside : ν → List TypeId} {around : μ → List TypeId} {handles : α → List TypeId} {others : β → List TypeId}

/-- A result on its own. -/
lemma pure {a : α} (known : s.types.KnowsAll (handles a)) : VisitReads inside handles (Pure.pure a) s :=
  VisitMakes.pure (.refl s) known

/-- A sequence of visits. -/
lemma bind {visit : Visit ν α} {next : α → Visit ν β} (first : VisitReads inside handles visit s)
    (rest : ∀ a t, Reads s t → t.types.KnowsAll (handles a) → VisitReads inside others (next a) t) :
    VisitReads inside others (visit >>= next) s := by
  refine VisitMakes.bind first fun a t frame path given => ?_
  have rest := rest a t ⟨path, frame⟩ given
  unfold VisitReads VisitMakes at rest
  unfold VisitMakes
  cases e : next a t with
  | ok b u =>
    rw [e] at rest
    exact ⟨frame.trans rest.1, rest.2⟩
  | error failure u =>
    rw [e] at rest
    exact rest

/-- A visit that asks for the state. -/
lemma get {next : State → Visit ν β} (rest : VisitReads inside others (next s) s) :
    VisitReads inside others (MonadState.get >>= next) s :=
  rest

/-- A step. -/
lemma lift {step : Step α} (h : StepReads handles step s) : VisitReads inside handles (liftM step) s :=
  ⟨h.1.frame, h.1.path, h.2⟩

/-- A question to the state, asked on the visit of a node. -/
lemma askFor {node : ν} {question : State → Except Fault α} (known : s.types.KnowsAll (inside node)) :
    VisitReads inside (fun _ => []) (Analysis.askFor node question) s := by
  unfold VisitReads VisitMakes Analysis.askFor Analysis.ask
  cases question s with
  | ok a => exact ⟨.refl s, .refl, TypeRegistry.knowsAll_nil⟩
  | error fault => exact ⟨.refl, known⟩

/-- Work on a part of a node. -/
lemma within {place : ν → μ} {visit : Visit ν α} (h : VisitReads inside handles visit s)
    (places : ∀ node t, Path s t → t.types.KnowsAll (inside node) → t.types.KnowsAll (around (place node))) :
    VisitReads around handles (Analysis.within place visit) s := by
  unfold VisitReads VisitMakes at h ⊢
  unfold Analysis.within EStateM.adaptExcept
  cases e : visit s with
  | ok a t =>
    rw [e] at h
    exact h
  | error failure t =>
    rw [e] at h
    exact ⟨h.1, places _ t h.1 h.2⟩

/-- Work as part of a function body. -/
lemma insideFunction {visit : Visit ν α}
    (h : VisitReads inside handles visit { s with functionDepth := s.functionDepth + 1 }) :
    VisitReads inside handles (Analysis.insideFunction visit) s := by
  have enters : Path s { s with functionDepth := s.functionDepth + 1 } := .single .deeper
  unfold VisitReads VisitMakes at h ⊢
  unfold Analysis.insideFunction
  simp only
  cases e : visit { s with functionDepth := s.functionDepth + 1 } with
  | ok a t =>
    rw [e] at h
    obtain ⟨frame, path, given⟩ := h
    exact ⟨⟨frame.active, congrArg (· - 1) frame.functionDepth, frame.returnTypes⟩,
      (enters.trans path).tail .shallower, given⟩
  | error failure t =>
    rw [e] at h
    exact ⟨(enters.trans h.1).tail .shallower, h.2⟩

/-- Work where a known type is to be returned. -/
lemma returningType {type : Option TypeId} {visit : Visit ν α} (known : s.types.KnowsAll type.toList)
    (h : VisitReads inside handles visit { s with returnTypes := type :: s.returnTypes }) :
    VisitReads inside handles (Analysis.returningType type visit) s := by
  have enters : Path s { s with returnTypes := type :: s.returnTypes } := .single (.expect type known)
  unfold VisitReads VisitMakes at h ⊢
  unfold Analysis.returningType
  simp only
  cases e : visit { s with returnTypes := type :: s.returnTypes } with
  | ok a t =>
    rw [e] at h
    obtain ⟨frame, path, given⟩ := h
    exact ⟨⟨frame.active, frame.functionDepth, congrArg List.tail frame.returnTypes⟩,
      (enters.trans path).tail .forget, given⟩
  | error failure t =>
    rw [e] at h
    exact ⟨(enters.trans h.1).tail .forget, h.2⟩

end VisitReads

end Analysis

end ArrowScript
