import ArrowScript.Proofs.Analysis.Declarations
import ArrowScript.Proofs.Analysis.Regions
import ArrowScript.Analysis.Declare
import Mathlib.Algebra.Order.Group.Multiset
import Mathlib.Tactic.Abel

/-!
# What declaring collects

Declaring a program collects exactly what its regions hold: types are registered in the order in which the
regions have them, every variable and function in a scope comes from a region whose scope is recorded, and
the findings are those of the regions. `Collects` says so for a part of a program. What the part introduces
in the scope around it is listed apart from the regions of its own, and so are functions until their scopes
are recorded.
-/

namespace ArrowScript
open Analysis

/-- Where the names in a scope were introduced. -/
def Scope.spans (scope : Scope) : Declared → String → Option Span
  | .type, key => (scope.typeTable.lookup key).map TypeSymbol.span
  | .function, key => (scope.functionTable.lookup key).map FunctionSymbol.span
  | .variable, key => (scope.variableTable.lookup key).map VariableSymbol.span

namespace Analysis

variable {s t u : State} {outer : Option ScopeId} {scope : ScopeId}

/-! ## What a state has collected -/

namespace State

/-- The findings, in any order. -/
def found (s : State) : Multiset (Finding SemanticProblem) :=
  s.findings.toList

/-- Where the names in a scope were introduced, nowhere if there is no scope. -/
def introduced (s : State) (outer : Option ScopeId) : Declared → String → Option Span :=
  (outer.bind s.scopes.get?).elim (fun _ _ => none) Scope.spans

/-- A variable is declared in some scope. -/
def HasVariable (s : State) (symbol : VariableSymbol) : Prop :=
  ∃ scope found key, s.scopes.get? scope = some found ∧ found.variableTable.lookup key = some symbol

/-- A function is declared in some scope. -/
def HasFunction (s : State) (symbol : FunctionSymbol) : Prop :=
  ∃ scope found key, s.scopes.get? scope = some found ∧ found.functionTable.lookup key = some symbol

end State

/-- A function has the signature that a region lists. -/
structure Region.Signs (region : Region) (symbol : FunctionSymbol) : Prop where
  signature : region.signature = some (symbol.node, symbol.parameters.map Prod.fst)
  parameters : ∀ parameter ∈ symbol.parameters, parameter ∈ region.writes
  returns : ∀ written ∈ symbol.returns, (symbol.node, written) ∈ region.writes

/-- The names that are known after some introductions. -/
def notingAll (introductions : List Introduction) (known : Declared → String → Option Span) :
    Declared → String → Option Span :=
  introductions.foldl (fun known introduction => noting introduction known) known

lemma repeated_append (first second : List Introduction) (known : Declared → String → Option Span) :
    repeated known (first ++ second) = repeated known first ++ repeated (notingAll first known) second := by
  induction first generalizing known with
  | nil => rfl
  | cons introduction rest ih =>
    rw [List.cons_append, repeated, repeated, ih, List.append_assoc]
    rfl

/-- What part of a program adds to what is collected. -/
structure Collection where
  /-- What is introduced in the scope around the part, with the written types of variables. -/
  introductions : List Introduction
  writes : List (NodeId × TypeRef)
  /-- The functions declared in the scope around the part whose own scopes are not recorded yet. -/
  pending : List FunctionSymbol
  forbidden : List (Finding SemanticProblem)
  origins : List Origin
  regions : List Region

namespace Collection

/-- Nothing is collected. -/
def empty : Collection :=
  ⟨[], [], [], [], [], []⟩

/-- What is collected in one part, then in another. -/
def append (first second : Collection) : Collection where
  introductions := first.introductions ++ second.introductions
  writes := first.writes ++ second.writes
  pending := first.pending ++ second.pending
  forbidden := first.forbidden ++ second.forbidden
  origins := first.origins ++ second.origins
  regions := first.regions ++ second.regions

instance : Append Collection :=
  ⟨append⟩

/-- Regions on their own. -/
def ofRegions (regions : List Region) : Collection :=
  ⟨[], [], [], [], regions.flatMap Region.origins, regions⟩

lemma ofRegions_append (first second : List Region) :
    ofRegions first ++ ofRegions second = ofRegions (first ++ second) := by
  show append _ _ = _
  simp [append, ofRegions]

/-- The contents of a definition: type parameters, then variables, then what has regions of its own. -/
lemma contents (types names functions : List Introduction) (writes : List (NodeId × TypeRef))
    (parameters origins : List Origin) (regions : List Region) :
    (⟨types, [], [], [], parameters, []⟩ ++ ⟨names, writes, [], [], [], []⟩ ++
      ⟨functions, [], [], [], origins, regions⟩ : Collection) =
        ⟨types ++ (names ++ functions), writes, [], [], parameters ++ origins, regions⟩ := by
  show append (append _ _) _ = _
  simp [append]

/-- The findings, when some names were introduced before. -/
def found (collection : Collection) (known : Declared → String → Option Span) :
    Multiset (Finding SemanticProblem) :=
  ↑(repeated known collection.introductions) + ↑collection.forbidden +
    ↑(collection.regions.flatMap Region.problems)

lemma found_append (first second : Collection) (known : Declared → String → Option Span) :
    (first ++ second).found known = first.found known + second.found (notingAll first.introductions known) := by
  show (↑(repeated known (first.introductions ++ second.introductions)) +
    ↑(first.forbidden ++ second.forbidden) +
      ↑((first.regions ++ second.regions).flatMap Region.problems) :
        Multiset (Finding SemanticProblem)) = _
  rw [repeated_append, List.flatMap_append]
  simp only [← Multiset.coe_add, found]
  abel

end Collection

/-- Types are registered for some declarations, one after the other. -/
structure Registers (s t : State) (origins : List Origin) : Prop where
  types : t.types.entries.toList = s.types.entries.toList ++ origins.map Origin.info
  defined : ∀ node type, (node, type) ∈ t.definedTypes ↔ (node, type) ∈ s.definedTypes ∨
    ∃ name position, origins[position]? = some (.user node name) ∧ type.index = s.types.size + position

namespace Registers

variable {first second : List Origin}

/-- Nothing is registered. -/
lemma nothing (types : t.types = s.types) (defined : t.definedTypes = s.definedTypes) :
    Registers s t [] := by
  refine ⟨?_, fun node type => ?_⟩
  · rw [types, List.map_nil, List.append_nil]
  · simp [defined]

/-- How many types are registered. -/
lemma size (h : Registers s t first) : t.types.size = s.types.size + first.length := by
  have length := congrArg List.length h.types
  simpa [TypeRegistry.size] using length

/-- Types are registered for some declarations and then for others. -/
lemma trans (h : Registers s t first) (g : Registers t u second) : Registers s u (first ++ second) where
  types := by rw [g.types, h.types, List.map_append, List.append_assoc]
  defined := fun node type => by
    rw [g.defined, h.defined, h.size, or_assoc]
    refine or_congr_right ⟨?_, ?_⟩
    · rintro (⟨name, position, found, place⟩ | ⟨name, position, found, place⟩)
      · refine ⟨name, position, ?_, place⟩
        rwa [List.getElem?_append_left (List.getElem?_eq_some_iff.mp found).1]
      · refine ⟨name, first.length + position, ?_, by omega⟩
        rwa [List.getElem?_append_right (Nat.le_add_right _ _), Nat.add_sub_cancel_left]
    · rintro ⟨name, position, found, place⟩
      rw [List.getElem?_append] at found
      split at found
      · exact .inl ⟨name, position, found, place⟩
      · exact .inr ⟨name, _, found, by omega⟩

end Registers

/-- A region has a scope of its own, from a number on, in which names are introduced as in the region. -/
def Region.IntroducedIn (region : Region) (base : Nat) (table : ScopeTable) : Prop :=
  ∃ own found, base ≤ own.index ∧ table.scopeOf? region.place.owner = some own ∧ table.get? own = some found ∧
    found.spans = notingAll region.introductions fun _ _ => none

/-- What declaring part of a program in the scope around it collects. -/
structure Collects (outer : Option ScopeId) (s t : State) (collection : Collection) : Prop where
  frame : SameFrame s t
  registers : Registers s t collection.origins
  scopes : s.scopes.size ≤ t.scopes.size
  oldScopes : ∀ scope, scope.index < s.scopes.size → some scope ≠ outer →
    t.scopes.get? scope = s.scopes.get? scope
  closed : ∀ node own, s.scopes.scopeOf? node = some own → t.scopes.scopeOf? node = some own
  introduced : (∀ scope ∈ outer, scope.index < s.scopes.size) →
    t.introduced outer = notingAll collection.introductions (s.introduced outer)
  inside : (∀ scope ∈ outer, scope.index < s.scopes.size) →
    ∀ region ∈ collection.regions, region.IntroducedIn s.scopes.size t.scopes
  found : (∀ scope ∈ outer, scope.index < s.scopes.size) →
    t.found = s.found + collection.found (s.introduced outer)
  hasVariable : ∀ symbol, t.HasVariable symbol → s.HasVariable symbol ∨
    (some symbol.scope = outer ∧ ∀ written ∈ symbol.written, (symbol.node, written) ∈ collection.writes) ∨
    ∃ region ∈ collection.regions, t.scopes.scopeOf? region.place.owner = some symbol.scope ∧
      ∀ written ∈ symbol.written, (symbol.node, written) ∈ region.writes
  hasFunction : ∀ symbol, t.HasFunction symbol → s.HasFunction symbol ∨ symbol ∈ collection.pending ∨
    ∃ region ∈ collection.regions, t.scopes.scopeOf? region.place.owner = some symbol.scope ∧
      region.Signs symbol

namespace Collects

variable {first second : Collection}

/-- Nothing is collected. -/
lemma refl (outer : Option ScopeId) (s : State) : Collects outer s s .empty where
  frame := .refl s
  registers := .nothing rfl rfl
  scopes := Nat.le_refl _
  oldScopes := fun _ _ _ => rfl
  closed := fun _ _ recorded => recorded
  introduced := fun _ => rfl
  inside := fun _ => nofun
  found := fun _ => (add_zero _).symm
  hasVariable := fun _ has => .inl has
  hasFunction := fun _ has => .inl has

/-- One part is declared after the other. -/
lemma trans (h : Collects outer s t first) (g : Collects outer t u second) :
    Collects outer s u (first ++ second) where
  frame := h.frame.trans g.frame
  registers := h.registers.trans g.registers
  scopes := Nat.le_trans h.scopes g.scopes
  oldScopes := fun scope old ne => by
    rw [g.oldScopes scope (Nat.lt_of_lt_of_le old h.scopes) ne, h.oldScopes scope old ne]
  closed := fun node own recorded => g.closed node own (h.closed node own recorded)
  introduced := fun below => by
    rw [g.introduced fun scope mem => Nat.lt_of_lt_of_le (below scope mem) h.scopes, h.introduced below]
    exact (List.foldl_append ..).symm
  inside := fun below region mem => by
    rcases List.mem_append.mp mem with mem | mem
    · obtain ⟨own, found, new, recorded, there, same⟩ := h.inside below region mem
      -- The second part writes to the scope around it and to new scopes only.
      have other : some own ≠ outer := fun e => Nat.not_lt.mpr new (below own e.symm)
      have old := g.oldScopes own (Array.getElem?_eq_some_iff.mp there).1 other
      exact ⟨own, found, new, g.closed _ _ recorded, old.trans there, same⟩
    · have below : ∀ scope ∈ outer, scope.index < t.scopes.size :=
        fun scope mem => Nat.lt_of_lt_of_le (below scope mem) h.scopes
      obtain ⟨own, found, new, rest⟩ := g.inside below region mem
      exact ⟨own, found, Nat.le_trans h.scopes new, rest⟩
  found := fun below => by
    rw [g.found fun scope mem => Nat.lt_of_lt_of_le (below scope mem) h.scopes, h.found below,
      Collection.found_append, h.introduced below, add_assoc]
  hasVariable := fun symbol has => by
    rcases g.hasVariable symbol has with has | ⟨here, listed⟩ | ⟨region, mem, recorded, listed⟩
    · rcases h.hasVariable symbol has with has | ⟨here, listed⟩ | ⟨region, mem, recorded, listed⟩
      · exact .inl has
      · exact .inr (.inl ⟨here, fun written mem => List.mem_append_left _ (listed written mem)⟩)
      · exact .inr (.inr ⟨region, List.mem_append_left _ mem, g.closed _ _ recorded, listed⟩)
    · exact .inr (.inl ⟨here, fun written mem => List.mem_append_right _ (listed written mem)⟩)
    · exact .inr (.inr ⟨region, List.mem_append_right _ mem, recorded, listed⟩)
  hasFunction := fun symbol has => by
    rcases g.hasFunction symbol has with has | pending | ⟨region, mem, recorded, signs⟩
    · rcases h.hasFunction symbol has with has | pending | ⟨region, mem, recorded, signs⟩
      · exact .inl has
      · exact .inr (.inl (List.mem_append_left _ pending))
      · exact .inr (.inr ⟨region, List.mem_append_left _ mem, g.closed _ _ recorded, signs⟩)
    · exact .inr (.inl (List.mem_append_right _ pending))
    · exact .inr (.inr ⟨region, List.mem_append_right _ mem, recorded, signs⟩)

/-- The same in other words. -/
lemma cast {collection : Collection} (h : Collects outer s t first) (e : first = collection) :
    Collects outer s t collection :=
  e ▸ h

end Collects

/-- In a fresh state, the findings for some regions on their own are the problems of these. -/
lemma Collects.found_ofRegions {regions : List Region} (h : Collects none .initial t (.ofRegions regions)) :
    t.found = ↑(regions.flatMap Region.problems) := by
  refine (h.found nofun).trans ?_
  show 0 + (0 + 0 + _) = _
  rw [zero_add, zero_add, zero_add]
  rfl

/-! ## Single declarations -/

/-- Where a name was introduced before, introducing it again makes no difference. -/
lemma noting_of_known {introduction : Introduction} {known : Declared → String → Option Span} {first : Span}
    (taken : known introduction.what introduction.key = some first) : noting introduction known = known := by
  funext what key
  unfold noting
  split
  · next same =>
    rw [same.1, same.2, taken, Option.some_or]
  · rw [Option.or_none]

section
variable {σ : Type} [Symbol σ] {symbol : σ} {introduction : Introduction}

/-- The tables of a scope are read as `Scope.spans` does when a symbol is introduced. -/
structure Introduces (symbol : σ) (introduction : Introduction) : Prop where
  taken : ∀ before : Scope, ((Symbol.table before : List (String × σ)).lookup introduction.key).map Symbol.span =
    before.spans introduction.what introduction.key
  inserted : ∀ (before : Scope) what key, (Symbol.insert introduction.key symbol before).spans what key =
    if what = introduction.what ∧ key = introduction.key then some introduction.name
    else before.spans what key

/-- Adding a declaration to a scope introduces a name there. -/
lemma Introduces.spans_adding (h : Introduces symbol introduction) (before : Scope) :
    (Scope.adding introduction.key symbol before).spans = noting introduction before.spans := by
  have taken := h.taken before
  unfold Scope.adding
  split
  · next first found =>
    rw [found, Option.map_some] at taken
    rw [noting_of_known taken.symm]
  · next free =>
    rw [free, Option.map_none] at taken
    funext what key
    rw [h.inserted, noting]
    split
    · next same => rw [same.1, same.2, ← taken, Option.none_or]
    · rw [Option.or_none]

/-- Declaring a symbol collects the introduction. -/
lemma Introduces.collects (h : Introduces symbol introduction) (writes : List (NodeId × TypeRef))
    (pending : List FunctionSymbol)
    (hasVariable : ∀ (before : Scope) key (other : VariableSymbol),
      (Scope.adding introduction.key symbol before).variableTable.lookup key = some other →
        before.variableTable.lookup key = some other ∨
          (other.scope = scope ∧ ∀ written ∈ other.written, (other.node, written) ∈ writes))
    (hasFunction : ∀ (before : Scope) key (other : FunctionSymbol),
      (Scope.adding introduction.key symbol before).functionTable.lookup key = some other →
        before.functionTable.lookup key = some other ∨ other ∈ pending) :
    Leads (declare introduction.what scope introduction.key introduction.name symbol) s fun _ t =>
      Collects (some scope) s t ⟨[introduction], writes, pending, [], [], []⟩ := by
  have get (other : ScopeId) := get?_declare s.scopes scope other introduction.key symbol
  -- Whether the name was taken is read off the same table that the declaration goes into.
  have first : (s.scopes.declare scope introduction.key symbol).1 =
      s.introduced (some scope) introduction.what introduction.key := by
    unfold ScopeTable.declare ScopeTable.declared? State.introduced
    rw [Option.bind_some]
    cases s.scopes.get? scope with
    | none => rfl
    | some before =>
      rw [Option.bind_some, Option.elim_some, ← h.taken before]
      split
      · next found => rw [found, Option.map_some]
      · next free => rw [free, Option.map_none]
  have collects : ∀ findings : Array (Finding SemanticProblem),
      findings.toList = s.findings.toList ++ repeated (s.introduced (some scope)) [introduction] →
      Collects (some scope) s
        { s with scopes := (s.scopes.declare scope introduction.key symbol).2, findings }
        ⟨[introduction], writes, pending, [], [], []⟩ := fun findings reported =>
    { frame := ⟨rfl, rfl, rfl⟩
      registers := .nothing rfl rfl
      scopes := Nat.le_of_eq (size_declare _ _ _ _).symm
      oldScopes := fun other _ ne => by rw [get, if_neg fun e => ne (congrArg some e)]
      closed := fun node own recorded => by
        unfold ScopeTable.scopeOf? at recorded ⊢
        rw [closed_declare]
        exact recorded
      introduced := fun below => by
        have there := Array.getElem?_eq_getElem (below scope rfl)
        unfold State.introduced
        rw [Option.bind_some, Option.bind_some, get, if_pos rfl, show s.scopes.get? scope = _ from there]
        exact h.spans_adding _
      inside := fun _ => nofun
      found := fun _ => by
        show (↑findings.toList : Multiset (Finding SemanticProblem)) = _
        rw [reported, ← Multiset.coe_add]
        simp [State.found, Collection.found]
      hasVariable := by
        rintro other ⟨place, found, key, there, looked⟩
        rw [get] at there
        split at there
        · next e =>
          subst e
          obtain ⟨before, here, rfl⟩ := Option.map_eq_some_iff.mp there
          rcases hasVariable before key other looked with old | ⟨rfl, listed⟩
          · exact .inl ⟨place, before, key, here, old⟩
          · exact .inr (.inl ⟨rfl, listed⟩)
        · exact .inl ⟨place, found, key, there, looked⟩
      hasFunction := by
        rintro other ⟨place, found, key, there, looked⟩
        rw [get] at there
        split at there
        · next e =>
          subst e
          obtain ⟨before, here, rfl⟩ := Option.map_eq_some_iff.mp there
          rcases hasFunction before key other looked with old | pending
          · exact .inl ⟨place, before, key, here, old⟩
          · exact .inr (.inl pending)
        · exact .inl ⟨place, found, key, there, looked⟩ }
  -- Only a name that was taken is reported.
  refine declare_leads (fun name taken => collects _ ?_) (fun free => collects _ ?_)
  · rw [repeated, ← first, taken]
    simp [repeated]
  · rw [repeated, ← first, free]
    simp [repeated]

end

/-- Adding a symbol in front of a table changes where its key was introduced. -/
lemma map_lookup_cons {σ α : Type} (view : σ → α) (table : List (String × σ)) (key other : String)
    (symbol : σ) : (((key, symbol) :: table).lookup other).map view =
      if other = key then some (view symbol) else (table.lookup other).map view := by
  by_cases e : other = key
  · rw [e, List.lookup_cons_self, if_pos rfl, Option.map_some]
  · rw [List.lookup_cons, beq_false_of_ne e, if_neg e]

/-- Tables of variables. -/
lemma introduces_variable (symbol : VariableSymbol) (key : String) (entry : Entry) :
    Introduces symbol ⟨symbol.span, key, .variable entry⟩ where
  taken := fun _ => rfl
  inserted := fun before what other => by
    cases what <;> simp [Scope.spans, Symbol.insert, Introduction.what, map_lookup_cons]

/-- Tables of functions. -/
lemma introduces_function (symbol : FunctionSymbol) (key : String) (entry : Entry) :
    Introduces symbol ⟨symbol.span, key, .function entry⟩ where
  taken := fun _ => rfl
  inserted := fun before what other => by
    cases what <;> simp [Scope.spans, Symbol.insert, Introduction.what, map_lookup_cons]

/-- Tables of types. -/
lemma introduces_type (symbol : TypeSymbol) (key : String) (origin : Origin) :
    Introduces symbol ⟨symbol.span, key, .type origin⟩ where
  taken := fun _ => rfl
  inserted := fun before what other => by
    cases what <;> simp [Scope.spans, Symbol.insert, Introduction.what, map_lookup_cons]

/-- What is found in a table after adding a symbol was there before or is the symbol. -/
lemma lookup_insert {σ : Type} {table : List (String × σ)} {key other : String} {symbol found : σ}
    (looked : ((key, symbol) :: table).lookup other = some found) :
    table.lookup other = some found ∨ found = symbol := by
  rw [List.lookup_cons] at looked
  split at looked
  · exact .inr (Option.some.inj looked).symm
  · exact .inl looked

/-- Declaring a variable or parameter in the innermost scope. -/
lemma declareVariable_collects (around : s.active.head? = some scope) (node : NodeId) (name : Span)
    (written : Option TypeRef) :
    Yields (declareVariable node name written) s fun _ t => Collects (some scope) s t
      ⟨[⟨name, name.content, .variable ⟨node, written.isSome⟩⟩], (written.map (node, ·)).toList, [], [], [],
        []⟩ := by
  unfold declareVariable currentScope
  refine .bind (.ask fun own answer => .lift ?_)
  obtain rfl := Except.ok.inj ((scope_of_head? around).symm.trans answer)
  refine (introduces_variable ⟨node, name, scope, written⟩ name.content _).collects _ _ ?_ ?_
  · intro before key other looked
    unfold Scope.adding at looked
    split at looked
    · exact .inl looked
    · rcases lookup_insert looked with old | rfl
      · exact .inl old
      · exact .inr ⟨rfl, by simp⟩
  · intro before key other looked
    unfold Scope.adding at looked
    split at looked <;> exact .inl looked

/-- Declaring a function leaves it pending. -/
lemma declareFunction_collects (own : ScopeId) (node : NodeId) (name : Span) (arity : Nat)
    (parameters : List Parameter) (returns : Option TypeRef) :
    Leads (declareFunction scope own node name arity parameters returns) s fun _ t =>
      Collects (some scope) s t ⟨[⟨name, mangle name.content arity, .function ⟨node, returns.isSome⟩⟩], [],
        [⟨node, name, own, parameters.map fun parameter => (parameter.id, parameter.written), returns⟩], [],
        [], []⟩ := by
  refine (introduces_function ⟨node, name, own, _, returns⟩ _ _).collects _ _ ?_ ?_
  · intro before key other looked
    unfold Scope.adding at looked
    split at looked <;> exact .inl looked
  · intro before key other looked
    unfold Scope.adding at looked
    split at looked
    · exact .inl looked
    · rcases lookup_insert looked with old | rfl
      · exact .inl old
      · exact .inr List.mem_cons_self

/-- Declaring what was registered just before. -/
lemma Collects.registered {collection : Collection} {origin : Origin} {defined : List (NodeId × TypeId)}
    (h : Collects outer { s with types := (s.types.register origin.info).2, definedTypes := defined } t
      collection)
    (none : collection.origins = [])
    (listed : ∀ node type, (node, type) ∈ defined ↔ (node, type) ∈ s.definedTypes ∨
      ∃ name, origin = .user node name ∧ type.index = s.types.size) :
    Collects outer s t { collection with origins := [origin] } where
  frame := ⟨h.frame.active, h.frame.functionDepth, h.frame.returnTypes⟩
  registers := by
    refine ⟨?_, fun node type => ?_⟩
    · rw [h.registers.types, none]
      simp [TypeRegistry.register]
    rw [h.registers.defined, none, listed]
    simp only [List.getElem?_nil, reduceCtorEq, false_and, exists_false, or_false]
    refine or_congr_right ⟨?_, ?_⟩
    · rintro ⟨name, e, place⟩
      exact ⟨name, 0, congrArg some e, place⟩
    · rintro ⟨name, position, found, place⟩
      cases position with
      | zero => exact ⟨name, Option.some.inj found, place⟩
      | succ position => cases found
  scopes := h.scopes
  oldScopes := h.oldScopes
  closed := h.closed
  introduced := h.introduced
  inside := h.inside
  found := h.found
  hasVariable := h.hasVariable
  hasFunction := h.hasFunction

/-- Declaring a type that was registered just before. -/
lemma declare_registered_collects (s : State) (origin : Origin) (defined : List (NodeId × TypeId))
    (name : Span) (key : String) (type : TypeId)
    (listed : ∀ node type, (node, type) ∈ defined ↔ (node, type) ∈ s.definedTypes ∨
      ∃ name, origin = .user node name ∧ type.index = s.types.size) :
    Leads (declare .type scope key name (⟨type, name⟩ : TypeSymbol))
      { s with types := (s.types.register origin.info).2, definedTypes := defined } fun _ t =>
        Collects (some scope) s t ⟨[⟨name, key, .type origin⟩], [], [], [], [origin], []⟩ := by
  refine ((introduces_type ⟨type, name⟩ key origin).collects [] [] ?_ ?_).mono
    fun _ t declared => declared.registered rfl listed
  · intro before key other looked
    unfold Scope.adding at looked
    split at looked <;> exact .inl looked
  · intro before key other looked
    unfold Scope.adding at looked
    split at looked <;> exact .inl looked

/-- Declaring a type registers it. -/
lemma declareType_collects (node : NodeId) (name : Span) (arity : Nat) :
    Leads (declareType scope node name arity) s fun _ t => Collects (some scope) s t
      ⟨[⟨name, mangle name.content arity, .type (.user node name.content)⟩], [], [], [],
        [.user node name.content], []⟩ := by
  refine declare_registered_collects s (.user node name.content) ((node, ⟨s.types.size⟩) :: s.definedTypes)
    name (mangle name.content arity) ⟨s.types.size⟩ fun other type => ?_
  rw [List.mem_cons, Prod.mk.injEq, or_comm]
  refine or_congr_right ⟨?_, ?_⟩
  · rintro ⟨rfl, rfl⟩
    exact ⟨_, rfl, rfl⟩
  · rintro ⟨_, ⟨⟩, place⟩
    exact ⟨rfl, by cases type; exact congrArg TypeId.mk place⟩

/-- Declaring type parameters registers them. -/
lemma declareTypeParameters_collect (owner : NodeId) (names : List Span) (position : Nat) :
    Leads (names.forM (declareTypeParameter scope)) s fun _ t => Collects (some scope) s t
      ⟨typeParameterIntroductions owner position names, [], [], [],
        ((typeParameterIntroductions owner position names).filterMap Introduction.asType).map Prod.snd, []⟩ := by
  induction names generalizing s position with
  | nil => exact .refl _ s
  | cons name rest ih =>
    have first : Leads (declareTypeParameter scope name) s fun _ t => Collects (some scope) s t
        ⟨[⟨name, name.content, .type (.parameter owner position name.content)⟩], [], [], [],
          [.parameter owner position name.content], []⟩ :=
      declare_registered_collects s (.parameter owner position name.content) s.definedTypes name
        name.content ⟨s.types.size⟩ fun _ _ => by simp
    rw [List.forM]
    exact Leads.bind (first.mono fun _ t head => (ih (position + 1)).mono fun _ u tail => head.trans tail)

/-- Reporting a definition that may not stand where it does. -/
lemma report_collects (outer : Option ScopeId) (problem : SemanticProblem) (span : Span) :
    Leads (report problem span) s fun _ t =>
      Collects outer s t ⟨[], [], [], [⟨problem, span⟩], [], []⟩ where
  frame := ⟨rfl, rfl, rfl⟩
  registers := .nothing rfl rfl
  scopes := Nat.le_refl _
  oldScopes := fun _ _ _ => rfl
  closed := fun _ _ recorded => recorded
  introduced := fun _ => rfl
  inside := fun _ => nofun
  found := fun _ => by
    show (↑(s.findings.push ⟨problem, span⟩).toList : Multiset (Finding SemanticProblem)) = _
    rw [Array.toList_push, ← Multiset.coe_add]
    simp [State.found, Collection.found, repeated]
  hasVariable := fun _ has => .inl has
  hasFunction := fun _ has => .inl has

/-- Declaring variables of some kind one after the other. -/
lemma declareAll_collects {α : Type} {action : α → Attempt Unit} {introduction : α → Introduction}
    {written : α → Option TypeRef} {node : α → NodeId}
    (each : ∀ {s : State} (one : α), s.active.head? = some scope →
      Yields (action one) s fun _ t => Collects (some scope) s t
        ⟨[introduction one], ((written one).map (node one, ·)).toList, [], [], [], []⟩)
    (around : s.active.head? = some scope) (list : List α) :
    Yields (list.forM action) s fun _ t => Collects (some scope) s t
      ⟨list.map introduction, list.flatMap fun one => ((written one).map (node one, ·)).toList, [], [], [],
        []⟩ := by
  induction list generalizing s with
  | nil => exact .pure (.refl _ s)
  | cons first rest ih =>
    rw [List.forM]
    refine .bind ((each first around).mono fun _ t head => ?_)
    exact (ih (head.frame.active ▸ around)).mono fun _ u tail => head.trans tail

/-! ## Scopes of their own -/

@[simp] lemma spans_empty (parent : Option ScopeId) : (Scope.empty parent).spans = fun _ _ => none := by
  funext what key
  cases what <;> rfl

/-- Opening a scope collects nothing. -/
lemma collects_opened (s : State) (outer parent : Option ScopeId) :
    Collects outer s (s.opened parent) .empty where
  frame := ⟨rfl, rfl, rfl⟩
  registers := .nothing rfl rfl
  scopes := size_opened s parent ▸ Nat.le_succ _
  oldScopes := fun _ old _ => get?_opened old
  closed := fun _ _ recorded => recorded
  introduced := fun below => by
    unfold State.introduced
    cases outer with
    | none => rfl
    | some scope =>
      rw [Option.bind_some, Option.bind_some, get?_opened (below scope rfl)]
      rfl
  inside := fun _ => nofun
  found := fun _ => (add_zero _).symm
  hasVariable := by
    rintro symbol ⟨scope, found, key, there, looked⟩
    have there := (ScopeTable.get?_openUnder _ _ _).symm.trans there
    split at there
    · obtain rfl := Option.some.inj there
      cases looked
    · exact .inl ⟨scope, found, key, there, looked⟩
  hasFunction := by
    rintro symbol ⟨scope, found, key, there, looked⟩
    have there := (ScopeTable.get?_openUnder _ _ _).symm.trans there
    split at there
    · obtain rfl := Option.some.inj there
      cases looked
    · exact .inl ⟨scope, found, key, there, looked⟩

/-- A region whose contents were declared in a scope of its own, and the scope recorded for its node. -/
lemma Collects.owned (region : Region) {parent : Option ScopeId} {own : ScopeId} {table : ScopeTable}
    {introductions : List Introduction} {writes : List (NodeId × TypeRef)} {pending : List FunctionSymbol}
    {before inside : List Origin} {regions : List Region}
    (h : Collects outer s t ⟨introductions, [], pending, [], before, []⟩)
    (empty : t.scopes.get? own = some (.empty parent)) (new : s.scopes.size ≤ own.index)
    (g : Collects (some own) { t with active := own :: t.active } u
      ⟨region.introductions, writes, [], region.forbidden, inside, regions⟩)
    (closed : u.scopes.close region.place.owner own = .ok table)
    (listed : writes ⊆ region.writes)
    (signs : ∀ symbol ∈ pending, symbol.scope = own ∧ region.Signs symbol) :
    Collects outer s { u with active := u.active.tail, scopes := table }
      ⟨introductions, [], [], [], before ++ inside, region :: regions⟩ := by
  have recorded := ScopeTable.scopeOf?_of_close closed
  have scopes : table.scopes = u.scopes.scopes := by
    unfold ScopeTable.close at closed
    split at closed
    · cases closed
    · cases closed
      rfl
  have get (scope : ScopeId) : table.get? scope = u.scopes.get? scope := by
    rw [ScopeTable.get?, ScopeTable.get?, scopes]
  -- Recording the scope of a new owner changes the records of no other node.
  have kept : ∀ node own, u.scopes.scopeOf? node = some own → table.scopeOf? node = some own := by
    intro node own' there
    rw [recorded]
    split
    · next e =>
      unfold ScopeTable.close at closed
      rw [← e, there] at closed
      cases closed
    · exact there
  -- Inside, only the owner's scope and later ones are written to.
  have outside : ∀ scope, scope.index < s.scopes.size → u.scopes.get? scope = t.scopes.get? scope :=
    fun scope old => g.oldScopes scope (Nat.lt_of_lt_of_le old h.scopes)
      fun e => Nat.not_lt.mpr new (Option.some.inj e ▸ old)
  have below : ∀ scope ∈ some own, scope.index < t.scopes.size := by
    rintro _ ⟨⟩
    exact (Array.getElem?_eq_some_iff.mp empty).1
  -- The owner's scope is empty at first, so no name in it was taken.
  have nowhere : ({ t with active := own :: t.active } : State).introduced (some own) = fun _ _ => none := by
    show Option.elim (t.scopes.get? own) _ _ = _
    rw [empty]
    exact spans_empty parent
  have inner := g.introduced below
  rw [nowhere] at inner
  have there := Array.getElem?_eq_getElem (Nat.lt_of_lt_of_le (below own rfl) g.scopes)
  refine
    { frame := ⟨?_, g.frame.functionDepth.trans h.frame.functionDepth,
        g.frame.returnTypes.trans h.frame.returnTypes⟩
      registers := h.registers.trans ⟨g.registers.types, g.registers.defined⟩
      scopes := ?_
      oldScopes := fun scope old ne => ?_
      closed := fun node own there => kept _ _ (g.closed _ _ (h.closed node own there))
      introduced := fun around => ?_
      inside := fun _ => ?_
      found := fun around => ?_
      hasVariable := ?_
      hasFunction := ?_ }
  · show u.active.tail = s.active
    rw [g.frame.active]
    exact h.frame.active
  · show s.scopes.size ≤ table.scopes.size
    rw [scopes]
    exact Nat.le_trans h.scopes g.scopes
  · exact (get scope).trans ((outside scope old).trans (h.oldScopes scope old ne))
  · rw [← h.introduced around]
    unfold State.introduced
    cases outer with
    | none => rfl
    | some scope =>
      show Option.elim (table.get? scope) _ _ = Option.elim (t.scopes.get? scope) _ _
      rw [get, outside scope (around scope rfl)]
  · refine List.forall_mem_cons.mpr ⟨?_, fun region mem => ?_⟩
    · refine ⟨own, _, new, (recorded _).trans (if_pos rfl), (get own).trans there, ?_⟩
      rw [← inner]
      show _ = Option.elim (u.scopes.get? own) _ _
      rw [show u.scopes.get? own = _ from there]
      rfl
    · obtain ⟨scope, found, later, owned, there, same⟩ := g.inside below region mem
      exact ⟨scope, found, Nat.le_trans h.scopes later, kept _ _ owned, (get scope).trans there, same⟩
  · show u.found = _
    rw [g.found below, nowhere]
    show t.found + _ = _
    rw [h.found around]
    simp only [Collection.found, Region.problems, List.flatMap_cons, List.flatMap_nil, ← Multiset.coe_add,
      Multiset.coe_nil]
    abel
  · rintro symbol ⟨place, found, key, there, looked⟩
    rcases g.hasVariable symbol ⟨place, found, key, (get place).symm.trans there, looked⟩ with
      has | ⟨here, written⟩ | ⟨region, mem, there, written⟩
    · rcases h.hasVariable symbol has with has | here | ⟨region, mem, -⟩
      · exact .inl has
      · exact .inr (.inl here)
      · cases mem
    · refine .inr (.inr ⟨_, List.mem_cons_self, ?_, fun type mem => listed (written type mem)⟩)
      exact (recorded _).trans ((if_pos rfl).trans here.symm)
    · exact .inr (.inr ⟨region, List.mem_cons_of_mem _ mem, kept _ _ there, written⟩)
  · rintro symbol ⟨place, found, key, there, looked⟩
    rcases g.hasFunction symbol ⟨place, found, key, (get place).symm.trans there, looked⟩ with
      has | waits | ⟨region, mem, there, signed⟩
    · rcases h.hasFunction symbol has with has | waits | ⟨region, mem, -⟩
      · exact .inl has
      · refine .inr (.inr ⟨_, List.mem_cons_self, ?_, (signs symbol waits).2⟩)
        exact (recorded _).trans ((if_pos rfl).trans (congrArg some (signs symbol waits).1.symm))
      · cases mem
    · cases waits
    · exact .inr (.inr ⟨region, List.mem_cons_of_mem _ mem, kept _ _ there, signed⟩)

/-- Work inside a function counts as work around it. -/
lemma Collects.insideFunction {collection : Collection}
    (h : Collects outer { s with functionDepth := s.functionDepth + 1 } t collection) :
    Collects outer s { t with functionDepth := t.functionDepth - 1 } collection where
  frame := by
    refine ⟨h.frame.active, ?_, h.frame.returnTypes⟩
    show t.functionDepth - 1 = s.functionDepth
    rw [h.frame.functionDepth]
    rfl
  registers := ⟨h.registers.types, h.registers.defined⟩
  scopes := h.scopes
  oldScopes := h.oldScopes
  closed := h.closed
  introduced := h.introduced
  inside := h.inside
  found := h.found
  hasVariable := h.hasVariable
  hasFunction := h.hasFunction

/-- Recording the scope of a node. -/
lemma close_yields {node : NodeId} {own : ScopeId} {post : Unit → State → Prop}
    (h : ∀ table, s.scopes.close node own = .ok table →
      post () { s with active := s.active.tail, scopes := table }) :
    Yields (do leave; close node own) s post := by
  refine .bind (.lift ?_)
  show Yields (close node own) { s with active := s.active.tail } post
  exact .bind (.ask fun table closed => .changed (h table closed))

/-! ## Trees -/

end Analysis

/-- What a statement adds to what is collected. -/
def Statement.collection (nested : Bool) (around : Layer) (statement : Statement) : Collection :=
  { introductions := statement.introductions nested
    writes := statement.writes
    pending := []
    forbidden := statement.forbidden nested
    origins := (statement.regions nested around).flatMap Region.origins
    regions := statement.regions nested around }

/-- What some statements add to what is collected. -/
def statementCollection (nested : Bool) (around : Layer) (statements : List Statement) : Collection :=
  { introductions := statements.flatMap (Statement.introductions nested)
    writes := statements.flatMap Statement.writes
    pending := []
    forbidden := statements.flatMap (Statement.forbidden nested)
    origins := (statementRegions nested around statements).flatMap Region.origins
    regions := statementRegions nested around statements }

lemma statementCollection_cons (nested : Bool) (around : Layer) (statement : Statement)
    (rest : List Statement) : statement.collection nested around ++ statementCollection nested around rest =
      statementCollection nested around (statement :: rest) := by
  show Collection.append _ _ = _
  simp [Collection.append, Statement.collection, statementCollection, statementRegions]

/-- A statement that only has regions. -/
lemma Statement.collection_of_regions {nested : Bool} {around : Layer} {statement : Statement}
    (introductions : statement.introductions nested = []) (writes : statement.writes = [])
    (forbidden : statement.forbidden nested = []) :
    .ofRegions (statement.regions nested around) = statement.collection nested around := by
  rw [Statement.collection, introductions, writes, forbidden, Collection.ofRegions]

/-- What a function adds to what is collected. -/
def FunctionDef.collection (around : Layer) (definition : FunctionDef) : Collection :=
  { Collection.ofRegions (definition.regions around) with introductions := [definition.introduction] }

/-- What a type adds to what is collected. -/
def TypeDef.collection (around : Layer) (definition : TypeDef) : Collection :=
  { Collection.ofRegions (definition.regions around) with introductions := [definition.introduction] }

/-- What some functions add to what is collected. -/
def functionCollection (around : Layer) (definitions : List FunctionDef) : Collection :=
  { Collection.ofRegions (functionRegions around definitions) with
    introductions := definitions.map FunctionDef.introduction }

/-- Introductions of other names than types. -/
lemma filterMap_asType_map {α : Type} {introduction : α → Introduction}
    (plain : ∀ one, (introduction one).asType = none) (list : List α) :
    (list.map introduction).filterMap Introduction.asType = [] := by
  simp [List.filterMap_map, plain]

/-- The types that are registered for a function are its type parameters. -/
lemma FunctionDef.origins_region (around : Layer) (id : NodeId) (name : Span)
    (typeParameters : Option (List Span)) (parameters : List Parameter) (returns : Option TypeRef)
    (body : Block) (keyword : Span) :
    (FunctionDef.region around ⟨id, name, typeParameters, parameters, returns, body, keyword⟩).origins =
      ((typeParameterIntroductions id 0 (typeParameters.getD [])).filterMap Introduction.asType).map
        Prod.snd := by
  show ((typeParameterIntroductions id 0 (typeParameters.getD []) ++ _).filterMap _).map _ = _
  rw [List.filterMap_append, filterMap_asType_map (fun _ => rfl), List.append_nil]

/-- The types that are registered for a type are itself and its type parameters. -/
lemma TypeDef.origins_region (around : Layer) (id : NodeId) (name : Span)
    (typeParameters : Option (List Span)) (fields : List Declaration) (methods : List FunctionDef)
    (keyword : Span) (binding : Option TypeId) :
    (TypeDef.region around ⟨id, name, typeParameters, fields, methods, keyword, binding⟩).origins =
      .user id name.content :: ((typeParameterIntroductions id 0 (typeParameters.getD [])).filterMap
        Introduction.asType).map Prod.snd := by
  show Origin.user id name.content ::
    ((typeParameterIntroductions id 0 (typeParameters.getD []) ++ (_ ++ _)).filterMap _).map _ = _
  rw [List.filterMap_append, List.filterMap_append, filterMap_asType_map (fun _ => rfl),
    filterMap_asType_map (by rintro ⟨⟩; rfl), List.append_nil, List.append_nil]

lemma functionCollection_cons (around : Layer) (definition : FunctionDef) (rest : List FunctionDef) :
    definition.collection around ++ functionCollection around rest =
      functionCollection around (definition :: rest) := by
  show Collection.append _ _ = _
  simp [Collection.append, Collection.ofRegions, FunctionDef.collection, functionCollection, functionRegions]

namespace Analysis

mutual

/-- Declaring a block collects its regions. -/
lemma declareBlock_collects : ∀ (block : Block) {s : State} {outer : Option ScopeId} {nested : Bool}
    (around : Layer), s.active.head? = outer → decide (0 < s.functionDepth) = nested →
    Yields (declareBlock block) s fun _ t =>
      Collects outer s t (.ofRegions (block.regions nested around))
  | ⟨id, kind, statements, span⟩, s, outer, nested, around, innermost, depth => by
    rw [declareBlock]
    refine .bind (.get (.bind (.lift ?_)))
    show Yields _ (s.opened s.active.head?) _
    refine .bind (.lift (.changed (.bind ?_)))
    let region := Block.region nested around ⟨id, kind, statements, span⟩
    refine (declareStatements_collect
      (s := { s.opened s.active.head? with active := ⟨s.scopes.size⟩ :: s.active }) statements
      region.place.layer rfl (size_opened s _ ▸ Nat.lt_succ_self _) depth).mono fun _ u inner => ?_
    refine close_yields fun table closed => ?_
    have opened := collects_opened s outer s.active.head?
    have empty : (s.opened s.active.head?).scopes.get? ⟨s.scopes.size⟩ = some (.empty s.active.head?) :=
      (ScopeTable.get?_openUnder _ _ _).trans (if_pos rfl)
    refine (Collects.owned region opened empty (Nat.le_refl _) inner closed
      (List.Subset.refl _) (by simp)).cast ?_
    rw [Block.regions]
    rfl

lemma declareStatements_collect : ∀ (list : List Statement) {s : State} {scope : ScopeId} {nested : Bool}
    (around : Layer), s.active.head? = some scope → scope.index < s.scopes.size →
    decide (0 < s.functionDepth) = nested →
    Yields (declareStatements list) s fun _ t =>
      Collects (some scope) s t (statementCollection nested around list)
  | [], s, scope, nested, around, innermost, below, depth => by
    rw [declareStatements]
    refine .pure ((Collects.refl _ s).cast ?_)
    rw [statementCollection, statementRegions]
    rfl
  | statement :: rest, s, scope, nested, around, innermost, below, depth => by
    rw [declareStatements]
    refine .bind ((declareStatement_collects statement around innermost below depth).mono fun _ t head => ?_)
    refine (declareStatements_collect rest around (head.frame.active ▸ innermost)
      (Nat.lt_of_lt_of_le below head.scopes) (head.frame.functionDepth ▸ depth)).mono fun _ u tail => ?_
    exact (head.trans tail).cast (statementCollection_cons nested around statement rest)

lemma declareStatement_collects : ∀ (statement : Statement) {s : State} {scope : ScopeId} {nested : Bool}
    (around : Layer), s.active.head? = some scope → scope.index < s.scopes.size →
    decide (0 < s.functionDepth) = nested →
    Yields (declareStatement statement) s fun _ t =>
      Collects (some scope) s t (statement.collection nested around)
  | .type definition, s, scope, nested, around, innermost, below, depth => by
    rw [declareStatement]
    refine .bind (.get ?_)
    cases nested with
    | true =>
      rw [if_pos (of_decide_eq_true depth)]
      refine .lift ((report_collects _ _ _).cast ?_)
      rw [Statement.collection, Statement.regions]
      rfl
    | false =>
      rw [if_neg (of_decide_eq_false depth)]
      refine (declareTypeDef_collects definition around innermost below).mono fun _ t collects =>
        collects.cast ?_
      rw [Statement.collection, Statement.regions]
      rfl
  | .function definition, s, scope, nested, around, innermost, below, depth => by
    rw [declareStatement]
    refine .bind (.get ?_)
    cases nested with
    | true =>
      rw [if_pos (of_decide_eq_true depth)]
      refine .lift ((report_collects _ _ _).cast ?_)
      rw [Statement.collection, Statement.regions]
      rfl
    | false =>
      rw [if_neg (of_decide_eq_false depth)]
      refine (declareFunctionDef_collects definition around innermost below).mono fun _ t collects =>
        collects.cast ?_
      rw [Statement.collection, Statement.regions]
      rfl
  | .variable declaration, s, scope, nested, around, innermost, below, depth => by
    rw [declareStatement]
    refine (declareVariable_collects innermost _ _ _).mono fun _ t collects => collects.cast ?_
    rw [Statement.collection, Statement.regions]
    rfl
  | .whileLoop keyword condition body, s, scope, nested, around, innermost, below, depth => by
    rw [declareStatement]
    refine (declareBlock_collects body around innermost depth).mono fun _ t collects => collects.cast ?_
    rw [← Statement.collection_of_regions rfl rfl rfl, Statement.regions]
  | .conditional conditional, s, scope, nested, around, innermost, below, depth => by
    rw [declareStatement]
    refine (declareConditional_collects conditional around innermost depth).mono fun _ t collects =>
      collects.cast ?_
    rw [← Statement.collection_of_regions rfl rfl rfl, Statement.regions]
  | .returning .., s, scope, nested, around, innermost, below, depth
  | .breaking _, s, scope, nested, around, innermost, below, depth
  | .continuing _, s, scope, nested, around, innermost, below, depth
  | .importing .., s, scope, nested, around, innermost, below, depth
  | .path .., s, scope, nested, around, innermost, below, depth
  | .expression _, s, scope, nested, around, innermost, below, depth => by
    rw [declareStatement]
    refine .pure ((Collects.refl _ s).cast ?_)
    rw [← Statement.collection_of_regions rfl rfl rfl, Statement.regions]
    rfl

lemma declareConditional_collects : ∀ (conditional : Conditional) {s : State} {scope : ScopeId}
    {nested : Bool} (around : Layer), s.active.head? = some scope →
    decide (0 < s.functionDepth) = nested →
    Yields (declareConditional conditional) s fun _ t =>
      Collects (some scope) s t (.ofRegions (conditional.regions nested around))
  | ⟨condition, body, otherwise, keyword⟩, s, scope, nested, around, innermost, depth => by
    rw [declareConditional, Conditional.regions]
    refine .bind ((declareBlock_collects body around innermost depth).mono fun _ t head => ?_)
    refine (declareOtherwise_collects otherwise around (head.frame.active ▸ innermost)
      (head.frame.functionDepth ▸ depth)).mono fun _ u tail => ?_
    exact (head.trans tail).cast (Collection.ofRegions_append _ _)

lemma declareOtherwise_collects : ∀ (otherwise : Otherwise) {s : State} {scope : ScopeId} {nested : Bool}
    (around : Layer), s.active.head? = some scope → decide (0 < s.functionDepth) = nested →
    Yields (declareOtherwise otherwise) s fun _ t =>
      Collects (some scope) s t (.ofRegions (otherwise.regions nested around))
  | .nothing, s, scope, nested, around, innermost, depth => by
    rw [declareOtherwise, Otherwise.regions]
    exact .pure (.refl _ s)
  | .conditional conditional, s, scope, nested, around, innermost, depth => by
    rw [declareOtherwise, Otherwise.regions]
    exact declareConditional_collects conditional around innermost depth
  | .block block, s, scope, nested, around, innermost, depth => by
    rw [declareOtherwise, Otherwise.regions]
    exact declareBlock_collects block around innermost depth

lemma declareFunctionDef_collects : ∀ (definition : FunctionDef) {s : State} {scope : ScopeId}
    (around : Layer), s.active.head? = some scope → scope.index < s.scopes.size →
    Yields (declareFunctionDef definition) s fun _ t =>
      Collects (some scope) s t (definition.collection around)
  | ⟨id, name, typeParameters, parameters, returns, body, keyword⟩, s, scope, around, innermost, below => by
    let region := FunctionDef.region around ⟨id, name, typeParameters, parameters, returns, body, keyword⟩
    rw [declareFunctionDef]
    refine .bind (.ask fun scope' answer => .bind (.lift ?_))
    obtain rfl := Except.ok.inj ((scope_of_head? innermost).symm.trans answer)
    show Yields _ (s.opened (some scope)) _
    refine .bind (.lift ((declareFunction_collects ⟨s.scopes.size⟩ id name _ parameters returns).mono
      fun _ t declared => .bind (.lift (.changed ?_))))
    show Yields _ { t with active := ⟨s.scopes.size⟩ :: t.active } _
    refine .bind (.lift ((declareTypeParameters_collect id _ 0).mono fun _ v types => ?_))
    refine .bind ((declareAll_collects (fun parameter around => declareVariable_collects around
      parameter.id parameter.name (some parameter.written)) (by rw [types.frame.active]; rfl) parameters).mono
      fun _ w list => ?_)
    have head := types.trans list
    refine .bind (.insideFunction ((declareBlock_collects
      (s := { w with functionDepth := w.functionDepth + 1 }) body region.place.layer
      (congrArg List.head? head.frame.active) (decide_eq_true (Nat.succ_pos _))).mono fun _ x block => ?_))
    have whole := (head.trans block.insideFunction).cast (Collection.contents ..)
    rw [List.append_nil] at whole
    refine close_yields fun table closed => ?_
    have empty : t.scopes.get? ⟨s.scopes.size⟩ = some (.empty (some scope)) := by
      refine (declared.oldScopes _ (size_opened s _ ▸ Nat.lt_succ_self _) ?_).trans
        ((ScopeTable.get?_openUnder _ _ _).trans (if_pos rfl))
      rintro ⟨⟩
      exact Nat.lt_irrefl _ below
    have writes : parameters.flatMap (fun parameter => ((some parameter.written).map (parameter.id, ·)).toList) =
        parameters.map fun parameter => (parameter.id, parameter.written) :=
      List.map_eq_flatMap.symm
    refine (Collects.owned region ((collects_opened s _ _).trans declared) empty (Nat.le_refl _)
      whole closed (writes ▸ List.subset_append_left _ _) ?_).cast ?_
    · intro symbol mem
      obtain rfl := List.mem_singleton.mp mem
      refine ⟨rfl, ⟨?_, ?_, ?_⟩⟩
      · simp [region, FunctionDef.region, Region.signature]
      · exact fun parameter mem => List.mem_append_left _ mem
      · rintro written ⟨⟩
        exact List.mem_append_right _ List.mem_cons_self
    · rw [FunctionDef.collection, FunctionDef.regions, Collection.ofRegions, List.flatMap_cons,
        FunctionDef.origins_region]
      rfl

lemma declareFunctionDefs_collect : ∀ (list : List FunctionDef) {s : State} {scope : ScopeId}
    (around : Layer), s.active.head? = some scope → scope.index < s.scopes.size →
    Yields (declareFunctionDefs list) s fun _ t =>
      Collects (some scope) s t (functionCollection around list)
  | [], s, scope, around, innermost, below => by
    rw [declareFunctionDefs]
    refine .pure ((Collects.refl _ s).cast ?_)
    rw [functionCollection, functionRegions]
    rfl
  | definition :: rest, s, scope, around, innermost, below => by
    rw [declareFunctionDefs]
    refine .bind ((declareFunctionDef_collects definition around innermost below).mono fun _ t head => ?_)
    refine (declareFunctionDefs_collect rest around (head.frame.active ▸ innermost)
      (Nat.lt_of_lt_of_le below head.scopes)).mono fun _ u tail => ?_
    exact (head.trans tail).cast (functionCollection_cons around definition rest)

lemma declareTypeDef_collects : ∀ (definition : TypeDef) {s : State} {scope : ScopeId}
    (around : Layer), s.active.head? = some scope → scope.index < s.scopes.size →
    Yields (declareTypeDef definition) s fun _ t =>
      Collects (some scope) s t (definition.collection around)
  | ⟨id, name, typeParameters, fields, methods, keyword, binding⟩, s, scope, around, innermost, below => by
    let region := TypeDef.region around ⟨id, name, typeParameters, fields, methods, keyword, binding⟩
    rw [declareTypeDef]
    refine .bind (.ask fun scope' answer => .bind (.lift ((declareType_collects id name _).mono
      fun _ t declared => ?_)))
    obtain rfl := Except.ok.inj ((scope_of_head? innermost).symm.trans answer)
    refine .bind (.lift ?_)
    show Yields _ (t.opened (some scope)) _
    refine .bind (.lift (.changed ?_))
    show Yields _ { t.opened (some scope) with active := ⟨t.scopes.size⟩ :: t.active } _
    refine .bind (.lift ((declareTypeParameters_collect id _ 0).mono fun _ v types => ?_))
    refine .bind ((declareAll_collects (fun field around => declareVariable_collects around
      field.id field.name field.written) (by rw [types.frame.active]; rfl) fields).mono
      fun _ w list => ?_)
    have head := types.trans list
    refine .bind ((declareFunctionDefs_collect methods region.place.layer
      (by rw [head.frame.active]; rfl) ?_).mono fun _ x functions => ?_)
    · exact Nat.lt_of_lt_of_le (size_opened t _ ▸ Nat.lt_succ_self _) head.scopes
    have whole := (head.trans functions).cast (Collection.contents ..)
    refine close_yields fun table closed => ?_
    have empty : (t.opened (some scope)).scopes.get? ⟨t.scopes.size⟩ = some (.empty (some scope)) :=
      (ScopeTable.get?_openUnder _ _ _).trans (if_pos rfl)
    refine (Collects.owned region (declared.trans (collects_opened t _ _)) empty declared.scopes
      whole closed (List.Subset.refl _) (by rintro symbol ⟨⟩)).cast ?_
    simp only [TypeDef.collection, TypeDef.regions, Collection.ofRegions, List.flatMap_cons,
      TypeDef.origins_region]
    rfl

end

end Analysis

end ArrowScript
