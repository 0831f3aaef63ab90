import ArrowScript.Proofs.Analysis.Succeeds
import ArrowScript.Proofs.Analysis.Tables

/-!
# What declaring does

`Declares` says what declaring some nodes did: it added declarations to the scope around them, opened
scopes of its own and recorded them for the nodes, and registered types. What it left behind in its own
scopes lasts while later declarations go on around it (`Declares.trans`), so it is stated for every state
in which it has lasted. A node with a scope of its own opens it, declares its contents in it and records it
(`Declares.owned`).
-/

namespace ArrowScript.Analysis

variable {P : Piece → Prop} {s t u : State} {outer : Option ScopeId}

/-! ## Frames -/

/-- What declaring and visiting leave as it is, apart from what they are about. -/
structure SameFrame (s t : State) : Prop where
  active : t.active = s.active
  functionDepth : t.functionDepth = s.functionDepth
  returnTypes : t.returnTypes = s.returnTypes

namespace SameFrame

/-- Nothing happened. -/
lemma refl (s : State) : SameFrame s s :=
  ⟨rfl, rfl, rfl⟩

/-- One thing happened after the other. -/
lemma trans (h : SameFrame s t) (g : SameFrame t u) : SameFrame s u :=
  ⟨g.active.trans h.active, g.functionDepth.trans h.functionDepth,
    g.returnTypes.trans h.returnTypes⟩

end SameFrame

/-- The innermost scope is the first of the active ones. -/
lemma scope_of_head? {scope : ScopeId} (around : s.active.head? = some scope) : s.scope = .ok scope := by
  unfold State.scope
  cases active : s.active with
  | nil =>
    rw [active] at around
    cases around
  | cons first rest =>
    rw [active] at around
    rw [Option.some.inj around]

/-! ## Lasting effects -/

/-- What led from one state to another has lasted: the scopes opened, the scopes recorded for the nodes
and the types registered on the way are the same. -/
structure Lasts (s t : State) (nodes : List NodeId) (later : State) : Prop where
  scopes : ∀ scope, s.scopes.size ≤ scope.index → scope.index < t.scopes.size →
    later.scopes.get? scope = t.scopes.get? scope
  closed : ∀ node ∈ nodes, later.scopes.scopeOf? node = t.scopes.scopeOf? node
  types : ∀ type, s.types.size ≤ type.index → type.index < t.types.size →
    later.types.info? type = t.types.info? type

/-- What led to a state has lasted there. -/
lemma Lasts.refl (s t : State) (nodes : List NodeId) : Lasts s t nodes t :=
  ⟨fun _ _ _ => rfl, fun _ _ => rfl, fun _ _ _ => rfl⟩

/-- The scope recorded for a node stands under another and agrees with the owner. -/
structure Stands (P : Piece → Prop) (table : ScopeTable) (outer : Option ScopeId) (node : NodeId)
    (owner : Owner) (scope : ScopeId) : Prop where
  closed : table.scopeOf? node = some scope
  below : ∀ around ∈ outer, around.index < scope.index
  found : ∃ found, table.get? scope = some found ∧ found.parent = outer ∧ Matches P found owner

/-- A type has the members of an owner, or has no members. -/
def Housed (P : Piece → Prop) (later : State) (type : TypeId) : Option Owner → Prop
  | none => later.types.userNode? type = none
  | some owner => ∃ node outer scope, later.types.userNode? type = some node ∧
      Stands P later.scopes outer node owner scope

/-- The types that are declared in scopes are registered, and so are the elements of arrays. -/
structure TypesKnown (s : State) : Prop where
  symbols : ∀ scope found, s.scopes.get? scope = some found → ∀ key symbol,
    found.typeTable.lookup key = some symbol → symbol.type.index < s.types.size
  elements : ∀ type element, s.types.element? type = some element → element.index < s.types.size

/-- The same in a state with the same types and scopes. -/
lemma TypesKnown.same (known : TypesKnown s) (types : t.types = s.types) (scopes : t.scopes = s.scopes) :
    TypesKnown t :=
  ⟨by rw [types, scopes]; exact known.symbols, by rw [types]; exact known.elements⟩

/-- What declaring some nodes in the scope around them did. -/
structure Declares (P : Piece → Prop) (outer : Option ScopeId) (s t : State) (nodes : List NodeId)
    (owner : Owner) (registered : List (Option Owner)) (laid : State → Prop) : Prop where
  frame : SameFrame s t
  typesFound : (t.inferredTypes, t.declaredTypes) = (s.inferredTypes, s.declaredTypes)
  oldTypes : ∀ type, type.index < s.types.size → t.types.info? type = s.types.info? type
  types : t.types.size = s.types.size + registered.length
  scopes : s.scopes.size ≤ t.scopes.size
  oldScopes : ∀ scope, scope.index < s.scopes.size → some scope ≠ outer →
    t.scopes.get? scope = s.scopes.get? scope
  added : ∀ scope ∈ outer, ∀ before, s.scopes.get? scope = some before →
    ∃ after, t.scopes.get? scope = some after ∧ Adds before after owner
  closed : ∀ node, node ∉ nodes → t.scopes.scopeOf? node = s.scopes.scopeOf? node
  known : TypesKnown s → TypesKnown t
  laid : ∀ later, Lasts s t nodes later → laid later
  housed : ∀ later, Lasts s t nodes later → ∀ position members, registered[position]? = some members →
    Housed P later ⟨s.types.size + position⟩ members

namespace Declares

variable {nodes others : List NodeId} {first second : Owner} {registered more : List (Option Owner)}
  {laid laid' : State → Prop}

/-- Nothing is declared. -/
lemma refl (s : State) : Declares P outer s s [] .empty [] fun _ => True where
  frame := .refl s
  typesFound := rfl
  oldTypes := fun _ _ => rfl
  types := rfl
  scopes := Nat.le_refl _
  oldScopes := fun _ _ _ => rfl
  added := fun _ _ before found => ⟨before, found, .refl before⟩
  closed := fun _ _ => rfl
  known := id
  laid := fun _ _ => trivial
  housed := by simp

/-- Nodes are declared one after the other. -/
lemma trans (h : Declares P outer s t nodes first registered laid)
    (g : Declares P outer t u others second more laid')
    (below : ∀ scope ∈ outer, scope.index < s.scopes.size) (disjoint : nodes.Disjoint others) :
    Declares P outer s u (nodes ++ others) (first ++ second) (registered ++ more)
      fun later => laid later ∧ laid' later := by
  -- the second part touches neither the scopes nor the records nor the types of the first
  have early : ∀ {later}, Lasts s u (nodes ++ others) later → Lasts s t nodes later := by
    intro later lasts
    refine ⟨fun scope low high => ?_, fun node mem => ?_, fun type low high => ?_⟩
    · rw [lasts.scopes scope low (Nat.lt_of_lt_of_le high g.scopes)]
      refine g.oldScopes scope high fun e => ?_
      exact Nat.not_lt.mpr low (below scope e.symm)
    · rw [lasts.closed node (List.mem_append_left _ mem)]
      exact g.closed node (disjoint mem)
    · rw [lasts.types type low (by have := g.types; omega)]
      exact g.oldTypes type high
  have late : ∀ {later}, Lasts s u (nodes ++ others) later → Lasts t u others later := by
    intro later lasts
    refine ⟨fun scope low high => ?_, fun node mem => ?_, fun type low high => ?_⟩
    · exact lasts.scopes scope (Nat.le_trans h.scopes low) high
    · exact lasts.closed node (List.mem_append_right _ mem)
    · exact lasts.types type (by have := h.types; omega) high
  refine
    { frame := h.frame.trans g.frame
      typesFound := g.typesFound.trans h.typesFound
      oldTypes := fun type old => ?_
      types := ?_
      scopes := Nat.le_trans h.scopes g.scopes
      oldScopes := fun scope old ne => ?_
      added := fun scope mem before found => ?_
      closed := fun node notMem => ?_
      known := g.known ∘ h.known
      laid := fun later lasts => ⟨h.laid later (early lasts), g.laid later (late lasts)⟩
      housed := fun later lasts position members found => ?_ }
  · rw [g.oldTypes type (by have := h.types; omega), h.oldTypes type old]
  · rw [g.types, h.types, List.length_append, Nat.add_assoc]
  · rw [g.oldScopes scope (Nat.lt_of_lt_of_le old h.scopes) ne, h.oldScopes scope old ne]
  · obtain ⟨middle, found, adds⟩ := h.added scope mem before found
    obtain ⟨after, found, adds'⟩ := g.added scope mem middle found
    exact ⟨after, found, adds.trans adds'⟩
  · rw [List.mem_append, not_or] at notMem
    rw [g.closed node notMem.2, h.closed node notMem.1]
  · rw [List.getElem?_append] at found
    split at found
    · exact h.housed later (early lasts) position members found
    · next beyond =>
      have place : s.types.size + position = t.types.size + (position - registered.length) := by
        have := h.types
        omega
      rw [place]
      exact g.housed later (late lasts) _ members found

/-- The same in other words. -/
lemma cast {nodes' : List NodeId} {owner : Owner} {all : List (Option Owner)}
    (h : Declares P outer s t nodes first registered laid)
    (subset : nodes ⊆ nodes') (owner_eq : first = owner) (all_eq : registered = all)
    (implies : ∀ later, laid later → laid' later) : Declares P outer s t nodes' owner all laid' := by
  subst owner_eq all_eq
  have lasts : ∀ {later}, Lasts s t nodes' later → Lasts s t nodes later :=
    fun lasts => ⟨lasts.scopes, fun node mem => lasts.closed node (subset mem), lasts.types⟩
  exact { h with
    closed := fun node notMem => h.closed node fun mem => notMem (subset mem)
    laid := fun later h' => implies later (h.laid later (lasts h'))
    housed := fun later h' => h.housed later (lasts h') }

/-- Work inside a function counts as work around it. -/
lemma insideFunction
    (h : Declares P outer { s with functionDepth := s.functionDepth + 1 } t nodes first registered laid) :
    Declares P outer s { t with functionDepth := t.functionDepth - 1 } nodes first registered laid where
  frame := by
    refine ⟨h.frame.active, ?_, h.frame.returnTypes⟩
    show t.functionDepth - 1 = s.functionDepth
    rw [h.frame.functionDepth]
    rfl
  typesFound := h.typesFound
  oldTypes := h.oldTypes
  types := h.types
  scopes := h.scopes
  oldScopes := h.oldScopes
  added := h.added
  closed := h.closed
  known := fun known => (h.known (known.same rfl rfl)).same rfl rfl
  laid := fun later lasts => h.laid later ⟨lasts.scopes, lasts.closed, lasts.types⟩
  housed := fun later lasts => h.housed later ⟨lasts.scopes, lasts.closed, lasts.types⟩

end Declares

/-! ## Single declarations -/

/-- Something was declared in the scope around, and some types were registered. -/
structure Touches (outer : Option ScopeId) (s t : State) (owner : Owner) (count : Nat) : Prop where
  frame : SameFrame s t
  typesFound : (t.inferredTypes, t.declaredTypes) = (s.inferredTypes, s.declaredTypes)
  oldTypes : ∀ type, type.index < s.types.size → t.types.info? type = s.types.info? type
  types : t.types.size = s.types.size + count
  scopes : t.scopes.size = s.scopes.size
  oldScopes : ∀ scope, some scope ≠ outer → t.scopes.get? scope = s.scopes.get? scope
  added : ∀ scope ∈ outer, ∀ before, s.scopes.get? scope = some before →
    ∃ after, t.scopes.get? scope = some after ∧ Adds before after owner
  closed : ∀ node, t.scopes.scopeOf? node = s.scopes.scopeOf? node
  known : TypesKnown s → TypesKnown t

/-- Nothing was declared. -/
lemma Touches.refl (s : State) : Touches outer s s .empty 0 where
  frame := .refl s
  typesFound := rfl
  oldTypes := fun _ _ => rfl
  types := rfl
  scopes := rfl
  oldScopes := fun _ _ => rfl
  added := fun _ _ before found => ⟨before, found, .refl before⟩
  closed := fun _ => rfl
  known := id

/-- Declaring a single thing without a scope of its own. -/
lemma Touches.declares {owner : Owner} (registered : List (Option Owner))
    (h : Touches outer s t owner registered.length)
    (housed : ∀ later, Lasts s t [] later → ∀ position members, registered[position]? = some members →
      Housed P later ⟨s.types.size + position⟩ members) :
    Declares P outer s t [] owner registered fun _ => True where
  frame := h.frame
  typesFound := h.typesFound
  oldTypes := h.oldTypes
  types := h.types
  scopes := Nat.le_of_eq h.scopes.symm
  oldScopes := fun scope _ => h.oldScopes scope
  added := h.added
  closed := fun node _ => h.closed node
  known := h.known
  laid := fun _ _ => trivial
  housed := housed

/-- A scope with a declaration added, unless its key is taken. -/
def Scope.adding {σ : Type} [Symbol σ] (key : String) (symbol : σ) (scope : Scope) : Scope :=
  match (Symbol.table scope : List (String × σ)).lookup key with
  | some _ => scope
  | none => Symbol.insert key symbol scope

section
variable {σ α : Type} {table : List (String × σ)} {key : String}

/-- Where a key is taken, adding under it makes no difference. -/
lemma lookup_taken {first : σ} (taken : table.lookup key = some first) (added : α) (view : σ → α)
    (other : String) :
    (table.lookup other).map view = ((table.lookup other).map view).or ([(key, added)].lookup other) := by
  by_cases e : other = key
  · simp [e, taken]
  · have apart : (other == key) = false := by simpa using e
    simp [List.lookup_cons, apart]

/-- Where a key is free, what is added under it is found. -/
lemma lookup_added (free : table.lookup key = none) (symbol : σ) (view : σ → α) (other : String) :
    (((key, symbol) :: table).lookup other).map view =
      ((table.lookup other).map view).or ([(key, view symbol)].lookup other) := by
  by_cases e : other = key
  · simp [e, free]
  · have apart : (other == key) = false := by simpa using e
    simp [List.lookup_cons, apart]

end

variable {σ : Type} [Symbol σ]

/-- A declaration changes at most the scope that it is made in. -/
lemma get?_declare (table : ScopeTable) (scope other : ScopeId) (key : String) (symbol : σ) :
    (table.declare scope key symbol).2.get? other =
      if other = scope then (table.get? scope).map (Scope.adding key symbol)
      else table.get? other := by
  obtain ⟨index⟩ := scope
  obtain ⟨place⟩ := other
  unfold ScopeTable.declare ScopeTable.declared?
  split
  · next first found =>
    obtain ⟨before, get, found⟩ := Option.bind_eq_some_iff.mp found
    split
    · next e => rw [e, get, Option.map_some, Scope.adding, found]
    · rfl
  · next absent =>
    simp only [ScopeTable.get?, Array.getElem?_modify]
    split
    · next e =>
      rw [if_pos (by rw [e]), e]
      cases get : table.scopes[place]? with
      | none => rfl
      | some before =>
        rw [ScopeTable.get?, e, get, Option.bind_some] at absent
        rw [Option.map_some, Option.map_some, Scope.adding, absent]
    · next ne => rw [if_neg fun e => ne (ScopeId.mk.inj e).symm]

/-- Making a declaration opens no scope. -/
lemma size_declare (table : ScopeTable) (scope : ScopeId) (key : String) (symbol : σ) :
    (table.declare scope key symbol).2.size = table.size := by
  unfold ScopeTable.declare ScopeTable.size
  split
  · rfl
  · exact Array.size_modify

/-- Making a declaration records no scope. -/
lemma closed_declare (table : ScopeTable) (scope : ScopeId) (key : String) (symbol : σ) :
    (table.declare scope key symbol).2.closed = table.closed := by
  unfold ScopeTable.declare
  split <;> rfl

/-- A key that is taken is reported. -/
lemma reportTaken_leads {what : Declared} {name : Span} {first? : Option Span} {post : Unit → State → Prop}
    (taken : ∀ first, first? = some first →
      post () { s with findings := s.findings.push ⟨.alreadyDefined what name.content first, name⟩ })
    (free : first? = none → post () s) :
    Leads (do if let some first := first? then report (.alreadyDefined what name.content first) name) s post := by
  cases first? with
  | some first => exact taken first rfl
  | none => exact free rfl

/-- A declaration is made in its scope, and reported if its key is taken. -/
lemma declare_leads {what : Declared} {scope : ScopeId} {key : String} {name : Span} {symbol : σ}
    {post : Unit → State → Prop}
    (taken : ∀ first, (s.scopes.declare scope key symbol).1 = some first → post ()
      { s with
        scopes := (s.scopes.declare scope key symbol).2
        findings := s.findings.push ⟨.alreadyDefined what name.content first, name⟩ })
    (free : (s.scopes.declare scope key symbol).1 = none →
      post () { s with scopes := (s.scopes.declare scope key symbol).2 }) :
    Leads (declare what scope key name symbol) s post := by
  unfold declare
  exact Leads.bind (reportTaken_leads taken free)

/-- Making a declaration touches only the scope that it is made in. -/
lemma touches_declare {what : Declared} {scope : ScopeId} {key : String} {name : Span} {symbol : σ}
    {owner : Owner}
    (adds : ∀ before, Adds before (Scope.adding key symbol before) owner)
    (fresh : ∀ declaration ∈ owner.typeList, declaration.2.index < s.types.size) :
    Leads (declare what scope key name symbol) s fun _ t => Touches (some scope) s t owner 0 := by
  have touches : ∀ findings, Touches (some scope) s
      { s with scopes := (s.scopes.declare scope key symbol).2, findings } owner 0 := fun findings =>
    { frame := ⟨rfl, rfl, rfl⟩
      typesFound := rfl
      oldTypes := fun _ _ => rfl
      types := rfl
      scopes := size_declare _ _ _ _
      oldScopes := fun other ne => by
        rw [get?_declare, if_neg fun e => ne (congrArg some e)]
      added := fun other mem before found => by
        obtain rfl := Option.some.inj mem
        refine ⟨_, ?_, adds before⟩
        rw [get?_declare, if_pos rfl, found, Option.map_some]
      closed := fun node => by
        unfold ScopeTable.scopeOf?
        rw [closed_declare]
      known := fun known => by
        refine ⟨fun other found get name symbol' looked => ?_, known.elements⟩
        rw [get?_declare] at get
        split at get
        · obtain ⟨before, there, rfl⟩ := Option.map_eq_some_iff.mp get
          exact (adds before).typesKnown fresh (known.symbols _ before there) name symbol' looked
        · exact known.symbols other found get name symbol' looked }
  exact declare_leads (fun _ _ => touches _) (fun _ => touches _)

/-- Adding a variable. -/
lemma adds_variable (before : Scope) (name : Span) (symbol : VariableSymbol) :
    Adds before (Scope.adding name.content symbol before)
      (.ofVariable name symbol.node symbol.written.isSome) := by
  unfold Scope.adding
  split
  · next first taken =>
    exact ⟨rfl, lookup_taken taken _ _, fun _ => Option.or_none.symm, fun _ => Option.or_none.symm⟩
  · next free =>
    exact ⟨rfl, lookup_added free _ _, fun _ => Option.or_none.symm, fun _ => Option.or_none.symm⟩

/-- Adding a function. -/
lemma adds_function (before : Scope) (name : Span) (arity : Nat) (symbol : FunctionSymbol) :
    Adds before (Scope.adding (mangle name.content arity) symbol before)
      (.ofFunction name arity symbol.node symbol.returns.isSome) := by
  unfold Scope.adding
  split
  · next first taken =>
    exact ⟨rfl, fun _ => Option.or_none.symm, lookup_taken taken _ _, fun _ => Option.or_none.symm⟩
  · next free =>
    exact ⟨rfl, fun _ => Option.or_none.symm, lookup_added free _ _, fun _ => Option.or_none.symm⟩

/-- Adding a type. -/
lemma adds_type (before : Scope) (name : Span) (arity : Nat) (symbol : TypeSymbol) :
    Adds before (Scope.adding (mangle name.content arity) symbol before)
      (.ofType name arity symbol.type) := by
  unfold Scope.adding
  split
  · next first taken =>
    exact ⟨rfl, fun _ => Option.or_none.symm, fun _ => Option.or_none.symm, lookup_taken taken _ _⟩
  · next free =>
    exact ⟨rfl, fun _ => Option.or_none.symm, fun _ => Option.or_none.symm, lookup_added free _ _⟩

/-- Declaring what was registered just before. -/
lemma Touches.registered {info : TypeInfo} {defined : List (NodeId × TypeId)} {owner : Owner}
    (h : Touches outer { s with types := (s.types.register info).2, definedTypes := defined } t owner 0)
    (plain : ∀ element, info.kind ≠ .array element) :
    Touches outer s t owner 1 ∧ t.types.info? ⟨s.types.size⟩ = some info := by
  have size : (s.types.register info).2.size = s.types.size + 1 := TypeRegistry.size_register _ _
  have info? := TypeRegistry.info?_register s.types info
  refine ⟨{ frame := ⟨h.frame.active, h.frame.functionDepth, h.frame.returnTypes⟩
            typesFound := h.typesFound
            oldTypes := fun type old => ?_
            types := ?_
            scopes := h.scopes
            oldScopes := h.oldScopes
            added := h.added
            closed := h.closed
            known := fun known => h.known ⟨fun scope found get key symbol looked => ?_,
              fun type element array => ?_⟩ }, ?_⟩
  · rw [h.oldTypes type (by show _ < (s.types.register info).2.size; omega)]
    refine (info? _).trans (if_neg ?_)
    rintro rfl
    exact absurd old (Nat.lt_irrefl _)
  · exact h.types.trans size
  · have old := known.symbols scope found get key symbol looked
    show symbol.type.index < (s.types.register info).2.size
    omega
  · have old : element.index < s.types.size := by
      refine known.elements type element ?_
      have array : (s.types.register info).2.element? type = some element := array
      unfold TypeRegistry.element? TypeRegistry.kind? at array ⊢
      rw [info?] at array
      -- The new type is no array, so it has no element to be known.
      by_cases last : type = (s.types.register info).1
      · rw [if_pos last, Option.map_some] at array
        split at array
        · next e => exact absurd (Option.some.inj e) (plain _)
        · cases array
      · rwa [if_neg last] at array
    show element.index < (s.types.register info).2.size
    omega
  · rw [h.oldTypes _ (by show s.types.size < (s.types.register info).2.size; omega)]
    exact (info? _).trans (if_pos rfl)

/-! ## Scopes of their own -/

/-- A scope was opened under another for a node; besides, something was declared in the outer scope. -/
structure Prepares (outer : Option ScopeId) (s t : State) (owner : Owner) (count : Nat) : Prop where
  frame : SameFrame s t
  typesFound : (t.inferredTypes, t.declaredTypes) = (s.inferredTypes, s.declaredTypes)
  oldTypes : ∀ type, type.index < s.types.size → t.types.info? type = s.types.info? type
  types : t.types.size = s.types.size + count
  scopes : t.scopes.size = s.scopes.size + 1
  own : t.scopes.get? ⟨s.scopes.size⟩ = some (.empty outer)
  oldScopes : ∀ scope, scope.index < s.scopes.size → some scope ≠ outer →
    t.scopes.get? scope = s.scopes.get? scope
  added : ∀ scope ∈ outer, ∀ before, s.scopes.get? scope = some before →
    ∃ after, t.scopes.get? scope = some after ∧ Adds before after owner
  closed : ∀ node, t.scopes.scopeOf? node = s.scopes.scopeOf? node
  known : TypesKnown s → TypesKnown t

/-- The state after opening a scope. -/
def State.opened (s : State) (outer : Option ScopeId) : State :=
  { s with scopes := (s.scopes.openUnder outer).2 }

/-- An opened scope takes the next place. -/
lemma size_opened (s : State) (outer : Option ScopeId) :
    (s.opened outer).scopes.size = s.scopes.size + 1 :=
  Array.size_push _

/-- Older scopes are not touched by opening one. -/
lemma get?_opened {scope : ScopeId} (old : scope.index < s.scopes.size) :
    (s.opened outer).scopes.get? scope = s.scopes.get? scope := by
  refine (ScopeTable.get?_openUnder _ _ _).trans (if_neg ?_)
  rintro rfl
  exact absurd old (Nat.lt_irrefl _)

/-- An opened scope declares no types. -/
lemma typesKnown_opened (known : TypesKnown s) : TypesKnown (s.opened outer) := by
  refine ⟨fun scope found get key symbol looked => ?_, known.elements⟩
  have get := (ScopeTable.get?_openUnder _ _ _).symm.trans get
  split at get
  · obtain rfl := Option.some.inj get
    cases looked
  · exact known.symbols scope found get key symbol looked

namespace Prepares

variable {owner : Owner} {count : Nat}

/-- Something is declared before the scope is opened. -/
lemma ofDeclaredFirst (h : Touches outer s t owner count)
    (below : ∀ scope ∈ outer, scope.index < s.scopes.size) :
    Prepares outer s (t.opened outer) owner count where
  frame := ⟨h.frame.active, h.frame.functionDepth, h.frame.returnTypes⟩
  typesFound := h.typesFound
  oldTypes := h.oldTypes
  types := h.types
  scopes := (size_opened t outer).trans (by rw [h.scopes])
  own := by
    rw [← h.scopes]
    exact (ScopeTable.get?_openUnder _ _ _).trans (if_pos rfl)
  oldScopes := fun scope old ne => by rw [get?_opened (h.scopes ▸ old), h.oldScopes scope ne]
  added := fun scope mem before found => by
    obtain ⟨after, found, adds⟩ := h.added scope mem before found
    exact ⟨after, (get?_opened (h.scopes ▸ below scope mem)).trans found, adds⟩
  closed := h.closed
  known := fun known => typesKnown_opened (h.known known)

/-- Something is declared after the scope is opened. -/
lemma ofOpenedFirst (h : Touches outer (s.opened outer) t owner count)
    (below : ∀ scope ∈ outer, scope.index < s.scopes.size) : Prepares outer s t owner count where
  frame := ⟨h.frame.active, h.frame.functionDepth, h.frame.returnTypes⟩
  typesFound := h.typesFound
  oldTypes := h.oldTypes
  types := h.types
  scopes := h.scopes.trans (size_opened s outer)
  own := by
    rw [h.oldScopes ⟨s.scopes.size⟩ fun e => Nat.lt_irrefl _ (below _ e.symm)]
    exact (ScopeTable.get?_openUnder _ _ _).trans (if_pos rfl)
  oldScopes := fun scope old ne => by rw [h.oldScopes scope ne, get?_opened old]
  added := fun scope mem before found =>
    h.added scope mem before ((get?_opened (below scope mem)).trans found)
  closed := h.closed
  known := fun known => h.known (typesKnown_opened known)

end Prepares

/-- A node whose contents were declared in a scope of its own, and the scope recorded for it. -/
lemma Declares.owned {node : NodeId} {nodes : List NodeId} {declared inside : Owner}
    {first registered : List (Option Owner)} {laid : State → Prop} {table : ScopeTable}
    (prepares : Prepares outer s t declared first.length)
    (h : Declares P (some ⟨s.scopes.size⟩) { t with active := ⟨s.scopes.size⟩ :: t.active } u nodes
      inside registered laid)
    (closed : u.scopes.close node ⟨s.scopes.size⟩ = .ok table) (fresh : node ∉ nodes)
    (named : inside.Named P) (below : ∀ scope ∈ outer, scope.index < s.scopes.size)
    (housed : ∀ later, Stands P later.scopes outer node inside ⟨s.scopes.size⟩ →
      (∀ type, s.types.size ≤ type.index → type.index < t.types.size →
        later.types.info? type = t.types.info? type) →
      ∀ position members, first[position]? = some members →
        Housed P later ⟨s.types.size + position⟩ members) :
    Declares P outer s { u with active := u.active.tail, scopes := table } (node :: nodes) declared
      (first ++ registered)
      fun later => Stands P later.scopes outer node inside ⟨s.scopes.size⟩ ∧ laid later := by
  have recorded := ScopeTable.scopeOf?_of_close closed
  have scopes : table.scopes = u.scopes.scopes := by
    unfold ScopeTable.close at closed
    split at closed
    · cases closed
    · cases closed
      rfl
  have get (scope : ScopeId) : table.get? scope = u.scopes.get? scope := by
    rw [ScopeTable.get?, ScopeTable.get?, scopes]
  have size : table.size = u.scopes.size := by rw [ScopeTable.size, ScopeTable.size, scopes]
  -- The scope of the node was there before its contents, so recording it opens nothing.
  have grown : s.scopes.size + 1 ≤ u.scopes.size := prepares.scopes ▸ h.scopes
  obtain ⟨after, found, adds⟩ := h.added _ rfl _ prepares.own
  -- what the contents left behind is not touched by recording the scope
  have inner : ∀ {later}, Lasts s { u with active := u.active.tail, scopes := table } (node :: nodes)
      later → Lasts { t with active := ⟨s.scopes.size⟩ :: t.active } u nodes later := by
    intro later lasts
    refine ⟨fun scope low high => ?_, fun other mem => ?_, fun type low high => ?_⟩
    · rw [← get]
      refine lasts.scopes scope (Nat.le_trans ?_ low) (size ▸ high)
      exact Nat.le_trans (Nat.le_succ _) (Nat.le_of_eq prepares.scopes.symm)
    · rw [lasts.closed other (List.mem_cons_of_mem _ mem)]
      refine (recorded other).trans (if_neg ?_)
      rintro rfl
      exact fresh mem
    · exact lasts.types type
        (Nat.le_trans (prepares.types ▸ Nat.le_add_right _ _) low) high
  have stands : ∀ {later}, Lasts s { u with active := u.active.tail, scopes := table }
      (node :: nodes) later → Stands P later.scopes outer node inside ⟨s.scopes.size⟩ := by
    intro later lasts
    refine ⟨?_, below, after, ?_, ?_, adds.agrees named⟩
    · exact (lasts.closed node List.mem_cons_self).trans ((recorded node).trans (if_pos rfl))
    · refine (lasts.scopes ⟨s.scopes.size⟩ (Nat.le_refl _) ?_).trans ((get _).trans found)
      show s.scopes.size < table.size
      omega
    · exact adds.parent
  refine
    { frame := ⟨?_, h.frame.functionDepth.trans prepares.frame.functionDepth,
        h.frame.returnTypes.trans prepares.frame.returnTypes⟩
      typesFound := h.typesFound.trans prepares.typesFound
      oldTypes := fun type old => ?_
      types := ?_
      scopes := ?_
      oldScopes := fun scope old ne => ?_
      added := fun scope mem before found => ?_
      closed := fun other notMem => ?_
      known := fun known =>
        have known := h.known ((prepares.known known).same rfl rfl)
        ⟨fun scope found get' => known.symbols scope found ((get scope).symm.trans get'),
          known.elements⟩
      laid := fun later lasts => ⟨stands lasts, h.laid later (inner lasts)⟩
      housed := fun later lasts position members found => ?_ }
  · show u.active.tail = s.active
    rw [h.frame.active]
    exact prepares.frame.active
  · refine (h.oldTypes type ?_).trans (prepares.oldTypes type old)
    exact Nat.lt_of_lt_of_le old (prepares.types ▸ Nat.le_add_right _ _)
  · refine h.types.trans ?_
    show t.types.size + _ = _
    rw [prepares.types, List.length_append, Nat.add_assoc]
  · show s.scopes.size ≤ table.size
    omega
  · refine (get scope).trans ((h.oldScopes scope ?_ ?_).trans (prepares.oldScopes scope old ne))
    · exact Nat.lt_of_lt_of_le old (prepares.scopes ▸ Nat.le_succ _)
    · rintro ⟨⟩
      exact Nat.lt_irrefl _ old
  · obtain ⟨after, found, adds⟩ := prepares.added scope mem before found
    refine ⟨after, (get scope).trans ((h.oldScopes scope ?_ ?_).trans found), adds⟩
    · exact Nat.lt_of_lt_of_le (below scope mem) (prepares.scopes ▸ Nat.le_succ _)
    · rintro ⟨⟩
      exact Nat.lt_irrefl _ (below _ mem)
  · rw [List.mem_cons, not_or] at notMem
    refine (recorded other).trans ((if_neg notMem.1).trans ?_)
    exact (h.closed other notMem.2).trans (prepares.closed other)
  · rw [List.getElem?_append] at found
    split at found
    · refine housed later (stands lasts) (fun type low high => ?_) position members found
      refine (lasts.types type low ?_).trans (h.oldTypes type high)
      exact Nat.lt_of_lt_of_le high (h.types ▸ Nat.le_add_right _ _)
    · next beyond =>
      have place : s.types.size + position = t.types.size + (position - first.length) := by
        have := prepares.types
        omega
      rw [place]
      exact h.housed later (inner lasts) _ members found

end ArrowScript.Analysis
