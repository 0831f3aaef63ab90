import ArrowScript.Proofs.Analysis.Declarations

/-!
# Scopes as nested maps

Scopes are opened, recorded for nodes and filled with declarations in any order. What a table of scopes then shows is
read off the history of these calls: the first declaration of a kind and a name in a scope is the one that is found
there, a name is looked up outward along the scopes that scopes were opened under, and the first record of a node is
the one that stands (`scopes_are_nested_maps`). A history has the latest call first.
-/

namespace ArrowScript.Analysis

/-! ## Symbols of all kinds -/

/-- A symbol of any kind. -/
inductive AnySymbol
  | type (symbol : TypeSymbol)
  | function (symbol : FunctionSymbol)
  | variable (symbol : VariableSymbol)

/-- The kind of a symbol. -/
def AnySymbol.what : AnySymbol → Declared
  | .type _ => .type
  | .function _ => .function
  | .variable _ => .variable

/-- Where a symbol was declared. -/
def AnySymbol.span : AnySymbol → Span
  | .type symbol => symbol.span
  | .function symbol => symbol.span
  | .variable symbol => symbol.span

end ArrowScript.Analysis

namespace ArrowScript
open Analysis

/-- What a scope keeps of a kind under a name. -/
def Scope.held? (scope : Scope) (name : String) : Declared → Option AnySymbol
  | .type => (scope.typeTable.lookup name).map .type
  | .function => (scope.functionTable.lookup name).map .function
  | .variable => (scope.variableTable.lookup name).map .variable

namespace ScopeTable

/-- Declares a name as a symbol of any kind. -/
def declareAny (table : ScopeTable) (scope : ScopeId) (name : String) : AnySymbol → Option Span × ScopeTable
  | .type symbol => table.declare scope name symbol
  | .function symbol => table.declare scope name symbol
  | .variable symbol => table.declare scope name symbol

/-- Looks a name of any kind up. -/
def findAny (table : ScopeTable) (scope : ScopeId) (name : String) (reach : Reach) : Declared → Option AnySymbol
  | .type => (table.find? scope name reach).map .type
  | .function => (table.find? scope name reach).map .function
  | .variable => (table.find? scope name reach).map .variable

end ScopeTable

end ArrowScript

namespace ArrowScript.Analysis

/-! ## Histories -/

/-- What a table of scopes is asked to do. -/
inductive ScopeCall
  | openUnder (parent : Option ScopeId)
  | close (node : NodeId) (scope : ScopeId)
  | declare (scope : ScopeId) (name : String) (symbol : AnySymbol)

/-- The table after a call. A record that is refused leaves it as it is. -/
def ScopeCall.perform (table : ScopeTable) : ScopeCall → ScopeTable
  | openUnder parent => (table.openUnder parent).2
  | close node scope =>
    match table.close node scope with
    | .ok closed => closed
    | .error _ => table
  | declare scope name symbol => (table.declareAny scope name symbol).2

/-- A declaration in a scope. -/
structure ScopeEntry where
  scope : ScopeId
  name : String
  symbol : AnySymbol

/-- Whether a declaration is one of a kind and a name in a scope. -/
def ScopeEntry.isOf (entry : ScopeEntry) (scope : ScopeId) (name : String) (what : Declared) : Bool :=
  entry.scope = scope ∧ entry.name = name ∧ entry.symbol.what = what

namespace History

/-- The table after all calls. -/
def table : List ScopeCall → ScopeTable
  | [] => .empty
  | call :: earlier => call.perform (table earlier)

/-- What the scopes were opened under, in the order of their handles. -/
def parents : List ScopeCall → List (Option ScopeId)
  | .openUnder parent :: earlier => parents earlier ++ [parent]
  | .close .. :: earlier | .declare .. :: earlier => parents earlier
  | [] => []

/-- The declarations in scopes that were open by then, in their order. -/
def declarations : List ScopeCall → List ScopeEntry
  | .declare scope name symbol :: earlier =>
    declarations earlier ++ if scope.index < (parents earlier).length then [⟨scope, name, symbol⟩] else []
  | .openUnder _ :: earlier | .close .. :: earlier => declarations earlier
  | [] => []

/-- The records that were asked for, in their order. -/
def records : List ScopeCall → List (NodeId × ScopeId)
  | .close node scope :: earlier => records earlier ++ [(node, scope)]
  | .openUnder _ :: earlier | .declare .. :: earlier => records earlier
  | [] => []

/-- The first declaration of a kind and a name in a scope. -/
def first? (history : List ScopeCall) (scope : ScopeId) (name : String) (what : Declared) : Option AnySymbol :=
  ((declarations history).find? (·.isOf scope name what)).map ScopeEntry.symbol

/-- Scopes are opened under open scopes only. -/
def Admissible : List ScopeCall → Prop
  | .openUnder parent :: earlier =>
    (∀ around ∈ parent, around.index < (parents earlier).length) ∧ Admissible earlier
  | .close .. :: earlier | .declare .. :: earlier => Admissible earlier
  | [] => True

end History

/-- A scope and the scopes around it, from inside out. -/
inductive Outward (under : List (Option ScopeId)) : ScopeId → List ScopeId → Prop
  | outermost {scope : ScopeId} : under[scope.index]? = some none → Outward under scope [scope]
  | inner {scope around : ScopeId} {path : List ScopeId} : under[scope.index]? = some (some around) →
    Outward under around path → Outward under scope (scope :: path)

/-- One name is entered in one scope, and nothing else is different. -/
structure Enters (table later : ScopeTable) (entry : ScopeEntry) : Prop where
  here : ∀ scope name what, later.findAny scope name .here what =
    if entry.isOf scope name what then some entry.symbol else table.findAny scope name .here what
  parents : ∀ scope, (later.get? scope).map Scope.parent = (table.get? scope).map Scope.parent
  counts : ∀ scope, (later.get? scope).map Scope.size =
    (table.get? scope).map fun found => found.size + if scope = entry.scope then 1 else 0
  size : later.size = table.size
  closed : later.closed = table.closed

open History in
/-- A table does what its history tells. -/
structure NestedMaps (table : ScopeTable) (history : List ScopeCall) : Prop where
  handle : ∀ parent, (table.openUnder parent).1 = ⟨(parents history).length⟩
  parent : ∀ scope, (table.get? scope).map Scope.parent = (parents history)[scope.index]?
  older : ∀ (scope around : ScopeId), (parents history)[scope.index]? = some (some around) → around.index < scope.index
  /-- From every open scope there is exactly one way outward, and it comes to an end. -/
  path : ∀ scope : ScopeId, scope.index < (parents history).length → ∃ path, Outward (parents history) scope path
  unique : ∀ scope path path', Outward (parents history) scope path → Outward (parents history) scope path' →
    path = path'
  /-- A scope maps names to what was declared first, and inner scopes come before outer ones. -/
  here : ∀ scope name what, table.findAny scope name .here what = first? history scope name what
  outward : ∀ scope name what path, Outward (parents history) scope path →
    table.findAny scope name .outward what = path.findSome? fun around => first? history around name what
  step : ∀ scope name what, table.findAny scope name .outward what = (table.get? scope).bind fun found =>
    (found.held? name what).or (found.parent.bind fun around => table.findAny around name .outward what)
  /-- The search comes to its end before its steps are used up. -/
  terminates : ∀ {σ : Type} [Symbol σ] scope name steps, table.size ≤ steps →
    (table.findWithin name steps scope : Option σ) = table.find? scope name .outward
  unknown : ∀ (scope : ScopeId) name reach what, (parents history).length ≤ scope.index →
    table.findAny scope name reach what = none
  unheard : ∀ name, (∀ scope symbol, .declare scope name symbol ∉ history) → ∀ scope reach what,
    table.findAny scope name reach what = none
  /-- A declaration is refused when the name is taken, and else entered if the scope is there. -/
  taken : ∀ scope name symbol first, first? history scope name symbol.what = some first →
    table.declareAny scope name symbol = (some first.span, table)
  free : ∀ (scope : ScopeId) name symbol, scope.index < (parents history).length →
    first? history scope name symbol.what = none →
      (table.declareAny scope name symbol).1 = none ∧
        Enters table (table.declareAny scope name symbol).2 ⟨scope, name, symbol⟩
  lost : ∀ (scope : ScopeId) name symbol, (parents history).length ≤ scope.index →
    table.declareAny scope name symbol = (none, table)
  /-- A scope is recorded for a node once, and nothing else changes. -/
  closes : ∀ node scope, (∀ other, .close node other ∉ history) → ∃ later, table.close node scope = .ok later ∧
    later.scopes = table.scopes ∧
      ∀ other, later.scopeOf? other = if other = node then some scope else table.scopeOf? other
  closesOnce : ∀ node other, .close node other ∈ history → ∀ scope,
    table.close node scope = .error (.closedTwice node) ∧ (ScopeCall.close node scope).perform table = table
  recorded : ∀ node, table.scopeOf? node = (records history).lookup node
  reopened : ∀ node, table.reopen node =
    match (records history).lookup node with
    | some scope => .ok scope
    | none => .error (.neverClosed node)

variable {table later : ScopeTable} {history earlier : List ScopeCall} {scope other around : ScopeId}
  {name key : String} {symbol : AnySymbol} {what : Declared} {call : ScopeCall}
  {under : List (Option ScopeId)} {path : List ScopeId}

/-! ## Declaring -/

/-- A scope with a symbol of any kind added, unless its name is taken. -/
def addingAny (name : String) : AnySymbol → Scope → Scope
  | .type symbol => Scope.adding name symbol
  | .function symbol => Scope.adding name symbol
  | .variable symbol => Scope.adding name symbol

section
variable {σ : Type} [Symbol σ]

/-- What is added to a table is found there, unless something was found before. -/
lemma lookup_adding {symbol : σ} {found : Scope}
    (inserts : (Symbol.table (Symbol.insert name symbol found) : List (String × σ)) =
      (name, symbol) :: Symbol.table found) (key : String) :
    (Symbol.table (Scope.adding name symbol found) : List (String × σ)).lookup key =
      ((Symbol.table found).lookup key).or (if name = key then some symbol else none) := by
  unfold Scope.adding
  split
  · next first taken =>
    split
    · next e => rw [← e, taken, Option.some_or]
    · exact Option.or_none.symm
  · next free =>
    rw [inserts, List.lookup_cons]
    split
    · next e =>
      obtain rfl := eq_of_beq e
      rw [free, Option.none_or, if_pos rfl]
    · next e => rw [if_neg fun same => absurd same.symm (beq_eq_false_iff_ne.mp e), Option.or_none]

/-- Adding a symbol changes what is read off a scope only if inserting it does. -/
lemma read_adding {α : Type} (read : Scope → α) {symbol : σ} {found : Scope}
    (same : read (Symbol.insert name symbol found) = read found) :
    read (Scope.adding name symbol found) = read found := by
  unfold Scope.adding
  split
  · rfl
  · exact same

/-- A symbol makes a scope larger if its name is free. -/
lemma size_adding {symbol : σ} {found : Scope} (free : (Symbol.table found : List (String × σ)).lookup name = none)
    (larger : (Symbol.insert name symbol found).size = found.size + 1) :
    (Scope.adding name symbol found).size = found.size + 1 := by
  rw [Scope.adding, free]
  exact larger

end

/-- What is added is held, unless something was held before. -/
lemma held?_addingAny (name : String) (symbol : AnySymbol) (found : Scope) (key : String) (what : Declared) :
    (addingAny name symbol found).held? key what =
      (found.held? key what).or (if name = key ∧ symbol.what = what then some symbol else none) := by
  -- Of the three tables only that for the kind of the symbol changes.
  cases symbol <;> cases what
  case type.type | function.function | variable.variable =>
    refine (congrArg (Option.map _) (lookup_adding rfl key)).trans ?_
    rw [Option.map_or]
    by_cases e : name = key <;> simp only [e, AnySymbol.what, Scope.held?, Symbol.table, and_self, false_and, if_true,
      if_false, Option.map_some, Option.map_none]
  all_goals exact (read_adding (Scope.held? · key _) rfl).trans (by simp only [AnySymbol.what, reduceCtorEq, and_false,
    if_false, Option.or_none])

/-- Adding a symbol leaves a scope under its parent. -/
lemma parent_addingAny (name : String) (symbol : AnySymbol) (found : Scope) :
    (addingAny name symbol found).parent = found.parent := by
  cases symbol <;> exact read_adding Scope.parent rfl

/-- A symbol makes a scope larger if its name is free. -/
lemma size_addingAny {found : Scope} (free : found.held? name symbol.what = none) :
    (addingAny name symbol found).size = found.size + 1 := by
  cases symbol <;> refine size_adding (Option.map_eq_none_iff.mp free) ?_
  all_goals
    show List.length _ + List.length _ + List.length _ = _
    simp only [Symbol.insert, List.length_cons, Scope.size]
    omega

/-! ## Tables -/

lemma findAny_here (table : ScopeTable) (scope : ScopeId) (name : String) (what : Declared) :
    table.findAny scope name .here what = (table.get? scope).bind (·.held? name what) := by
  cases what <;> exact Option.map_bind

/-- A declaration changes at most the scope that it is made in. -/
lemma get?_declareAny (table : ScopeTable) (scope : ScopeId) (name : String) (symbol : AnySymbol) (other : ScopeId) :
    (table.declareAny scope name symbol).2.get? other =
      if other = scope then (table.get? scope).map (addingAny name symbol) else table.get? other := by
  cases symbol <;> exact get?_declare table scope other name _

/-- A declaration leaves all scopes under their parents. -/
lemma parent_declareAny (table : ScopeTable) (scope : ScopeId) (name : String) (symbol : AnySymbol) (other : ScopeId) :
    ((table.declareAny scope name symbol).2.get? other).map Scope.parent = (table.get? other).map Scope.parent := by
  rw [get?_declareAny]
  split
  · next e =>
    rw [e, Option.map_map]
    exact congrArg (Option.map · _) (funext (parent_addingAny name symbol))
  · rfl

lemma size_declareAny (table : ScopeTable) (scope : ScopeId) (name : String) (symbol : AnySymbol) :
    (table.declareAny scope name symbol).2.size = table.size := by
  cases symbol <;> exact size_declare table scope name _

lemma closed_declareAny (table : ScopeTable) (scope : ScopeId) (name : String) (symbol : AnySymbol) :
    (table.declareAny scope name symbol).2.closed = table.closed := by
  cases symbol <;> exact closed_declare table scope name _

section
variable {σ : Type} [Symbol σ]

lemma declare_taken {first : σ} (taken : table.declared? scope name = some first) (symbol : σ) :
    table.declare scope name symbol = (some (Symbol.span first), table) := by
  rw [ScopeTable.declare, taken]

lemma declare_free (free : (table.declared? scope name : Option σ) = none) (symbol : σ) :
    (table.declare scope name symbol).1 = none := by
  rw [ScopeTable.declare, free]

lemma declare_lost (lost : table.get? scope = none) (symbol : σ) :
    table.declare scope name symbol = (none, table) := by
  have free : (table.declared? scope name : Option σ) = none := by rw [ScopeTable.declared?, lost, Option.bind_none]
  have same : table.scopes.modify scope.index (Symbol.insert name symbol) = table.scopes := by
    refine Array.ext_getElem? fun index => ?_
    rw [Array.getElem?_modify]
    split
    · next e => rw [← e, show table.scopes[scope.index]? = none from lost, Option.map_none]
    · rfl
  rw [ScopeTable.declare, free, same]

end

/-- A declaration under a name that is taken changes nothing and tells the place of the first one. -/
lemma declareAny_taken {first : AnySymbol} (taken : table.findAny scope name .here symbol.what = some first) :
    table.declareAny scope name symbol = (some first.span, table) := by
  cases symbol <;> obtain ⟨found, there, rfl⟩ := Option.map_eq_some_iff.mp taken
  all_goals exact declare_taken there _

/-- A declaration under a name that is free is not refused. -/
lemma declareAny_free (free : table.findAny scope name .here symbol.what = none) :
    (table.declareAny scope name symbol).1 = none := by
  cases symbol <;> exact declare_free (Option.map_eq_none_iff.mp free) _

/-- A declaration in a scope that is not there changes nothing. -/
lemma declareAny_lost (lost : table.get? scope = none) (name : String) (symbol : AnySymbol) :
    table.declareAny scope name symbol = (none, table) := by
  cases symbol <;> exact declare_lost lost _

/-- What is found in a scope after a declaration: what was found before, or else what was declared. -/
lemma findAny_declareAny (table : ScopeTable) (scope : ScopeId) (name : String) (symbol : AnySymbol) (other : ScopeId)
    (key : String) (what : Declared) :
    (table.declareAny scope name symbol).2.findAny other key .here what = (table.findAny other key .here what).or
      (if scope.index < table.size ∧ ScopeEntry.isOf ⟨scope, name, symbol⟩ other key what then some symbol
      else none) := by
  rw [findAny_here, findAny_here, get?_declareAny]
  simp only [ScopeEntry.isOf, decide_eq_true_eq]
  split
  · next e =>
    subst e
    cases get : table.get? other with
    | none =>
      have unknown : ¬ other.index < table.size := Nat.not_lt.mpr (Array.getElem?_eq_none_iff.mp get)
      rw [if_neg fun h => unknown h.1]
      rfl
    | some found =>
      have known : other.index < table.size := (Array.getElem?_eq_some_iff.mp get).1
      simp only [Option.map_some, Option.bind_some, held?_addingAny, known, true_and]
  · next apart => rw [if_neg fun h => apart h.2.1.symm, Option.or_none]

/-- A declaration under a name that is free enters it in its scope, and does nothing else. -/
lemma enters_declareAny (known : scope.index < table.size) (free : table.findAny scope name .here symbol.what = none) :
    Enters table (table.declareAny scope name symbol).2 ⟨scope, name, symbol⟩ where
  here := fun other key what => by
    rw [findAny_declareAny]
    split
    · next h =>
      obtain ⟨rfl, rfl, rfl⟩ := of_decide_eq_true h.2
      rw [free, Option.none_or, if_pos h.2]
    · next h => rw [if_neg fun isOf => h ⟨known, isOf⟩, Option.or_none]
  parents := parent_declareAny table scope name symbol
  counts := fun other => by
    rw [get?_declareAny]
    split
    · next e =>
      subst e
      cases get : table.get? other with
      | none => rfl
      | some found =>
        rw [findAny_here, get, Option.bind_some] at free
        simp only [Option.map_some, size_addingAny free]
    · simp only [Nat.add_zero]
  size := size_declareAny table scope name symbol
  closed := closed_declareAny table scope name symbol

/-! ## What a history shows -/

open History

/-- What can be asked of a table is what the history tells. -/
structure Shows (history : List ScopeCall) (table : ScopeTable) : Prop where
  size : table.size = (parents history).length
  parent : ∀ scope, (table.get? scope).map Scope.parent = (parents history)[scope.index]?
  here : ∀ scope name what, table.findAny scope name .here what = first? history scope name what
  recorded : ∀ node, table.scopeOf? node = (records history).lookup node

/-- The first declaration stays the first one, and otherwise a new one may be. -/
lemma first?_declare (earlier : List ScopeCall) (scope : ScopeId) (name : String) (symbol : AnySymbol) (other : ScopeId)
    (key : String) (what : Declared) :
    first? (.declare scope name symbol :: earlier) other key what = (first? earlier other key what).or
      (if scope.index < (parents earlier).length ∧ ScopeEntry.isOf ⟨scope, name, symbol⟩ other key what then some symbol
        else none) := by
  rw [first?, declarations, List.find?_append, Option.map_or, ← first?]
  by_cases known : scope.index < (parents earlier).length
  · simp only [known, if_true, true_and, List.find?_singleton]
    split <;> rfl
  · simp only [known, if_false, false_and, List.find?_nil, Option.map_none]

/-- A node without a record is given one. -/
lemma close_fresh {node : NodeId} (fresh : table.scopeOf? node = none) (scope : ScopeId) :
    table.close node scope = .ok { table with closed := (node, scope) :: table.closed } := by
  rw [ScopeTable.close, fresh]

/-- A second record of a node is refused. -/
lemma close_recorded {node : NodeId} {first : ScopeId} (there : table.scopeOf? node = some first) (scope : ScopeId) :
    table.close node scope = .error (.closedTwice node) := by
  rw [ScopeTable.close, there]

namespace Shows

/-- At first there is nothing. -/
lemma empty : Shows [] .empty where
  size := rfl
  parent := fun _ => rfl
  here := fun scope name what => by cases what <;> rfl
  recorded := fun _ => rfl

/-- Opening a scope. -/
lemma openUnder (shows : Shows earlier table) (parent : Option ScopeId) :
    Shows (.openUnder parent :: earlier) (table.openUnder parent).2 where
  size := by
    rw [parents, List.length_append, ← shows.size]
    exact Array.size_push ..
  parent := fun scope => by
    rw [ScopeTable.get?_openUnder, parents, List.getElem?_append, ← shows.size]
    split
    · next e =>
      have last : scope.index = table.size := congrArg ScopeId.index e
      rw [last, if_neg (Nat.lt_irrefl _), Nat.sub_self]
      rfl
    · next apart =>
      split
      · exact shows.parent scope
      · next unknown =>
        have beyond : table.size < scope.index := Nat.lt_of_le_of_ne (Nat.le_of_not_lt unknown) fun e =>
          apart (congrArg ScopeId.mk e.symm)
        rw [show table.get? scope = none from Array.getElem?_eq_none (Nat.le_of_lt beyond)]
        exact (List.getElem?_eq_none (Nat.sub_pos_of_lt beyond)).symm
  here := fun scope name what => by
    refine .trans ?_ (shows.here scope name what)
    rw [findAny_here, findAny_here, ScopeTable.get?_openUnder]
    split
    · next e =>
      -- The new scope holds nothing, as the old table did not know it.
      rw [show table.get? scope = none from e ▸ Array.getElem?_size]
      cases what <;> rfl
    · rfl
  recorded := shows.recorded

/-- Making a declaration. -/
lemma declareAny (shows : Shows earlier table) (scope : ScopeId) (name : String) (symbol : AnySymbol) :
    Shows (.declare scope name symbol :: earlier) (table.declareAny scope name symbol).2 where
  size := (size_declareAny ..).trans shows.size
  parent := fun other => (parent_declareAny table scope name symbol other).trans (shows.parent other)
  here := fun other key what => by
    rw [findAny_declareAny, first?_declare, shows.here, shows.size]
  recorded := fun node => by
    refine .trans ?_ (shows.recorded node)
    rw [ScopeTable.scopeOf?, closed_declareAny, ← ScopeTable.scopeOf?]

/-- Recording a scope for a node. -/
lemma close (shows : Shows earlier table) (node : NodeId) (scope : ScopeId) :
    Shows (.close node scope :: earlier) ((ScopeCall.close node scope).perform table) := by
  -- The first record of a node stands, so the record that is asked for counts if there is none before.
  have recorded : ∀ other, (records (.close node scope :: earlier)).lookup other =
      (table.scopeOf? other).or (if other = node then some scope else none) := by
    intro other
    rw [shows.recorded, records, List.lookup_append]
    by_cases e : other = node
    · rw [if_pos e, e, List.lookup_cons_self]
    · rw [if_neg e, List.lookup_cons, beq_eq_false_iff_ne.mpr e, List.lookup_nil]
  rw [ScopeCall.perform]
  cases there : table.scopeOf? node with
  | none =>
    rw [close_fresh there]
    refine ⟨shows.size, shows.parent, fun scope name what => ?_, fun other => ?_⟩
    · refine .trans ?_ (shows.here scope name what)
      rw [findAny_here, findAny_here]
      rfl
    · rw [ScopeTable.scopeOf?_of_close (close_fresh there scope), recorded]
      split
      · next e => rw [e, there, Option.none_or]
      · exact Option.or_none.symm
  | some first =>
    rw [close_recorded there]
    refine ⟨shows.size, shows.parent, shows.here, fun other => ?_⟩
    rw [recorded]
    by_cases e : other = node
    · rw [e, there, Option.some_or]
    · rw [if_neg e, Option.or_none]

/-- One more call. -/
lemma perform (shows : Shows earlier table) (call : ScopeCall) : Shows (call :: earlier) (call.perform table) := by
  cases call with
  | openUnder parent => exact shows.openUnder parent
  | close node scope => exact shows.close node scope
  | declare scope name symbol => exact shows.declareAny scope name symbol

/-- After all calls the table is what the history tells. -/
lemma of_history (history : List ScopeCall) : Shows history (History.table history) := by
  induction history with
  | nil => exact empty
  | cons call earlier ih => exact ih.perform call

end Shows

/-! ## Looking outward -/

/-- A scope is opened under an older one. -/
lemma older_of_admissible (admissible : Admissible history) {index : Nat} {around : ScopeId}
    (there : (parents history)[index]? = some (some around)) : around.index < index := by
  induction history with
  | nil => cases there
  | cons call earlier ih =>
    cases call with
    | openUnder parent =>
      obtain ⟨opened, admissible⟩ := admissible
      rw [parents, List.getElem?_append] at there
      split at there
      · exact ih admissible there
      · next beyond =>
        obtain ⟨_, last⟩ := List.getElem?_eq_some_iff.mp there
        rw [List.getElem_singleton] at last
        exact Nat.lt_of_lt_of_le (opened around last) (Nat.le_of_not_lt beyond)
    | close node scope => exact ih admissible there
    | declare scope name symbol => exact ih admissible there

/-- A name is looked up in a scope, and then in the scope around it. -/
lemma findWithin_succ {σ : Type} [Symbol σ] {found : Scope} (get : table.get? scope = some found) {name : String}
    {steps : Nat} : (table.findWithin name (steps + 1) scope : Option σ) =
      ((Symbol.table found).lookup name).or (found.parent.bind (table.findWithin name steps)) := by
  rw [ScopeTable.findWithin, get]
  cases looked : (Symbol.table found : List (String × σ)).lookup name <;> cases parent : found.parent <;>
    simp only [looked, parent, Option.none_or, Option.some_or, Option.bind_none, Option.bind_some]

namespace Outward

/-- There is one way outward from a scope. -/
lemma unique {path' : List ScopeId} (outward : Outward under scope path) (other : Outward under scope path') :
    path = path' := by
  induction outward generalizing path' with
  | outermost last =>
    cases other with
    | outermost => rfl
    | inner next _ => cases last.symm.trans next
  | inner next _ ih =>
    cases other with
    | outermost last => cases last.symm.trans next
    | inner next' rest =>
      obtain rfl := Option.some.inj (Option.some.inj (next.symm.trans next'))
      rw [ih rest]

/-- There is a way outward from every open scope, as scopes are opened under older ones. -/
lemma exists_of_older (older : ∀ (index : Nat) (around : ScopeId), under[index]? = some (some around) →
    around.index < index) (known : scope.index < under.length) : ∃ path, Outward under scope path := by
  obtain ⟨index⟩ := scope
  induction index using Nat.strongRecOn with
  | _ index ih =>
    have there := List.getElem?_eq_getElem known
    cases parent : under[index] with
    | none => exact ⟨_, .outermost (there.trans (congrArg some parent))⟩
    | some around =>
      have next := there.trans (congrArg some parent)
      have lower := older index around next
      obtain ⟨path, rest⟩ := ih around.index lower (Nat.lt_trans lower known)
      exact ⟨_, .inner next rest⟩

/-- The way outward from a scope is no longer than there are scopes up to it. -/
lemma length_le (outward : Outward under scope path) (older : ∀ (index : Nat) (around : ScopeId),
    under[index]? = some (some around) → around.index < index) : path.length ≤ scope.index + 1 := by
  induction outward with
  | outermost => exact Nat.le_add_left 1 _
  | inner next _ ih => exact Nat.succ_le_succ (Nat.le_trans ih (older _ _ next))

/-- A name is looked up along the way outward. -/
lemma findWithin {σ : Type} [Symbol σ] (outward : Outward under scope path)
    (standing : ∀ scope, (table.get? scope).map Scope.parent = under[scope.index]?) (name : String) {steps : Nat}
    (enough : path.length ≤ steps) : (table.findWithin name steps scope : Option σ) =
      path.findSome? fun around => table.declared? around name := by
  obtain ⟨left, rfl⟩ := Nat.exists_eq_add_of_le enough
  induction outward with
  | @outermost scope last =>
    obtain ⟨found, get, parent⟩ := Option.map_eq_some_iff.mp ((standing _).trans last)
    rw [show [scope].length + left = left + 1 from Nat.add_comm 1 left, findWithin_succ get, parent,
      List.findSome?_cons, List.findSome?_nil, ScopeTable.declared?, get, Option.bind_some, Option.bind_none]
    cases (Symbol.table found : List (String × σ)).lookup name <;> rfl
  | @inner scope around path next rest ih =>
    obtain ⟨found, get, parent⟩ := Option.map_eq_some_iff.mp ((standing _).trans next)
    rw [show (scope :: path).length + left = path.length + left + 1 from Nat.succ_add _ _, findWithin_succ get, parent,
      List.findSome?_cons, ScopeTable.declared?, get, Option.bind_some, Option.bind_some, ih (Nat.le_add_right _ _)]
    cases (Symbol.table found : List (String × σ)).lookup name <;> rfl

/-- A name of any kind is looked up along the way outward. -/
lemma findAny (outward : Outward under scope path)
    (standing : ∀ scope, (table.get? scope).map Scope.parent = under[scope.index]?) (enough : path.length ≤ table.size)
    (name : String) (what : Declared) :
    table.findAny scope name .outward what = path.findSome? fun around => table.findAny around name .here what := by
  cases what <;> exact (congrArg (Option.map _) (outward.findWithin standing name enough)).trans List.map_findSome?

/-- Only open scopes have a way outward. -/
lemma known (outward : Outward under scope path) : scope.index < under.length := by
  cases outward with
  | outermost last => exact (List.getElem?_eq_some_iff.mp last).1
  | inner next _ => exact (List.getElem?_eq_some_iff.mp next).1

end Outward

/-- Nothing is found from a scope that is not there. -/
lemma findWithin_lost {σ : Type} [Symbol σ] (lost : table.get? scope = none) (name : String) (steps : Nat) :
    (table.findWithin name steps scope : Option σ) = none := by
  cases steps with
  | zero => rfl
  | succ => rw [ScopeTable.findWithin, lost]

/-- Nothing of any kind is found from a scope that is not there. -/
lemma findAny_lost (lost : table.get? scope = none) (name : String) (reach : Reach) (what : Declared) :
    table.findAny scope name reach what = none := by
  cases reach with
  | here => rw [findAny_here, lost, Option.bind_none]
  | outward => cases what <;> exact congrArg (Option.map _) (findWithin_lost lost name _)

/-! ## Calls of a history -/

/-- What is declared was asked for. -/
lemma mem_of_mem_declarations {entry : ScopeEntry} (mem : entry ∈ declarations history) :
    .declare entry.scope entry.name entry.symbol ∈ history := by
  induction history with
  | nil => cases mem
  | cons call earlier ih =>
    cases call with
    | openUnder parent => exact List.mem_cons_of_mem _ (ih mem)
    | close node scope => exact List.mem_cons_of_mem _ (ih mem)
    | declare scope name symbol =>
      rcases List.mem_append.mp mem with before | last
      · exact List.mem_cons_of_mem _ (ih before)
      · split at last
        · obtain rfl := List.mem_singleton.mp last
          exact List.mem_cons_self
        · cases last

/-- The records are those that were asked for. -/
lemma mem_records {node : NodeId} : (node, scope) ∈ records history ↔ .close node scope ∈ history := by
  induction history with
  | nil => exact ⟨nofun, nofun⟩
  | cons call earlier ih => cases call <;> simp [records, ih, or_comm]

/-- A name that is never declared has no first declaration. -/
lemma first?_unheard (unheard : ∀ scope symbol, .declare scope name symbol ∉ history) (scope : ScopeId)
    (what : Declared) : first? history scope name what = none := by
  rw [first?, Option.map_eq_none_iff, List.find?_eq_none]
  intro entry mem isOf
  have same : entry.name = name := (of_decide_eq_true isOf).2.1
  exact unheard entry.scope entry.symbol (same ▸ mem_of_mem_declarations mem)

/-- Scopes are nested maps: whatever is opened, recorded and declared, the first declaration in a scope and the first
record of a node stand, and names are looked up from inside out. -/
theorem scopes_are_nested_maps (admissible : Admissible history) : NestedMaps (History.table history) history := by
  have shows := Shows.of_history history
  generalize History.table history = table at shows
  have older : ∀ (index : Nat) (around : ScopeId), (parents history)[index]? = some (some around) →
      around.index < index := fun _ _ => older_of_admissible admissible
  have short : ∀ {scope path}, Outward (parents history) scope path → path.length ≤ table.size := fun outward =>
    Nat.le_trans (outward.length_le older) (shows.size ▸ outward.known)
  have lost : ∀ scope : ScopeId, (parents history).length ≤ scope.index → table.get? scope = none :=
    fun scope unknown => Array.getElem?_eq_none (Nat.le_trans (Nat.le_of_eq shows.size) unknown)
  have outward : ∀ scope name what path, Outward (parents history) scope path →
      table.findAny scope name .outward what = path.findSome? fun around => first? history around name what := by
    intro scope name what path outward
    rw [outward.findAny shows.parent (short outward)]
    simp only [shows.here]
  have terminates : ∀ {σ : Type} [Symbol σ] scope name steps, table.size ≤ steps →
      (table.findWithin name steps scope : Option σ) = table.find? scope name .outward := by
    intro σ _ scope name steps enough
    rcases Nat.lt_or_ge scope.index (parents history).length with known | unknown
    · obtain ⟨path, outward⟩ := Outward.exists_of_older older known
      exact (outward.findWithin shows.parent name (Nat.le_trans (short outward) enough)).trans
        (outward.findWithin shows.parent name (short outward)).symm
    · exact (findWithin_lost (lost scope unknown) name _).trans (findWithin_lost (lost scope unknown) name _).symm
  refine {
    handle := fun _ => congrArg ScopeId.mk shows.size
    parent := shows.parent
    older := fun scope around => older scope.index around
    path := fun scope known => Outward.exists_of_older older known
    unique := fun _ _ _ outward other => outward.unique other
    here := shows.here
    outward := outward
    step := fun scope name what => ?step
    terminates := terminates
    unknown := fun scope name reach what unknown => findAny_lost (lost scope unknown) name reach what
    unheard := fun name unheard scope reach what => ?unheard
    taken := fun scope name symbol first taken => declareAny_taken ((shows.here ..).trans taken)
    free := fun scope name symbol known free => ?free
    lost := fun scope name symbol unknown => declareAny_lost (lost scope unknown) name symbol
    closes := fun node scope fresh => ?closes
    closesOnce := fun node other mem scope => ?closesOnce
    recorded := shows.recorded
    reopened := fun node => by rw [← shows.recorded]; rfl }
  case step =>
    cases get : table.get? scope with
    | none => exact findAny_lost get name .outward what
    | some found =>
      -- One more step makes no difference, and so the search may be unfolded once.
      cases what <;>
        exact (congrArg (Option.map _) ((terminates scope name _ (Nat.le_succ _)).symm.trans
          (findWithin_succ get))).trans (Option.map_or.trans (congrArg (Option.or _) Option.map_bind))
  case unheard =>
    cases reach with
    | here => rw [shows.here, first?_unheard unheard]
    | outward =>
      rcases Nat.lt_or_ge scope.index (parents history).length with known | unknown
      · obtain ⟨path, way⟩ := Outward.exists_of_older older known
        rw [outward _ _ _ _ way, List.findSome?_eq_none_iff]
        exact fun around _ => first?_unheard unheard around what
      · exact findAny_lost (lost scope unknown) name .outward what
  case free =>
    have free := (shows.here scope name symbol.what).trans free
    exact ⟨declareAny_free free, enters_declareAny (shows.size ▸ known) free⟩
  case closes =>
    have none : table.scopeOf? node = none := by
      rw [shows.recorded, List.lookup_eq_none_iff]
      rintro ⟨other, scope⟩ mem
      refine bne_iff_ne.mpr ?_
      rintro rfl
      exact fresh scope (mem_records.mp mem)
    exact ⟨_, close_fresh none scope, rfl, ScopeTable.scopeOf?_of_close (close_fresh none scope)⟩
  case closesOnce =>
    cases there : table.scopeOf? node with
    | none =>
      rw [shows.recorded, List.lookup_eq_none_iff] at there
      exact absurd rfl (bne_iff_ne.mp (there _ (mem_records.mpr mem)))
    | some first =>
      refine ⟨close_recorded there scope, ?_⟩
      rw [ScopeCall.perform, close_recorded there scope]

/-- A scope under another one, with a variable that hides an outer one and a type of the same name; a second variable of
that name is refused, and so is a second record of the node. -/
theorem scopes_are_nested_maps_shadowed :
    let place (line : Nat) : Span := ⟨some "x", "a", 0, 1, line, 1⟩
    let outer : AnySymbol := .variable ⟨⟨1⟩, place 1, ⟨0⟩, none⟩
    let inner : AnySymbol := .variable ⟨⟨2⟩, place 2, ⟨1⟩, none⟩
    let named : AnySymbol := .type ⟨.int, place 3⟩
    let again : AnySymbol := .variable ⟨⟨3⟩, place 4, ⟨1⟩, none⟩
    let history : List ScopeCall := [.close ⟨7⟩ ⟨0⟩, .declare ⟨9⟩ "x" again, .close ⟨7⟩ ⟨1⟩, .declare ⟨1⟩ "x" named,
      .declare ⟨1⟩ "x" inner, .declare ⟨0⟩ "x" outer, .openUnder (some ⟨0⟩), .openUnder none]
    let table := History.table history
    Admissible history ∧ NestedMaps table history ∧ Outward (parents history) ⟨1⟩ [⟨1⟩, ⟨0⟩] ∧
      table.findAny ⟨1⟩ "x" .outward .variable = some inner ∧ table.findAny ⟨0⟩ "x" .outward .variable = some outer ∧
      table.findAny ⟨1⟩ "x" .outward .function = none ∧
      table.declareAny ⟨1⟩ "x" again = (some (place 2), table) ∧ table.scopeOf? ⟨7⟩ = some ⟨1⟩ := by
  intro place outer inner named again history table
  have admissible : Admissible history := ⟨by decide, nofun, trivial⟩
  have maps : NestedMaps table history := scopes_are_nested_maps admissible
  have way : Outward (parents history) ⟨1⟩ [⟨1⟩, ⟨0⟩] := .inner rfl (.outermost rfl)
  exact ⟨admissible, maps, way, maps.outward _ _ _ _ way, maps.outward _ _ _ _ (.outermost rfl),
    maps.outward _ _ _ _ way, maps.taken _ _ again inner rfl, maps.recorded _⟩

end ArrowScript.Analysis
