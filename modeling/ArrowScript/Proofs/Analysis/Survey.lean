import ArrowScript.Proofs.Analysis.Account
import ArrowScript.Proofs.Analysis.Collecting

/-!
# Tables seen as layers

What a scope declares agrees with a layer when each key is found in both or in neither, with the same meaning
(`Agrees`). `Views` says that looking up from a scope outwards shows a layer. A table is surveyed
(`Surveyed`) when all that it keeps with its symbols, that is the scopes in which types are written and the
members of types, is in line with the facts about the declarations of the program.
-/

namespace ArrowScript.Analysis

variable {origins : List Origin} {table : ScopeTable} {scope : ScopeId} {layer : Layer} {facts : Facts}

/-! ## Scopes -/

/-- A type symbol stands for a declaration. -/
def Names (origins : List Origin) (symbol : TypeSymbol) (origin : Origin) : Prop :=
  origins[symbol.type.index]? = some origin

/-- A scope declares what a layer introduces. -/
structure Agrees (origins : List Origin) (found : Scope) (layer : Layer) : Prop where
  variableOf : ∀ key, Option.Rel (fun symbol entry => symbol.entry = entry)
    (found.variableTable.lookup key) (layer.variableOf key)
  functionOf : ∀ key, Option.Rel (fun symbol entry => symbol.entry = entry)
    (found.functionTable.lookup key) (layer.functionOf key)
  originOf : ∀ key, Option.Rel (Names origins) (found.typeTable.lookup key) (layer.originOf key)

/-- Looking up from a scope outwards shows a layer. -/
inductive Views (origins : List Origin) (table : ScopeTable) : Option ScopeId → Layer → Prop
  | nowhere : Views origins table none .empty
  | inside {scope : ScopeId} {found : Scope} {own outer : Layer} :
    table.get? scope = some found → Agrees origins found own →
    (∀ around ∈ found.parent, around.index < scope.index) → Views origins table found.parent outer →
    Views origins table (some scope) (own.shadowing outer)

/-- What is found by looking outwards is in the layer that is shown. -/
lemma Views.rel {σ α : Type} [Symbol σ] {r : σ → α → Prop} (field : Layer → String → Option α)
    (empty : ∀ key, field .empty key = none)
    (shadowing : ∀ inner outer key, field (inner.shadowing outer) key = (field inner key).or (field outer key))
    (agrees : ∀ found layer, Agrees origins found layer → ∀ key,
      Option.Rel r ((Symbol.table found).lookup key) (field layer key))
    (views : Views origins table (some scope) layer) (key : String) :
    Option.Rel r (table.find? scope key .outward) (field layer key) := by
  -- On the way outward, along the layers; a parent has a smaller number, so the steps suffice.
  have within : ∀ {current : Option ScopeId} {layer : Layer}, Views origins table current layer →
      ∀ scope ∈ current, ∀ steps, scope.index < steps →
        Option.Rel r (table.findWithin key steps scope) (field layer key) := by
    intro current layer views
    induction views with
    | nowhere => exact fun scope mem => by cases mem
    | @inside scope found own outer get agreed below rest ih =>
      intro _ mem steps enough
      obtain rfl := Option.some.inj mem
      obtain ⟨steps, rfl⟩ := Nat.exists_eq_succ_of_ne_zero (Nat.ne_of_gt (Nat.zero_lt_of_lt enough))
      have here := agrees found own agreed key
      rw [ScopeTable.findWithin, get, shadowing]
      simp only
      generalize (Symbol.table found : List (String × σ)).lookup key = symbol? at here
      generalize field own key = meaning? at here
      cases here with
      | some same => exact .some same
      | none =>
        rw [Option.none_or]
        cases parent : found.parent with
        | none =>
          rw [parent] at rest
          cases rest
          rw [empty]
          exact .none
        | some around =>
          have := below around parent
          exact ih around parent steps (by omega)
  refine within views scope rfl _ ?_
  cases views with
  | inside get => exact (Array.getElem?_eq_some_iff.mp get).1

namespace Views

/-- Types are found as the layer shows them. -/
lemma findsType (views : Views origins table (some scope) layer) (key : String) :
    Option.Rel (Names origins) (table.find? scope key .outward : Option TypeSymbol)
      (layer.originOf key) :=
  views.rel Layer.originOf (fun _ => rfl) (fun _ _ _ => rfl) (fun _ _ agrees => agrees.originOf) key

end Views

/-- What is found by looking up is in some scope. -/
lemma exists_of_find? {σ : Type} [Symbol σ] {key : String} {reach : Reach} {symbol : σ}
    (found : table.find? scope key reach = some symbol) :
    ∃ place there, table.get? place = some there ∧
      (Symbol.table there : List (String × σ)).lookup key = some symbol := by
  have within : ∀ steps scope, table.findWithin key steps scope = some symbol →
      ∃ place there, table.get? place = some there ∧
        (Symbol.table there : List (String × σ)).lookup key = some symbol := by
    intro steps
    induction steps with
    | zero => exact fun _ found => by cases found
    | succ steps ih =>
      intro scope found
      rw [ScopeTable.findWithin] at found
      split at found
      · cases found
      · next there get =>
        split at found
        · next looked =>
          obtain rfl := Option.some.inj found
          exact ⟨scope, there, get, looked⟩
        · exact ih _ found
        · cases found
  cases reach with
  | here =>
    obtain ⟨there, get, looked⟩ := Option.bind_eq_some_iff.mp found
    exact ⟨scope, there, get, looked⟩
  | outward => exact within _ scope found

/-! ## Surveyed tables -/

/-- The type of a declaration is written in a scope as the facts have it. -/
structure Sited (facts : Facts) (origins : List Origin) (table : ScopeTable) (node : NodeId)
    (scope : ScopeId) (written : TypeRef) (layer : Layer) : Prop where
  views : Views origins table (some scope) layer
  declared : facts.declared node = layer.shape? written
  unknown : facts.unknown node = written.unknown layer

/-- What a table keeps is in line with the facts about the declarations of a program. -/
structure Surveyed (facts : Facts) (origins : List Origin) (table : ScopeTable) : Prop where
  members : ∀ node name, .user node name ∈ origins → ∃ scope found layer,
    table.scopeOf? node = some scope ∧ table.get? scope = some found ∧
      facts.members node = some layer ∧ Agrees origins found layer
  variableSites : ∀ scope found key symbol, table.get? scope = some found →
    found.variableTable.lookup key = some symbol → ∀ written ∈ symbol.written,
      ∃ layer, Sited facts origins table symbol.node symbol.scope written layer
  functionSites : ∀ scope found key symbol, table.get? scope = some found →
    found.functionTable.lookup key = some symbol → ∀ written ∈ symbol.returns,
      ∃ layer, Sited facts origins table symbol.node symbol.scope written layer
  parameterSites : ∀ scope found key symbol, table.get? scope = some found →
    found.functionTable.lookup key = some symbol → ∀ parameter ∈ symbol.parameters,
      ∃ layer, Sited facts origins table parameter.1 symbol.scope parameter.2 layer
  parameters : ∀ scope found key symbol, table.get? scope = some found →
    found.functionTable.lookup key = some symbol →
      facts.parameters symbol.node = symbol.parameters.map Prod.fst

end ArrowScript.Analysis
