import ArrowScript.Proofs.Analysis.Owners
import ArrowScript.Proofs.Grammar.Pieces
import ArrowScript.Proofs.Token.Mangling

/-!
# Scopes and their owners

A scope agrees with its owner (`Matches`) when looking a key up in its tables gives the first declaration
that the owner has under it. The names of functions and types are kept mangled, so for these the agreement
by name needs names that mangling keeps apart (`Exact`); by key it always holds. Looking a name up outwards then gives the first
declaration in the owners around a scope (`map_find?_outward`).
-/

namespace ArrowScript

/-- A declared variable, as its owner lists it. -/
def VariableSymbol.entry (symbol : VariableSymbol) : Analysis.Entry :=
  ⟨symbol.node, symbol.written.isSome⟩

/-- A declared function, as its owner lists it. -/
def FunctionSymbol.entry (symbol : FunctionSymbol) : Analysis.Entry :=
  ⟨symbol.node, symbol.returns.isSome⟩

namespace Analysis
open Token

variable {α : Type} {P : Piece → Prop}

/-! ## Mangled names -/

/-- The links among pieces are unbound words, and the declared names are unmangled. -/
structure Exact (P : Piece → Prop) : Prop where
  link : ∀ identifier, P (.link identifier) →
    identifier.binding = none ∧ IsWord identifier.name.toList
  leaf : ∀ span, P (.leaf span) → Unmangled span.content.toList

/-- The declarations of an owner under the keys that they are kept under. -/
def keyed (declarations : List ((String × Nat) × α)) : List (String × α) :=
  declarations.map fun declaration => (mangle declaration.1.1 declaration.1.2, declaration.2)

/-- What is found under the key of a word was declared with that name and number. -/
lemma lookup_keyed {name : String} {arity : Nat} (word : IsWord name.toList)
    {declarations : List ((String × Nat) × α)}
    (plain : ∀ declaration ∈ declarations, Unmangled declaration.1.1.toList) :
    (keyed declarations).lookup (mangle name arity) = declarations.lookup (name, arity) := by
  induction declarations with
  | nil => rfl
  | cons first rest ih =>
    obtain ⟨⟨other, count⟩, found⟩ := first
    have ih := ih fun declaration mem => plain declaration (List.mem_cons_of_mem _ mem)
    have same : mangle name arity = mangle other count ↔ name = other ∧ arity = count :=
      mangle_eq_iff word (plain _ List.mem_cons_self)
    rw [keyed, List.map_cons, List.lookup_cons, List.lookup_cons]
    by_cases e : name = other ∧ arity = count
    · rw [same.mpr e]
      simp [e.1, e.2]
    · have apart : (mangle name arity == mangle other count) = false := by simpa using mt same.mp e
      have apart' : ((name, arity) == (other, count)) = false := by simpa using e
      rw [apart, apart']
      exact ih

/-- The names of functions and types that an owner declares are among the pieces. -/
structure Owner.Named (P : Piece → Prop) (owner : Owner) : Prop where
  functions : ∀ declaration ∈ owner.functionList,
    ∃ span, P (.leaf span) ∧ span.content = declaration.1.1
  types : ∀ declaration ∈ owner.typeList, ∃ span, P (.leaf span) ∧ span.content = declaration.1.1

namespace Owner.Named

/-- Nothing is declared. -/
lemma empty : Named P .empty :=
  ⟨by simp [Owner.empty], by simp [Owner.empty]⟩

/-- What both of two owners declare. -/
lemma append {first second : Owner} (h : Named P first) (g : Named P second) :
    Named P (first ++ second) where
  functions := fun declaration mem =>
    (List.mem_append.mp mem).elim (h.functions declaration) (g.functions declaration)
  types := fun declaration mem =>
    (List.mem_append.mp mem).elim (h.types declaration) (g.types declaration)

/-- A single variable. -/
lemma ofVariable (name : Span) (node : NodeId) (typed : Bool) :
    Named P (.ofVariable name node typed) :=
  ⟨by simp [Owner.ofVariable], by simp [Owner.ofVariable]⟩

/-- A single function. -/
lemma ofFunction {name : Span} (h : P (.leaf name)) (arity : Nat) (node : NodeId) (typed : Bool) :
    Named P (.ofFunction name arity node typed) :=
  ⟨by simpa [Owner.ofFunction] using ⟨name, h, rfl⟩, by simp [Owner.ofFunction]⟩

/-- A single type. -/
lemma ofType {name : Span} (h : P (.leaf name)) (arity : Nat) (type : TypeId) :
    Named P (.ofType name arity type) :=
  ⟨by simp [Owner.ofType], by simpa [Owner.ofType] using ⟨name, h, rfl⟩⟩

/-- Type parameters. -/
lemma typeParameters {names : List Span} (h : ∀ name ∈ names, P (.leaf name)) (base : Nat) :
    Named P (typeParameterOwner base names) := by
  induction names generalizing base with
  | nil => exact empty
  | cons name rest ih =>
    rw [typeParameterOwner]
    exact (ofType (h name List.mem_cons_self) 0 _).append
      (ih (fun name mem => h name (List.mem_cons_of_mem _ mem)) _)

/-- Parameters. -/
lemma parameters (parameters : List Parameter) : Named P (parameterOwner parameters) := by
  induction parameters with
  | nil => exact empty
  | cons parameter rest ih => exact (ofVariable _ _ _).append ih

/-- Fields. -/
lemma fields (fields : List Declaration) : Named P (fieldOwner fields) := by
  induction fields with
  | nil => exact empty
  | cons field rest ih => exact (ofVariable _ _ _).append ih

/-- A function in the scope around it. -/
lemma declaredFunction {definition : FunctionDef} (h : ∀ piece ∈ definition.pieces, P piece) :
    Named P definition.declares := by
  cases definition
  exact ofFunction (h _ (by simp [FunctionDef.pieces])) _ _ _

/-- Methods. -/
lemma methods {definitions : List FunctionDef} (h : ∀ piece ∈ functionPieces definitions, P piece) :
    Named P (functionOwner definitions) := by
  induction definitions with
  | nil => exact empty
  | cons definition rest ih =>
    rw [functionPieces] at h
    refine (declaredFunction fun piece mem => h piece ?_).append (ih fun piece mem => h piece ?_)
    · exact List.mem_append_left _ mem
    · exact List.mem_append_right _ mem

/-- A function in its own scope. -/
lemma functionDef {definition : FunctionDef} (h : ∀ piece ∈ definition.pieces, P piece) (base : Nat) :
    Named P (definition.owner base) := by
  cases definition with
  | mk id name names list returns body keyword =>
    refine (typeParameters (fun name mem => h _ ?_) _).append (parameters list)
    simp [FunctionDef.pieces, typeParameterPieces, mem]

/-- A type in its own scope. -/
lemma typeDef {definition : TypeDef} (h : ∀ piece ∈ definition.pieces, P piece) (base : Nat) :
    Named P (definition.owner base) := by
  cases definition with
  | mk id name names members definitions keyword binding =>
    refine (typeParameters (fun name mem => h _ ?_) _).append
      ((fields members).append (methods fun piece mem => h _ ?_))
    · simp [TypeDef.pieces, typeParameterPieces, mem]
    · simp [TypeDef.pieces, mem]

/-- Statements in the scope around them. -/
lemma statements {list : List Statement} (h : ∀ piece ∈ statementPieces list, P piece)
    (nested : Bool) (base : Nat) : Named P (statementOwner nested base list) := by
  induction list generalizing base with
  | nil => exact empty
  | cons statement rest ih =>
    rw [statementPieces] at h
    have head : ∀ piece ∈ statement.pieces, P piece :=
      fun piece mem => h piece (List.mem_append_left _ mem)
    refine Named.append ?_ (ih (fun piece mem => h piece (List.mem_append_right _ mem)) _)
    cases statement with
    | type definition =>
      obtain ⟨id, name, names, members, definitions, keyword, binding⟩ := definition
      rw [Statement.declares]
      split
      · exact empty
      · exact ofType (head _ (by simp [Statement.pieces, TypeDef.pieces])) _ _
    | function definition =>
      rw [Statement.declares]
      split
      · exact empty
      · exact declaredFunction (by simpa only [Statement.pieces] using head)
    | «variable» declaration => exact ofVariable _ _ _
    | returning | breaking | continuing | whileLoop | conditional | importing | path | expression =>
      exact empty

end Owner.Named

/-! ## Tables -/

/-- A scope agrees with what an owner declares. -/
structure Matches (P : Piece → Prop) (scope : Scope) (owner : Owner) : Prop where
  variableTable : ∀ name, (scope.variableTable.lookup name).map VariableSymbol.entry =
    owner.variableList.lookup name
  functionTable : Exact P → ∀ name arity, IsWord name.toList →
    (scope.functionTable.lookup (mangle name arity)).map FunctionSymbol.entry =
      owner.functionList.lookup (name, arity)
  typeTable : Exact P → ∀ name arity, IsWord name.toList →
    (scope.typeTable.lookup (mangle name arity)).map TypeSymbol.type =
      owner.typeList.lookup (name, arity)
  functionKeys : ∀ key, (scope.functionTable.lookup key).map FunctionSymbol.entry =
    (keyed owner.functionList).lookup key
  typeKeys : ∀ key, (scope.typeTable.lookup key).map TypeSymbol.type =
    (keyed owner.typeList).lookup key

/-- Declarations are added to a scope; those that are there already come first. -/
structure Adds (before after : Scope) (owner : Owner) : Prop where
  parent : after.parent = before.parent
  variableTable : ∀ name, (after.variableTable.lookup name).map VariableSymbol.entry =
    ((before.variableTable.lookup name).map VariableSymbol.entry).or (owner.variableList.lookup name)
  functionTable : ∀ key, (after.functionTable.lookup key).map FunctionSymbol.entry =
    ((before.functionTable.lookup key).map FunctionSymbol.entry).or
      ((keyed owner.functionList).lookup key)
  typeTable : ∀ key, (after.typeTable.lookup key).map TypeSymbol.type =
    ((before.typeTable.lookup key).map TypeSymbol.type).or ((keyed owner.typeList).lookup key)

namespace Adds

variable {before middle after : Scope} {first second owner : Owner}

/-- Nothing is added. -/
lemma refl (scope : Scope) : Adds scope scope .empty :=
  ⟨rfl, by simp [Owner.empty], by simp [Owner.empty, keyed], by simp [Owner.empty, keyed]⟩

/-- Declarations are added one after the other. -/
lemma trans (h : Adds before middle first) (g : Adds middle after second) :
    Adds before after (first ++ second) where
  parent := g.parent.trans h.parent
  variableTable := fun name => by
    show _ = Option.or _ ((first.variableList ++ second.variableList).lookup name)
    rw [g.variableTable, h.variableTable, List.lookup_append, Option.or_assoc]
  functionTable := fun key => by
    show _ = Option.or _ ((keyed (first.functionList ++ second.functionList)).lookup key)
    rw [g.functionTable, h.functionTable, keyed, keyed, keyed, List.map_append, List.lookup_append,
      Option.or_assoc]
  typeTable := fun key => by
    show _ = Option.or _ ((keyed (first.typeList ++ second.typeList)).lookup key)
    rw [g.typeTable, h.typeTable, keyed, keyed, keyed, List.map_append, List.lookup_append,
      Option.or_assoc]

/-- A scope agrees with what is added when it was empty. -/
lemma agrees {parent : Option ScopeId} (h : Adds (.empty parent) after owner)
    (named : owner.Named P) : Matches P after owner where
  variableTable := h.variableTable
  functionTable := fun exact name arity word => by
    rw [h.functionTable, ← lookup_keyed word]
    · rfl
    · intro declaration mem
      obtain ⟨span, piece, e⟩ := named.functions declaration mem
      exact e ▸ exact.leaf span piece
  typeTable := fun exact name arity word => by
    rw [h.typeTable, ← lookup_keyed word]
    · rfl
    · intro declaration mem
      obtain ⟨span, piece, e⟩ := named.types declaration mem
      exact e ▸ exact.leaf span piece
  functionKeys := h.functionTable
  typeKeys := h.typeTable

/-- The types in a scope are registered if those that were there and those that are added are. -/
lemma typesKnown {size : Nat} (h : Adds before after owner)
    (fresh : ∀ declaration ∈ owner.typeList, declaration.2.index < size)
    (known : ∀ key symbol, before.typeTable.lookup key = some symbol → symbol.type.index < size)
    (key : String) (symbol : TypeSymbol) (found : after.typeTable.lookup key = some symbol) :
    symbol.type.index < size := by
  have type := h.typeTable key
  rw [found, Option.map_some] at type
  rcases Option.or_eq_some_iff.mp type.symm with there | ⟨-, added⟩
  · obtain ⟨first, looked, e⟩ := Option.map_eq_some_iff.mp there
    exact e ▸ known key first looked
  · obtain ⟨first, rest, e, -⟩ := List.lookup_eq_some_iff.mp added
    have mem : (key, symbol.type) ∈ keyed owner.typeList := by simp [e]
    obtain ⟨declaration, mem, e⟩ := List.mem_map.mp mem
    have fresh := fresh declaration mem
    rw [(Prod.mk.inj e).2] at fresh
    exact fresh

end Adds

/-! ## Looking up -/

/-- The owners of a scope and of the scopes around it, from inside out. -/
inductive Around (P : Piece → Prop) (table : ScopeTable) : Option ScopeId → List Owner → Prop
  | nowhere : Around P table none []
  | inside {scope : ScopeId} {found : Scope} {owner : Owner} {owners : List Owner} :
    table.get? scope = some found → Matches P found owner →
    (∀ outer ∈ found.parent, outer.index < scope.index) → Around P table found.parent owners →
    Around P table (some scope) (owner :: owners)

/-- Looking a key up outwards gives the first declaration in the owners around a scope. -/
lemma map_find?_outward {σ : Type} [Symbol σ] {table : ScopeTable} {scope : ScopeId}
    {owners : List Owner} {key : String} {view : σ → α} {declared : Owner → Option α}
    (around : Around P table (some scope) owners)
    (agrees : ∀ found owner, Matches P found owner →
      ((Symbol.table found : List (String × σ)).lookup key).map view = declared owner) :
    (table.find? scope key .outward).map view = owners.findSome? declared := by
  -- On the way outward, along the owners; a parent has a smaller number, so the steps suffice.
  have within : ∀ {current : Option ScopeId} {owners : List Owner},
      Around P table current owners → ∀ scope ∈ current, ∀ steps, scope.index < steps →
        (table.findWithin key steps scope).map view = owners.findSome? declared := by
    intro current owners around
    induction around with
    | nowhere => exact fun scope mem => by cases mem
    | @inside scope found owner owners get agreed below rest ih =>
      intro _ mem steps enough
      obtain rfl := Option.some.inj mem
      obtain ⟨steps, rfl⟩ := Nat.exists_eq_succ_of_ne_zero (Nat.ne_of_gt (Nat.zero_lt_of_lt enough))
      have here := agrees found owner agreed
      rw [ScopeTable.findWithin, get, List.findSome?_cons, ← here]
      simp only
      cases e : (Symbol.table found : List (String × σ)).lookup key with
      | some symbol => rfl
      | none =>
        cases outer : found.parent with
        | none =>
          rw [outer] at rest
          cases rest
          rfl
        | some outer' =>
          have := below outer' outer
          exact ih outer' outer steps (by omega)
  refine within around scope rfl _ ?_
  cases around with
  | inside get => exact (Array.getElem?_eq_some_iff.mp get).1

end Analysis

end ArrowScript
