import ArrowScript.Proofs.Analysis.ChangesStatements
import ArrowScript.Proofs.Analysis.Keeping
import ArrowScript.Proofs.Analysis.Programs

/-!
# Visiting only reads what was declared

After a fresh state has collected what a parsed program declares, all handles of types are known. Visiting then follows
a path of changes, none of which touches the scopes or adds anything but array types to the registry, so all handles
are known at every moment of it (`visiting_only_reads`). Types are shown by the names that they are registered with,
never by the question mark for an unknown handle.
-/

namespace ArrowScript.Analysis
open TypeRegistry

/-- All handles are known, and all registered types are called as stated. -/
structure Stocked (P : String → Prop) (s : State) : Prop where
  known : AllKnown s
  names : ∀ info ∈ s.types.entries.toList, P info.name

variable {P : String → Prop} {s t : State}

section
variable (P)

/-- A step of declaring keeps all handles known. -/
abbrev StepStocks {α : Type} (step : Step α) : Prop :=
  StepKeeps (Stocked P) (fun _ => True) step

/-- Declaring keeps all handles known. -/
abbrev RunStocks {α : Type} (action : Attempt α) : Prop :=
  RunKeeps (Stocked P) (fun _ => True) (fun _ => True) action

end

/-! ## Steps of declaring -/

/-- Nothing that concerns types is changed. -/
lemma Stocked.framed {active : List ScopeId} {functionDepth : Nat} (stocked : Stocked P s) :
    Stocked P { s with active, functionDepth } :=
  ⟨⟨stocked.known.builtins, stocked.known.elements, stocked.known.symbols, stocked.known.declared,
    stocked.known.inferred, stocked.known.defined, stocked.known.returned, stocked.known.findings⟩, stocked.names⟩

/-- Scopes are changed, but keep known handles only. -/
lemma Stocked.rescoped {scopes : ScopeTable} (stocked : Stocked P s)
    (symbols : ∀ scope found, scopes.get? scope = some found → s.types.KnowsAll found.handles) :
    Stocked P { s with scopes } :=
  ⟨⟨stocked.known.builtins, stocked.known.elements, symbols, stocked.known.declared, stocked.known.inferred,
    stocked.known.defined, stocked.known.returned, stocked.known.findings⟩, stocked.names⟩

/-- A type other than an array is registered. -/
lemma Stocked.registered (stocked : Stocked P s) (info : TypeInfo) (plain : ∀ element, info.kind ≠ .array element)
    (name : P info.name) : Stocked P { s with types := (s.types.register info).2 } := by
  have adds := register_adds s.types info
  refine ⟨stocked.known.grown adds.stays fun array element there => ?_, fun other mem => ?_⟩
  · rcases adds.eq_or_knows (knows_of_element? there) with rfl | old
    · rw [element?_eq_some, kind?, adds.info] at there
      exact absurd (Option.some.inj there) (plain element)
    · exact adds.stays.knows (stocked.known.elements array element (adds.stays.element? old ▸ there))
  · rcases List.mem_append.mp (Array.toList_push ▸ mem) with old | last
    · exact stocked.names other old
    · exact List.mem_singleton.mp last ▸ name

lemma report_stocks (problem : SemanticProblem) (none : problem.types = []) (span : Span) :
    StepStocks P (report problem span) :=
  .changed fun _ stocked =>
    ⟨Change.allKnown (.finding ⟨problem, span⟩ (none ▸ knowsAll_nil)) stocked.known, stocked.names⟩

lemma enter_stocks (scope : ScopeId) : StepStocks P (enter scope) :=
  .changed fun _ stocked => stocked.framed

lemma leave_stocks : StepStocks P leave :=
  .changed fun _ stocked => stocked.framed

/-- An opened scope keeps no handles. -/
lemma openUnder_stocks (parent : Option ScopeId) : StepStocks P (openUnder parent) := by
  refine .modifyGet fun s stocked => ⟨trivial, stocked.rescoped fun scope found get => ?_⟩
  rw [ScopeTable.get?_openUnder] at get
  split at get
  · obtain rfl := Option.some.inj get
    exact knowsAll_nil
  · exact stocked.known.symbols scope found get

lemma currentScope_stocks : RunStocks P currentScope :=
  .ask (fun _ => trivial) fun _ _ _ _ => trivial

/-- Recording a scope changes no scope. -/
lemma close_stocks (node : NodeId) (scope : ScopeId) : RunStocks P (close node scope) := by
  intro s stocked
  cases e : s.scopes.close node scope with
  | error fault =>
    have ran : close node scope s = .error fault s := by simp [close, ask, bind, EStateM.bind, e]
    rw [ran]
    exact ⟨trivial, stocked⟩
  | ok scopes =>
    have ran : close node scope s = .ok () { s with scopes } := by
      simp only [close, ask, bind, EStateM.bind, e]
      rfl
    rw [ran]
    refine ⟨trivial, stocked.rescoped ?_⟩
    unfold ScopeTable.close at e
    split at e
    · cases e
    · cases e
      exact stocked.known.symbols

/-- A symbol with known handles is declared. -/
lemma declare_leads_stocked {σ : Type} [Symbol σ] {what : Declared} {scope : ScopeId} {key : String} {name : Span}
    {symbol : σ} (stocked : Stocked P s) (adds : ∀ before : Scope, s.types.KnowsAll before.handles →
      s.types.KnowsAll (Symbol.insert key symbol before).handles) :
    Leads (declare what scope key name symbol) s fun _ t => Stocked P t := by
  have declared : Stocked P { s with scopes := (s.scopes.declare scope key symbol).2 } := by
    refine stocked.rescoped fun other found get => ?_
    rw [get?_declare] at get
    split at get
    · obtain ⟨before, there, rfl⟩ := Option.map_eq_some_iff.mp get
      unfold Scope.adding
      split
      · exact stocked.known.symbols scope before there
      · exact adds before (stocked.known.symbols scope before there)
    · exact stocked.known.symbols other found get
  exact declare_leads (fun first _ => (report_stocks (.alreadyDefined what name.content first) rfl name
    _ declared).2) fun _ => declared

/-- Handles of a scope with one more type. -/
lemma knowsAll_insert_type {registry : TypeRegistry} {key : String} {symbol : TypeSymbol} {before : Scope}
    (known : registry.Knows symbol.type) (there : registry.KnowsAll before.handles) :
    registry.KnowsAll (Symbol.insert key symbol before).handles :=
  knowsAll_cons.mpr ⟨known, there⟩

lemma declareVariable_stocks (node : NodeId) (name : Span) {written : Option TypeRef}
    (blank : written.elim [] TypeRef.handles = []) : RunStocks P (declareVariable node name written) := by
  refine RunKeeps.bind currentScope_stocks fun scope _ => .lift fun s stocked => ⟨trivial, ?_⟩
  refine declare_leads_stocked stocked fun before there => ?_
  show s.types.KnowsAll (_ ++ ((written.elim [] TypeRef.handles) ++ _))
  rw [blank]
  exact there

lemma declareField_stocks {field : Declaration} (blank : field.handles = []) : RunStocks P (declareField field) := by
  simp only [Declaration.handles, List.append_eq_nil_iff] at blank
  exact declareVariable_stocks field.id field.name blank.1.1

lemma declareParameter_stocks {parameter : Parameter} (blank : parameter.handles = []) :
    RunStocks P (declareParameter parameter) :=
  declareVariable_stocks parameter.id parameter.name blank

lemma declareTypeParameter_stocks (scope : ScopeId) {name : Span} (called : P name.content) :
    StepStocks P (declareTypeParameter scope name) := by
  refine fun s stocked => ⟨trivial, ?_⟩
  have registered := stocked.registered ⟨name.content, .parameter⟩ nofun called
  exact declare_leads_stocked registered fun before => knowsAll_insert_type (register_adds s.types _).knows

lemma declareTypeParameters_stocks (scope : ScopeId) {names : Option (List Span)}
    (called : ∀ piece ∈ typeParameterPieces names, P piece.span.content) :
    StepStocks P (declareTypeParameters scope names) :=
  .forM fun name mem => declareTypeParameter_stocks scope (called (.leaf name) (List.mem_map_of_mem mem))

lemma declareType_stocks (scope : ScopeId) (node : NodeId) {name : Span} (called : P name.content) (arity : Nat) :
    StepStocks P (declareType scope node name arity) := by
  refine fun s stocked => ⟨trivial, ?_⟩
  have adds := register_adds s.types ⟨name.content, .user node⟩
  have registered := stocked.registered ⟨name.content, .user node⟩ nofun called
  have defined : Stocked P { s with
      types := (s.types.register ⟨name.content, .user node⟩).2
      definedTypes := (node, (s.types.register ⟨name.content, .user node⟩).1) :: s.definedTypes } :=
    ⟨⟨registered.known.builtins, registered.known.elements, registered.known.symbols, registered.known.declared,
      registered.known.inferred, List.forall_mem_cons.mpr ⟨adds.knows, registered.known.defined⟩,
      registered.known.returned, registered.known.findings⟩, registered.names⟩
  exact declare_leads_stocked defined fun before => knowsAll_insert_type adds.knows

lemma declareFunction_stocks (scope own : ScopeId) (node : NodeId) (name : Span) (arity : Nat)
    {parameters : List Parameter} {returns : Option TypeRef} (blank : parameters.flatMap Parameter.handles = [])
    (blank' : returns.elim [] TypeRef.handles = []) :
    StepStocks P (declareFunction scope own node name arity parameters returns) := by
  refine fun s stocked => ⟨trivial, ?_⟩
  refine declare_leads_stocked stocked fun before there => ?_
  simp only [Scope.handles, Symbol.insert, List.flatMap_cons, List.flatMap_map, blank', knowsAll_append] at there ⊢
  rw [show parameters.flatMap (fun parameter => parameter.written.handles) = [] from blank]
  exact ⟨⟨there.1.1, ⟨knowsAll_nil, knowsAll_nil⟩, there.1.2⟩, there.2⟩

/-! ## Declaring -/

mutual

/-- Declaring what is in a blank block keeps all handles known. -/
lemma declareBlock_stocks : ∀ x : Block, x.handles = [] → (∀ piece ∈ x.pieces, P piece.span.content) →
    RunStocks P (declareBlock x)
  | ⟨id, _, statements, _⟩, blank, called => by
    rw [Block.pieces, List.forall_mem_cons] at called
    rw [declareBlock]
    refine RunKeeps.get.bind fun s _ => (RunKeeps.lift (openUnder_stocks _)).bind fun scope _ => ?_
    refine (RunKeeps.lift (enter_stocks scope)).bind fun _ _ => ?_
    refine (declareStatements_stocks statements blank called.2).bind fun _ _ => ?_
    exact (RunKeeps.lift leave_stocks).bind fun _ _ => close_stocks id scope

lemma declareStatements_stocks : ∀ x : List Statement, statementsHandles x = [] →
    (∀ piece ∈ statementPieces x, P piece.span.content) → RunStocks P (declareStatements x)
  | [], _, _ => by
    rw [declareStatements]
    exact .pure trivial
  | statement :: rest, blank, called => by
    rw [statementsHandles, List.append_eq_nil_iff] at blank
    rw [statementPieces, List.forall_mem_append] at called
    rw [declareStatements]
    exact (declareStatement_stocks statement blank.1 called.1).bind fun _ _ =>
      declareStatements_stocks rest blank.2 called.2

lemma declareStatement_stocks : ∀ x : Statement, x.handles = [] → (∀ piece ∈ x.pieces, P piece.span.content) →
    RunStocks P (declareStatement x)
  | .type definition, blank, called => by
    rw [declareStatement]
    refine RunKeeps.get.bind fun s _ => ?_
    split
    · exact .lift (report_stocks _ rfl _)
    · exact declareTypeDef_stocks definition blank called
  | .function definition, blank, called => by
    rw [declareStatement]
    refine RunKeeps.get.bind fun s _ => ?_
    split
    · exact .lift (report_stocks _ rfl _)
    · exact declareFunctionDef_stocks definition blank called
  | .variable declaration, blank, called => by
    rw [declareStatement]
    exact declareField_stocks blank
  | .whileLoop keyword condition body, blank, called => by
    rw [Statement.handles, List.append_eq_nil_iff] at blank
    rw [Statement.pieces, List.forall_mem_cons, List.forall_mem_append] at called
    rw [declareStatement]
    exact declareBlock_stocks body blank.2 called.2.2
  | .conditional conditional, blank, called => by
    rw [declareStatement]
    exact declareConditional_stocks conditional blank called
  | .returning .., _, _ | .breaking _, _, _ | .continuing _, _, _ | .importing .., _, _ | .path .., _, _
  | .expression _, _, _ => by
    rw [declareStatement]
    exact .pure trivial

lemma declareConditional_stocks : ∀ x : Conditional, x.handles = [] →
    (∀ piece ∈ x.pieces, P piece.span.content) → RunStocks P (declareConditional x)
  | ⟨condition, body, otherwise, keyword⟩, blank, called => by
    simp only [Conditional.handles, List.append_eq_nil_iff] at blank
    simp only [Conditional.pieces, List.forall_mem_cons, List.forall_mem_append] at called
    rw [declareConditional]
    exact (declareBlock_stocks body blank.1.2 called.2.2.1).bind fun _ _ =>
      declareOtherwise_stocks otherwise blank.2 called.2.2.2

lemma declareOtherwise_stocks : ∀ x : Otherwise, x.handles = [] → (∀ piece ∈ x.pieces, P piece.span.content) →
    RunStocks P (declareOtherwise x)
  | .nothing, _, _ => by
    rw [declareOtherwise]
    exact .pure trivial
  | .conditional conditional, blank, called => by
    rw [declareOtherwise]
    exact declareConditional_stocks conditional blank called
  | .block block, blank, called => by
    rw [declareOtherwise]
    exact declareBlock_stocks block blank called

lemma declareFunctionDef_stocks : ∀ x : FunctionDef, x.handles = [] →
    (∀ piece ∈ x.pieces, P piece.span.content) → RunStocks P (declareFunctionDef x)
  | ⟨id, name, typeParameters, parameters, returns, body, keyword⟩, blank, called => by
    simp only [FunctionDef.handles, List.append_eq_nil_iff] at blank
    simp only [FunctionDef.pieces, List.forall_mem_cons, List.forall_mem_append] at called
    obtain ⟨⟨parameters_blank, returns_blank⟩, body_blank⟩ := blank
    obtain ⟨-, -, names, -, -, inside⟩ := called
    rw [declareFunctionDef]
    refine currentScope_stocks.bind fun scope _ => (RunKeeps.lift (openUnder_stocks _)).bind fun own _ => ?_
    refine (RunKeeps.lift (declareFunction_stocks scope own id name _ parameters_blank returns_blank)).bind
      fun _ _ => ?_
    refine (RunKeeps.lift (enter_stocks own)).bind fun _ _ => ?_
    refine (RunKeeps.lift (declareTypeParameters_stocks own names)).bind fun _ _ => ?_
    refine (RunKeeps.forM fun parameter mem =>
      declareParameter_stocks (List.flatMap_eq_nil_iff.mp parameters_blank parameter mem)).bind fun _ _ => ?_
    have inner : RunStocks P (insideFunction (declareBlock body)) :=
      (declareBlock_stocks body body_blank inside).insideFunction (fun _ stocked => stocked.framed)
        fun _ stocked => stocked.framed
    exact inner.bind fun _ _ => (RunKeeps.lift leave_stocks).bind fun _ _ => close_stocks id own

lemma declareFunctionDefs_stocks : ∀ x : List FunctionDef, functionsHandles x = [] →
    (∀ piece ∈ functionPieces x, P piece.span.content) → RunStocks P (declareFunctionDefs x)
  | [], _, _ => by
    rw [declareFunctionDefs]
    exact .pure trivial
  | definition :: rest, blank, called => by
    rw [functionsHandles, List.append_eq_nil_iff] at blank
    rw [functionPieces, List.forall_mem_append] at called
    rw [declareFunctionDefs]
    exact (declareFunctionDef_stocks definition blank.1 called.1).bind fun _ _ =>
      declareFunctionDefs_stocks rest blank.2 called.2

lemma declareTypeDef_stocks : ∀ x : TypeDef, x.handles = [] → (∀ piece ∈ x.pieces, P piece.span.content) →
    RunStocks P (declareTypeDef x)
  | ⟨id, name, typeParameters, fields, methods, keyword, binding⟩, blank, called => by
    simp only [TypeDef.handles, List.append_eq_nil_iff] at blank
    simp only [TypeDef.pieces, List.forall_mem_cons, List.forall_mem_append] at called
    obtain ⟨⟨fields_blank, methods_blank⟩, -⟩ := blank
    obtain ⟨-, named, names, -, inside⟩ := called
    rw [declareTypeDef]
    refine currentScope_stocks.bind fun scope _ => ?_
    refine (RunKeeps.lift (declareType_stocks scope id named _)).bind fun _ _ => ?_
    refine (RunKeeps.lift (openUnder_stocks _)).bind fun own _ => (RunKeeps.lift (enter_stocks own)).bind fun _ _ => ?_
    refine (RunKeeps.lift (declareTypeParameters_stocks own names)).bind fun _ _ => ?_
    refine (RunKeeps.forM fun field mem =>
      declareField_stocks (List.flatMap_eq_nil_iff.mp fields_blank field mem)).bind fun _ _ => ?_
    refine (declareFunctionDefs_stocks methods methods_blank inside).bind fun _ _ => ?_
    exact (RunKeeps.lift leave_stocks).bind fun _ _ => close_stocks id own

end

/-- In a fresh state all handles are known. -/
lemma stocked_initial (builtins : ∀ info ∈ TypeRegistry.initial.entries.toList, P info.name) :
    Stocked P .initial where
  known :=
    { builtins := Nat.le_refl 6
      elements := fun array element there => absurd ((element?_initial array).symm.trans there) nofun
      symbols := fun scope found there => by cases there
      declared := nofun
      inferred := nofun
      defined := nofun
      returned := nofun
      findings := nofun }
  names := builtins

/-! ## Names -/

/-- A known type has a name as stated. -/
lemma Stocked.called (stocked : Stocked P s) {type : TypeId} (known : s.types.Knows type) :
    ∃ info, s.types.info? type = some info ∧ P info.name := by
  have registered : s.types.info? type = some s.types.entries[type.index] := Array.getElem?_eq_getElem known
  exact ⟨_, registered, stocked.names _ (Array.mem_toList_iff.mpr (Array.mem_of_getElem? registered))⟩

/-- If the names of types are as stated, so are those of arrays of them, and the names that are registered along a path
of changes. -/
lemma Stocked.path (stocked : Stocked P s) (array : ∀ name, P name → P (name ++ "[]")) (path : Path s t) :
    Stocked P t := by
  induction path with
  | refl => exact stocked
  | @tail before after _ change ih =>
    refine ⟨change.allKnown ih.known, ?_⟩
    cases change with
    | array element there =>
      show ∀ info ∈ (before.types.arrayOf element).2.entries.toList, P info.name
      unfold TypeRegistry.arrayOf
      split
      · exact ih.names
      · intro info mem
        rcases List.mem_append.mp (Array.toList_push ▸ mem) with old | last
        · exact ih.names info old
        · obtain rfl := List.mem_singleton.mp last
          obtain ⟨info, registered, called⟩ := ih.called there
          refine array _ ?_
          rwa [TypeRegistry.name, registered]
    | _ => exact ih.names

/-- A name that does not begin like the one that is shown for an unknown type. -/
def Shown (name : String) : Prop :=
  name.toList.head? ≠ some '?'

instance (name : String) : Decidable (Shown name) :=
  inferInstanceAs (Decidable (name.toList.head? ≠ some '?'))

/-- No built-in type is shown like an unknown one. -/
lemma shown_builtins : ∀ info ∈ TypeRegistry.initial.entries.toList, Shown info.name := by
  decide +kernel

/-- An array type is shown like its elements. -/
lemma Shown.array {name : String} (shown : Shown name) : Shown (name ++ "[]") := by
  unfold Shown at shown ⊢
  rw [String.toList_append, List.head?_append]
  cases e : name.toList.head? with
  | none => decide
  | some c =>
    rw [e] at shown
    exact shown

/-- No lexeme with a kind begins with a question mark. -/
lemma shown_of_mem_lexemes {text : List Char} {lexeme : Token.Lexeme} {kind : Token.Kind}
    (mem : lexeme ∈ Token.lexemes text) (h : lexeme.kind? = some kind) : lexeme.text.head? ≠ some '?' := by
  fun_induction Token.lexemes text with
  | case1 => cases mem
  | case2 c rest found length munched ih =>
    rcases List.mem_cons.mp mem with rfl | mem
    · rintro ⟨⟩
      -- No rule has anything for a question mark, whatever follows.
      cases munched.symm.trans (rfl : Token.munch? ('?' :: rest) = none)
    · exact ih mem
  | case3 c rest _ ih =>
    rcases List.mem_cons.mp mem with rfl | mem
    · cases h
    · exact ih mem

/-- No token of a text begins with a question mark. -/
lemma shown_of_mem_scan {file source : String} {token : Token} (mem : token ∈ (Token.scan file source).tokens) :
    Shown token.span.content := by
  obtain ⟨body, last, tokens, -, -, empty, found⟩ := Token.scanFrom_tokens file .start (Token.lexemes source.toList)
  rw [Token.scan, tokens, List.mem_append, List.mem_singleton] at mem
  unfold Shown
  rcases mem with mem | rfl
  · obtain ⟨-, lexeme, mem, known, text⟩ := found token mem
    rw [text, String.toList_ofList]
    exact shown_of_mem_lexemes mem known
  · rw [Span.content, empty]
    decide

/-- The pieces of a parsed text do not begin with a question mark. -/
lemma shown_of_fromTokens {file source : String} {piece : Piece}
    (h : Grammar.FromTokens ((Grammar.Cursor.onFirst (Token.scan file source).tokens).skip .insensitive) piece) :
    Shown piece.span.content := by
  cases piece with
  | link identifier =>
    obtain ⟨token, mem, -, rfl⟩ := h
    exact shown_of_mem_scan (pending_onFirst _ mem)
  | leaf span | mark span =>
    obtain rfl | ⟨token, mem, rfl⟩ := h
    · obtain ⟨body, last, e, kind, -⟩ := Token.endsOnce_scan file source
      rw [e, Grammar.onFirst_append kind]
      exact shown_of_mem_scan (e ▸ List.mem_append_right _ List.mem_cons_self)
    · exact shown_of_mem_scan (pending_onFirst _ mem)

/-! ## Programs -/

/-- A routine that is run on nodes with known handles, where all handles are known, makes changes only, ends where it
began unless it ends with a fault, and gives known handles. -/
def Reading {ν α : Type} (handles : ν → List TypeId) (routine : ν → Visit ν α) (given : α → List TypeId) : Prop :=
  ∀ node s, AllKnown s → s.types.KnowsAll (handles node) → VisitReads handles given (routine node) s

/-- A routine that gives the type of a node, too. -/
abbrev TypedReading {ν : Type} (handles : ν → List TypeId) (routine : ν → Visit ν (ν × Option TypeId)) : Prop :=
  Reading handles routine fun visited => handles visited.1 ++ visited.2.toList

/-- All routines of visiting make changes only and end where they began. -/
structure VisitingReads : Prop where
  resolve scope written s : AllKnown s → StepReads Option.toList (resolve scope written) s
  declaredType node scope written s : AllKnown s → StepReads Option.toList (declaredType node scope written) s
  bindDeclared node scope written s : AllKnown s → s.types.KnowsAll written.handles →
    StepReads (fun bound => bound.1.handles ++ bound.2.toList) (bindDeclared node scope written) s
  bindTypeArguments : Reading optionalHandles bindTypeArguments fun bound => optionalHandles bound.1
  bindVariable owner identifier s : AllKnown s → s.types.KnowsAll owner.toList → s.types.KnowsAll identifier.handles →
    TypedReads Identifier.handles (bindVariable owner identifier) s
  checkArguments identifier symbol arguments s : AllKnown s → s.types.KnowsAll (argumentTypes arguments) →
    StepReads (fun _ => []) (checkArguments identifier symbol arguments) s
  bindFunction owner arity arguments identifier s : AllKnown s → s.types.KnowsAll owner.toList →
    s.types.KnowsAll (argumentTypes arguments) → s.types.KnowsAll identifier.handles →
    TypedReads Identifier.handles (bindFunction owner arity arguments identifier) s
  bindConstructed arity : TypedReading Identifier.handles (bindConstructed arity)
  operationType operator span left right s : AllKnown s → s.types.KnowsAll left.toList →
    s.types.KnowsAll right.toList → StepReads Option.toList (operationType operator span left right) s
  checkIndex index type s : s.types.KnowsAll type.toList → StepReads (fun _ => []) (checkIndex index type) s
  expr : TypedReading Expr.handles visitExpr
  expression : TypedReading Expression.handles visitExpression
  chain : TypedReading Chain.handles visitChain
  new : TypedReading Chain.handles visitNew
  links owner links s : AllKnown s → s.types.KnowsAll owner.toList → s.types.KnowsAll (linksHandles links) →
    TypedReads linksHandles (visitLinks owner links) s
  link owner link s : AllKnown s → s.types.KnowsAll owner.toList → s.types.KnowsAll link.handles →
    TypedReads Link.handles (visitLink owner link) s
  made : TypedReading Link.handles visitMade
  arguments : Reading argumentsHandles visitArguments fun visited =>
    argumentsHandles visited.1 ++ argumentTypes visited.2
  declaration : Reading Declaration.handles visitDeclaration Declaration.handles
  declarations : Reading (List.flatMap Declaration.handles) visitDeclarations (List.flatMap Declaration.handles)
  parameters scope parameters s : AllKnown s → s.types.KnowsAll (parameters.flatMap Parameter.handles) →
    StepReads (List.flatMap Parameter.handles) (visitParameters scope parameters) s
  returns node scope returns s : AllKnown s → s.types.KnowsAll (returns.elim [] TypeRef.handles) →
    StepReads (fun returned => returned.1.elim [] TypeRef.handles ++ returned.2.toList)
      (visitReturns node scope returns) s
  returning keyword : Reading valueHandles (visitReturning keyword) valueHandles
  block : Reading Block.handles visitBlock Block.handles
  statements : Reading statementsHandles visitStatements statementsHandles
  statement : Reading Statement.handles visitStatement Statement.handles
  conditional : Reading Conditional.handles visitConditional Conditional.handles
  otherwise : Reading Otherwise.handles visitOtherwise Otherwise.handles
  functionDef : Reading FunctionDef.handles visitFunctionDef FunctionDef.handles
  functionDefs : Reading functionsHandles visitFunctionDefs functionsHandles
  typeDef : Reading TypeDef.handles visitTypeDef TypeDef.handles

lemma visitingReads : VisitingReads where
  resolve scope written _ known := resolve_reads scope written known
  declaredType node scope written _ known := declaredType_reads known node scope written
  bindDeclared node scope _ _ known there := bindDeclared_reads known node scope there
  bindTypeArguments _ _ known there := bindTypeArguments_reads known there
  bindVariable _ _ _ known owner there := bindVariable_reads known owner there
  checkArguments identifier symbol _ _ known there := checkArguments_reads known identifier symbol there
  bindFunction _ arity _ _ _ known owner arguments there := bindFunction_reads known owner arity arguments there
  bindConstructed arity _ _ known there := bindConstructed_reads known arity there
  operationType operator span _ _ _ known left right := operationType_reads known operator span left right
  checkIndex index _ _ known := checkIndex_reads index known
  expr node _ known there := visitExpr_reads node known there
  expression node _ known there := visitExpression_reads node known there
  chain node _ known there := visitChain_reads node known there
  new node _ known there := visitNew_reads node known there
  links _ links _ known owner there := visitLinks_reads links known owner there
  link _ link _ known owner there := visitLink_reads link known owner there
  made link _ known there := visitMade_reads link known there
  arguments list _ known there := visitArguments_reads list known there
  declaration _ _ known there := visitDeclaration_reads known there
  declarations list _ known there := visitDeclarations_reads list known there
  parameters scope list _ known there := visitParameters_reads scope list known there
  returns node scope _ _ known there := visitReturns_reads known node scope there
  returning keyword _ _ known there := visitReturning_reads known keyword there
  block node _ known there := visitBlock_reads node known there
  statements list _ known there := visitStatements_reads list known there
  statement node _ known there := visitStatement_reads node known there
  conditional node _ known there := visitConditional_reads node known there
  otherwise node _ known there := visitOtherwise_reads node known there
  functionDef node _ known there := visitFunctionDef_reads node known there
  functionDefs list _ known there := visitFunctionDefs_reads list known there
  typeDef node _ known there := visitTypeDef_reads node known there

/-- A root is declared in a fresh state and then visited from the first state to the second. All handles that are kept
are known at every moment of the visit; compared with the start of it, there are only more array types and what is said
about types, and the visit ends in no scope and in no function. -/
structure VisitedOnly (root : Block) (s : State) (filled : Block) (t : State) : Prop where
  collected : declareBlock root .initial = .ok () s
  visited : visitBlock root s = .ok filled t
  path : Path s t
  moments : ∀ moment, Path s moment → Extends s moment ∧ AllKnown moment
  frame : SameFrame s t
  handles : t.types.KnowsAll filled.handles

/-- The types in what was found are known, and their names are as stated. -/
def Analyzed.NamesTypes (analyzed : Analyzed) (P : String → Prop) : Prop :=
  ∀ finding ∈ analyzed.findings, ∀ type ∈ finding.problem.types,
    ∃ info, analyzed.state.types.info? type = some info ∧ P info.name

/-- Declaring in a fresh state and visiting succeed, and visiting only reads what was declared. -/
lemma visited_only {Q : Piece → Prop} {file : String} (sameFile : ∀ piece, Q piece → piece.span.file = file)
    {program : Program} (nodup : program.root.ids.Nodup) (pieces : ∀ piece ∈ program.root.pieces, Q piece)
    (blank : program.root.Blank) (builtins : ∀ info ∈ TypeRegistry.initial.entries.toList, P info.name)
    (names : ∀ piece ∈ program.root.pieces, P piece.span.content) (array : ∀ name, P name → P (name ++ "[]")) :
    (∃ s filled t, VisitedOnly program.root s filled t) ∧ (analyze .initial program).NamesTypes P := by
  have unbound : program.root.handles = [] := blank.handles
  have ready : Ready none false .initial program.root.ids := ⟨rfl, nofun, rfl, nodup, fun _ _ => rfl⟩
  obtain ⟨_, s, ran, declared⟩ := declareBlock_succeeds program.root ready pieces
  have visiting := visiting_declared declared
  have depth : decide (0 < s.functionDepth) = false := by
    rw [declared.frame.functionDepth]
    rfl
  have laid : program.root.Laid Q s.scopes false 6 none := declared.laid s (.refl _ _ _)
  obtain ⟨filled, t, ran', -⟩ := visitBlock_succeeds sameFile program.root visiting depth laid pieces
  have stocked : Stocked P s := by
    have kept := declareBlock_stocks program.root unbound names .initial (stocked_initial builtins)
    rw [ran] at kept
    exact kept.2
  have known : s.types.KnowsAll program.root.handles := by
    rw [unbound]
    exact knowsAll_nil
  have reads := visitBlock_reads program.root stocked.known known
  rw [VisitReads, VisitMakes, ran'] at reads
  obtain ⟨frame, path, handles⟩ := reads
  have e : analyze .initial program = finish program filled none t := by
    have both : runBlock program.root .initial = .ok filled t := by
      simp only [runBlock, bind, EStateM.bind, EStateM.adaptExcept, ran, ran']
    rw [analyze, both]
  refine ⟨⟨s, filled, t, ran, ran', path, fun moment path => ⟨path.extend, path.allKnown stocked.known⟩, frame, handles⟩,
    fun finding mem type there => ?_⟩
  rw [e] at mem ⊢
  have later := stocked.path array path
  exact later.called (later.known.findings finding mem type there)

/-- Visiting only reads the scopes and only adds array types. Each of its routines follows a path of changes and ends
where it began; no change on a path touches what was declared except for adding array types to the registry, and all
handles stay known along it. After a fresh state has declared what is in a parsed program of one file, all handles are
known, and so they are at every moment of the visit and in the tree that it gives. So messages never show the mark for
an unknown type, neither on its own nor for the elements of an array. -/
theorem visiting_only_reads :
    VisitingReads ∧
    (∀ s t, Path s t → Extends s t ∧ (AllKnown s → AllKnown t)) ∧
    (∀ file tokens, (∀ token ∈ tokens, token.span.file = file) →
      (∃ s filled t, VisitedOnly (Grammar.parse tokens).program.root s filled t) ∧
        (analyze .initial (Grammar.parse tokens).program).NamesTypes fun _ => True) ∧
    ∀ file source,
      (analyze .initial (Grammar.parse (Token.scan file source).tokens).program).NamesTypes Shown := by
  refine ⟨visitingReads, fun s t path => ⟨path.extend, path.allKnown⟩, fun file tokens same => ?_,
    fun file source => ?_⟩
  · obtain ⟨file, sameFile⟩ := file_of_fromTokens same
    obtain ⟨pieces, nodup⟩ := parse_fit tokens
    exact visited_only sameFile nodup pieces (Grammar.parse_blank tokens) (fun _ _ => trivial) (fun _ _ => trivial)
      fun _ _ => trivial
  · obtain ⟨file', sameFile⟩ := file_of_fromTokens
      fun token (mem : token ∈ (Token.scan file source).tokens) => Token.file_of_mem_scan mem
    obtain ⟨pieces, nodup⟩ := parse_fit (Token.scan file source).tokens
    refine (visited_only (P := Shown) sameFile nodup pieces (Grammar.parse_blank _) shown_builtins (fun piece mem => ?_)
      fun name => Shown.array).2
    exact shown_of_fromTokens (pieces piece mem)

/-- Types of arrays that are made while a broken program with a type and a function is visited: they are added to the
registry behind those that were declared, and the messages show their names. -/
theorem visiting_only_reads_broken :
    let tokens := (Token.scan "a" ("type B \x7b\nv: int[] -> [1\nfunction f(x: Q): int \x7b\nv[x] -> v[0\n" ++
      "return new [v]\n\x7d\n\x7d\nb: -> new B[n]\nb[0].f(new [b]) -> b\n")).tokens
    let analyzed := analyze .initial (Grammar.parse tokens).program
    (∀ token ∈ tokens, token.span.file = "a") ∧
      ((Grammar.parse tokens).diagnostics.map Diagnostic.message = ["Invalid term in expression.",
          "Expected function or variable declaration.", "Indexor is missing ]."] ∧
        analyzed.state.types.entries.toList.map TypeInfo.name = ["nothing", "int", "decimal", "bool", "str", "byte", "B",
          "int[]", "int[][]", "B[]", "B[][]"] ∧
        analyzed.diagnostics.map Diagnostic.message = ["Cannot find type Q.",
          "Return type mismatch: expected int but found int[][].", "Missing variable n.",
          "Cannot assign to the result of a function call.", "Type mismatch in expression: int <-> B[]."]) ∧
      (∃ s filled t, VisitedOnly (Grammar.parse tokens).program.root s filled t) ∧
        analyzed.NamesTypes fun _ => True := by
  intro tokens analyzed
  have same : ∀ token ∈ tokens, token.span.file = "a" := fun _ => Token.file_of_mem_scan
  exact ⟨same, by decide +kernel, visiting_only_reads.2.2.1 "a" tokens same⟩

end ArrowScript.Analysis
