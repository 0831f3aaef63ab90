import ArrowScript.Proofs.Analysis.RecastExpressions

/-!
# Programs, recast

Analyzing a recast program in a recast state is the recast of analyzing the program (`analyze_recast`), as long as it
goes unnoticed.
-/

namespace ArrowScript.Analysis

variable {recast : Recast}

/-! ## Declaring -/

/-- The innermost scope is found alike. -/
lemma currentScope_carries : RunsCarry recast.state id id currentScope currentScope :=
  .ask (fun _ => rfl) scope_recast

/-- Scopes are added alike. -/
lemma openUnder_carries (parent : Option ScopeId) :
    StepsCarry recast.state id (openUnder parent) (openUnder parent) := by
  refine .modifyGet fun s => ?_
  have same : (recast.state s).scopes.openUnder parent = _ := s.scopes.openUnder_recast parent
  simp only [same]
  rfl

/-- The scope of a node is recorded alike. -/
lemma close_carries (node : NodeId) (scope : ScopeId) :
    RunsCarry recast.state id id (close node scope) (close node scope) := by
  have closed (s : State) : (recast.state s).scopes.close node scope = _ := s.scopes.close_recast node scope
  refine RunsCarry.bind (.ask (fun _ => rfl) closed) fun scopes => ?_
  exact .changed fun s => rfl

section
variable {σ : Type} [Symbol σ] [Recastable σ]

/-- A symbol is declared alike under the recast key. -/
lemma declare_carries (unnoticed : recast.Unnoticed) (what : Declared) (scope : ScopeId) (key : String) (name : Span)
    (symbol : σ) : StepsCarry recast.state id (declare what scope key name symbol)
      (declare what scope (recast.key key) (recast.name name) (Recastable.recast recast symbol)) := by
  refine .bind (f := Option.map recast.name) (.modifyGet fun s => ?_) fun first? => ?_
  · have same : (recast.state s).scopes.declare scope (recast.key key) (Recastable.recast recast symbol) = _ :=
      s.scopes.declare_recast unnoticed.injective scope key symbol
    simp only [same]
    rfl
  · cases first? with
    | none => exact .pure rfl
    | some first =>
      refine report_carries ?_
      rw [unnoticed.content]
      rfl

end

/-- A variable is declared alike. -/
lemma declareVariable_carries (unnoticed : recast.Unnoticed) (node : NodeId) (name : Span) (written : Option TypeRef) :
    RunsCarry recast.state id id (declareVariable node name written)
      (declareVariable node (recast.name name) (written.map (TypeRef.respan recast.name))) := by
  refine currentScope_carries.bind fun scope => .lift ?_
  rw [id, unnoticed.content]
  exact declare_carries unnoticed .variable scope name.content name (⟨node, name, scope, written⟩ : VariableSymbol)

/-- A field or variable is declared alike. -/
lemma declareField_carries (unnoticed : recast.Unnoticed) (field : Declaration) :
    RunsCarry recast.state id id (declareField field) (declareField (field.respan recast.name recast.mark)) :=
  declareVariable_carries unnoticed field.id field.name field.written

/-- A parameter is declared alike. -/
lemma declareParameter_carries (unnoticed : recast.Unnoticed) (parameter : Parameter) :
    RunsCarry recast.state id id (declareParameter parameter) (declareParameter (parameter.respan recast.name)) :=
  declareVariable_carries unnoticed parameter.id parameter.name (some parameter.written)

/-- A type parameter is registered and declared alike. -/
lemma declareTypeParameter_carries (unnoticed : recast.Unnoticed) (scope : ScopeId) (name : Span) :
    StepsCarry recast.state id (declareTypeParameter scope name) (declareTypeParameter scope (recast.name name)) := by
  refine .bind (f := id) (.modifyGet fun s => ?_) fun type => ?_
  · have same : (recast.state s).types.registerParameter (recast.key name.content) = _ :=
      unnoticed.registerParameter s.types name.content
    simp only [unnoticed.content, same]
    rfl
  · rw [unnoticed.content]
    exact declare_carries unnoticed .type scope name.content name (⟨type, name⟩ : TypeSymbol)

/-- The type parameters of a definition are declared alike. -/
lemma declareTypeParameters_carries (unnoticed : recast.Unnoticed) (scope : ScopeId) (names : Option (List Span)) :
    StepsCarry recast.state id (declareTypeParameters scope names)
      (declareTypeParameters scope (names.map (List.map recast.name))) := by
  cases names with
  | none => exact .pure rfl
  | some names => exact .forM (declareTypeParameter_carries unnoticed scope) names

/-- A defined type is registered and declared alike. -/
lemma declareType_carries (unnoticed : recast.Unnoticed) (scope : ScopeId) (node : NodeId) (name : Span)
    (arity : Nat) : StepsCarry recast.state id (declareType scope node name arity)
      (declareType scope node (recast.name name) arity) := by
  refine .bind (f := id) (.modifyGet fun s => ?_) fun type => ?_
  · have same : (recast.state s).types.registerUser (recast.key name.content) node = _ :=
      unnoticed.registerUser s.types name.content node
    simp only [unnoticed.content, same]
    rfl
  · rw [unnoticed.content, ← unnoticed.mangle]
    exact declare_carries unnoticed .type scope _ name (⟨type, name⟩ : TypeSymbol)

/-- A function is declared alike. -/
lemma declareFunction_carries (unnoticed : recast.Unnoticed) (scope own : ScopeId) (node : NodeId) (name : Span)
    (arity : Nat) (parameters : List Parameter) (returns : Option TypeRef) :
    StepsCarry recast.state id (declareFunction scope own node name arity parameters returns)
      (declareFunction scope own node (recast.name name) arity (parameters.map (Parameter.respan recast.name))
        (returns.map (TypeRef.respan recast.name))) := by
  have declares := declare_carries unnoticed .function scope (mangle name.content arity) name
    (⟨node, name, own, parameters.map fun parameter => (parameter.id, parameter.written), returns⟩ : FunctionSymbol)
  have parts : Recastable.recast recast (⟨node, name, own,
      parameters.map fun parameter => (parameter.id, parameter.written), returns⟩ : FunctionSymbol) =
      ⟨node, recast.name name, own, (parameters.map (Parameter.respan recast.name)).map fun parameter =>
        (parameter.id, parameter.written), returns.map (TypeRef.respan recast.name)⟩ := by
    show FunctionSymbol.mk _ _ _ (List.map _ (List.map _ _)) _ = _
    rw [List.map_map, List.map_map]
    rfl
  unfold declareFunction
  rwa [unnoticed.content, ← unnoticed.mangle, ← parts]

mutual

/-- What is in a block is declared alike. -/
lemma declareBlock_carries (unnoticed : recast.Unnoticed) : ∀ x : Block,
    RunsCarry recast.state id id (declareBlock x) (declareBlock (x.respan recast.name recast.mark))
  | ⟨id, kind, statements, span⟩ => by
    rw [Block.respan, declareBlock, declareBlock]
    refine RunsCarry.get.bind fun s => (RunsCarry.lift (openUnder_carries s.active.head?)).bind fun scope => ?_
    refine (RunsCarry.lift (enter_carries scope)).bind fun _ => ?_
    refine (declareStatements_carries unnoticed statements).bind fun _ => ?_
    exact (RunsCarry.lift leave_carries).bind fun _ => close_carries id scope

lemma declareStatements_carries (unnoticed : recast.Unnoticed) : ∀ x : List Statement,
    RunsCarry recast.state id id (declareStatements x) (declareStatements (statementsRespan recast.name recast.mark x))
  | [] => by
    rw [statementsRespan, declareStatements]
    exact .pure rfl
  | statement :: rest => by
    rw [statementsRespan, declareStatements, declareStatements]
    exact (declareStatement_carries unnoticed statement).bind fun _ => declareStatements_carries unnoticed rest

lemma declareStatement_carries (unnoticed : recast.Unnoticed) : ∀ x : Statement,
    RunsCarry recast.state id id (declareStatement x) (declareStatement (x.respan recast.name recast.mark))
  | .type definition => by
    rw [Statement.respan, declareStatement, declareStatement]
    refine RunsCarry.get.bind fun s => ?_
    show RunsCarry recast.state id id _ (if 0 < s.functionDepth then _ else _)
    split
    · rw [definition.keyword_respan]
      exact .lift (report_carries rfl)
    · exact declareTypeDef_carries unnoticed definition
  | .function definition => by
    rw [Statement.respan, declareStatement, declareStatement]
    refine RunsCarry.get.bind fun s => ?_
    show RunsCarry recast.state id id _ (if 0 < s.functionDepth then _ else _)
    split
    · rw [definition.keyword_respan]
      exact .lift (report_carries rfl)
    · exact declareFunctionDef_carries unnoticed definition
  | .variable declaration => by
    rw [Statement.respan, declareStatement, declareStatement]
    exact declareField_carries unnoticed declaration
  | .whileLoop keyword condition body => by
    rw [Statement.respan, declareStatement, declareStatement]
    exact declareBlock_carries unnoticed body
  | .conditional conditional => by
    rw [Statement.respan, declareStatement, declareStatement]
    exact declareConditional_carries unnoticed conditional
  | .returning .. | .breaking _ | .continuing _ | .importing .. | .path .. | .expression _ => by
    simp only [Statement.respan, declareStatement]
    exact .pure rfl

lemma declareConditional_carries (unnoticed : recast.Unnoticed) : ∀ x : Conditional,
    RunsCarry recast.state id id (declareConditional x) (declareConditional (x.respan recast.name recast.mark))
  | ⟨condition, body, otherwise, keyword⟩ => by
    rw [Conditional.respan, declareConditional, declareConditional]
    exact (declareBlock_carries unnoticed body).bind fun _ => declareOtherwise_carries unnoticed otherwise

lemma declareOtherwise_carries (unnoticed : recast.Unnoticed) : ∀ x : Otherwise,
    RunsCarry recast.state id id (declareOtherwise x) (declareOtherwise (x.respan recast.name recast.mark))
  | .nothing => by
    rw [Otherwise.respan, declareOtherwise]
    exact .pure rfl
  | .conditional conditional => by
    rw [Otherwise.respan, declareOtherwise, declareOtherwise]
    exact declareConditional_carries unnoticed conditional
  | .block block => by
    rw [Otherwise.respan, declareOtherwise, declareOtherwise]
    exact declareBlock_carries unnoticed block

lemma declareFunctionDef_carries (unnoticed : recast.Unnoticed) : ∀ x : FunctionDef,
    RunsCarry recast.state id id (declareFunctionDef x) (declareFunctionDef (x.respan recast.name recast.mark))
  | ⟨id, name, typeParameters, parameters, returns, body, keyword⟩ => by
    rw [FunctionDef.respan, declareFunctionDef, declareFunctionDef, typeArity_respan]
    refine currentScope_carries.bind fun scope => (RunsCarry.lift (openUnder_carries (some scope))).bind fun own => ?_
    refine (RunsCarry.lift (declareFunction_carries unnoticed scope own id name _ parameters returns)).bind fun _ => ?_
    refine (RunsCarry.lift (enter_carries own)).bind fun _ => ?_
    refine (RunsCarry.lift (declareTypeParameters_carries unnoticed own typeParameters)).bind fun _ => ?_
    refine (RunsCarry.forM (declareParameter_carries unnoticed) parameters).bind fun _ => ?_
    refine ((declareBlock_carries unnoticed body).insideFunction (fun _ => rfl) fun _ => rfl).bind fun _ => ?_
    exact (RunsCarry.lift leave_carries).bind fun _ => close_carries id own

lemma declareFunctionDefs_carries (unnoticed : recast.Unnoticed) : ∀ x : List FunctionDef,
    RunsCarry recast.state id id (declareFunctionDefs x)
      (declareFunctionDefs (functionsRespan recast.name recast.mark x))
  | [] => by
    rw [functionsRespan, declareFunctionDefs]
    exact .pure rfl
  | definition :: rest => by
    rw [functionsRespan, declareFunctionDefs, declareFunctionDefs]
    exact (declareFunctionDef_carries unnoticed definition).bind fun _ => declareFunctionDefs_carries unnoticed rest

lemma declareTypeDef_carries (unnoticed : recast.Unnoticed) : ∀ x : TypeDef,
    RunsCarry recast.state id id (declareTypeDef x) (declareTypeDef (x.respan recast.name recast.mark))
  | ⟨id, name, typeParameters, fields, methods, keyword, binding⟩ => by
    rw [TypeDef.respan, declareTypeDef, declareTypeDef, typeArity_respan]
    refine currentScope_carries.bind fun scope => ?_
    refine (RunsCarry.lift (declareType_carries unnoticed scope id name _)).bind fun _ => ?_
    refine (RunsCarry.lift (openUnder_carries (some scope))).bind fun own => ?_
    refine (RunsCarry.lift (enter_carries own)).bind fun _ => ?_
    refine (RunsCarry.lift (declareTypeParameters_carries unnoticed own typeParameters)).bind fun _ => ?_
    refine (RunsCarry.forM (declareField_carries unnoticed) fields).bind fun _ => ?_
    refine (declareFunctionDefs_carries unnoticed methods).bind fun _ => ?_
    exact (RunsCarry.lift leave_carries).bind fun _ => close_carries id own

end

/-! ## Visiting -/

/-- Types that must go together are compared alike. -/
lemma checkExpected_carries (unnoticed : recast.Unnoticed) {problem : TypeId → TypeId → SemanticProblem}
    (same : ∀ expected found span, Finding.mk (problem expected found) (recast.mark span) =
      recast.finding ⟨problem expected found, span⟩) (expected found : Option TypeId) (span : Span) :
    StepsCarry recast.state id (checkExpected problem expected found span)
      (checkExpected problem expected found (recast.mark span)) := by
  cases expected with
  | none => exact .pure rfl
  | some expected =>
    cases found with
    | none => exact .pure rfl
    | some found =>
      refine .bind .get fun s => ?_
      rw [recast.types_state, unnoticed.compatible]
      split
      · exact .pure rfl
      · exact report_carries (same expected found span)

/-- An expression that may be absent is visited alike. -/
lemma visitOptional_carries (unnoticed : recast.Unnoticed) (value : Option Expression) :
    TypedCarry recast (Option.map (Expression.respan recast.name recast.mark)) (visitOptional visitExpression value)
      (visitOptional visitExpression (value.map (Expression.respan recast.name recast.mark))) := by
  cases value with
  | none => exact .pure rfl
  | some value =>
    exact RunsCarry.bind ((visitExpression_carries unnoticed value).within fun _ => rfl) fun visited => .pure rfl

/-- A declaration is visited alike. -/
lemma visitDeclaration_carries (unnoticed : recast.Unnoticed) (declaration : Declaration) :
    VisitsCarry recast.state (Declaration.respan recast.name recast.mark) (Declaration.respan recast.name recast.mark)
      (visitDeclaration declaration) (visitDeclaration (declaration.respan recast.name recast.mark)) := by
  obtain ⟨node, name, written, initial, type⟩ := declaration
  refine RunsCarry.bind (VisitsCarry.askFor rfl scope_recast) fun scope => ?_
  cases written with
  | some written =>
    refine (RunsCarry.lift (bindDeclared_carries unnoticed node written)).bind fun bound => ?_
    obtain ⟨written, expected⟩ := bound
    refine RunsCarry.bind ((visitOptional_carries unnoticed initial).within fun _ => rfl) fun visited => ?_
    obtain ⟨initial, found⟩ := visited
    cases initial with
    | none => exact .pure rfl
    | some value =>
      dsimp only [Prod.map, Option.map]
      rw [Expression.span_respan]
      exact (RunsCarry.lift (checkExpected_carries unnoticed (fun _ _ _ => rfl) expected found _)).bind fun _ =>
        .pure rfl
  | none =>
    refine RunsCarry.bind ((visitOptional_carries unnoticed initial).within fun _ => rfl) fun visited => ?_
    obtain ⟨initial, found⟩ := visited
    cases found with
    | none => exact .pure rfl
    | some type =>
      have kept : VisitsCarry recast.state (Declaration.respan recast.name recast.mark) id
          (modify fun s => { s with inferredTypes := (node, type) :: s.inferredTypes })
          (modify fun s => { s with inferredTypes := (node, type) :: s.inferredTypes }) :=
        .changed fun _ => rfl
      exact RunsCarry.bind kept fun _ => .pure rfl

/-- Declarations are visited alike. -/
lemma visitDeclarations_carries (unnoticed : recast.Unnoticed) (list : List Declaration) :
    VisitsCarry recast.state (List.map (Declaration.respan recast.name recast.mark))
      (List.map (Declaration.respan recast.name recast.mark))
      (visitDeclarations list) (visitDeclarations (list.map (Declaration.respan recast.name recast.mark))) := by
  induction list with
  | nil => exact .pure rfl
  | cons declaration rest ih =>
    rw [List.map_cons, visitDeclarations, visitDeclarations]
    refine RunsCarry.bind ((visitDeclaration_carries unnoticed declaration).within fun _ => rfl) fun visited => ?_
    exact RunsCarry.bind (VisitsCarry.within ih fun _ => rfl) fun others => .pure rfl

/-- The type of a parameter is filled in alike. -/
lemma visitParameter_carries (unnoticed : recast.Unnoticed) (scope : ScopeId) (parameter : Parameter) :
    StepsCarry recast.state (Parameter.respan recast.name) (visitParameter scope parameter)
      (visitParameter scope (parameter.respan recast.name)) :=
  (bindDeclared_carries unnoticed parameter.id parameter.written).bind fun _ => .pure rfl

/-- The type that a function returns is filled in alike. -/
lemma visitReturns_carries (unnoticed : recast.Unnoticed) (node : NodeId) (scope : ScopeId)
    (returns : Option TypeRef) : StepsCarry recast.state (Prod.map (Option.map (TypeRef.respan recast.name)) id)
      (visitReturns node scope returns) (visitReturns node scope (returns.map (TypeRef.respan recast.name))) := by
  cases returns with
  | none => exact .pure rfl
  | some written => exact (bindDeclared_carries unnoticed node written).bind fun bound => .pure rfl

/-- A returned value is visited alike. -/
lemma visitReturning_carries (unnoticed : recast.Unnoticed) (keyword : Span) (value : Option Expression) :
    VisitsCarry recast.state (Option.map (Expression.respan recast.name recast.mark))
      (Option.map (Expression.respan recast.name recast.mark))
      (visitReturning keyword value)
      (visitReturning (recast.mark keyword) (value.map (Expression.respan recast.name recast.mark))) := by
  refine RunsCarry.bind (visitOptional_carries unnoticed value) fun visited => RunsCarry.get.bind fun s => ?_
  obtain ⟨value, found⟩ := visited
  dsimp only [Prod.map]
  rw [Option.isSome_map]
  exact (RunsCarry.lift (checkExpected_carries unnoticed (fun _ _ _ => rfl) _ _ keyword)).bind fun _ => .pure rfl

/-- The scope of a node is the same. -/
lemma reopen_recast (node : NodeId) (s : State) :
    (recast.state s).scopes.reopen node = (s.scopes.reopen node).map id := by
  show s.scopes.reopen node = _
  cases s.scopes.reopen node <;> rfl

mutual

/-- A block is visited alike. -/
lemma visitBlock_carries (unnoticed : recast.Unnoticed) : ∀ x : Block,
    VisitsCarry recast.state (Block.respan recast.name recast.mark) (Block.respan recast.name recast.mark)
      (visitBlock x) (visitBlock (x.respan recast.name recast.mark))
  | ⟨id, kind, statements, span⟩ => by
    rw [Block.respan, visitBlock, visitBlock]
    refine RunsCarry.bind (VisitsCarry.askFor rfl (reopen_recast id)) fun scope => ?_
    refine (RunsCarry.lift (enter_carries scope)).bind fun _ => ?_
    refine RunsCarry.bind ((visitStatements_carries unnoticed statements).within fun _ => rfl) fun visited => ?_
    exact (RunsCarry.lift leave_carries).bind fun _ => .pure rfl

lemma visitStatements_carries (unnoticed : recast.Unnoticed) : ∀ x : List Statement,
    VisitsCarry recast.state (statementsRespan recast.name recast.mark) (statementsRespan recast.name recast.mark)
      (visitStatements x) (visitStatements (statementsRespan recast.name recast.mark x))
  | [] => by
    rw [statementsRespan, visitStatements]
    exact .pure rfl
  | statement :: rest => by
    rw [statementsRespan, visitStatements, visitStatements]
    refine RunsCarry.bind ((visitStatement_carries unnoticed statement).within fun _ => rfl) fun visited => ?_
    exact RunsCarry.bind ((visitStatements_carries unnoticed rest).within fun _ => rfl) fun others => .pure rfl

lemma visitStatement_carries (unnoticed : recast.Unnoticed) : ∀ x : Statement,
    VisitsCarry recast.state (Statement.respan recast.name recast.mark) (Statement.respan recast.name recast.mark)
      (visitStatement x) (visitStatement (x.respan recast.name recast.mark))
  | .type definition => by
    rw [Statement.respan, visitStatement, visitStatement]
    refine RunsCarry.get.bind fun s => ?_
    show RunsCarry recast.state _ _ _ (if 0 < s.functionDepth then _ else _)
    split
    · exact .pure rfl
    · exact RunsCarry.bind ((visitTypeDef_carries unnoticed definition).within fun _ => rfl) fun visited => .pure rfl
  | .function definition => by
    rw [Statement.respan, visitStatement, visitStatement]
    refine RunsCarry.get.bind fun s => ?_
    show RunsCarry recast.state _ _ _ (if 0 < s.functionDepth then _ else _)
    split
    · exact .pure rfl
    · exact RunsCarry.bind ((visitFunctionDef_carries unnoticed definition).within fun _ => rfl) fun visited =>
        .pure rfl
  | .variable declaration => by
    rw [Statement.respan, visitStatement, visitStatement]
    exact RunsCarry.bind ((visitDeclaration_carries unnoticed declaration).within fun _ => rfl) fun visited => .pure rfl
  | .returning keyword value => by
    rw [Statement.respan, visitStatement, visitStatement]
    exact RunsCarry.bind ((visitReturning_carries unnoticed keyword value).within fun _ => rfl) fun visited => .pure rfl
  | .whileLoop keyword condition body => by
    rw [Statement.respan, visitStatement, visitStatement]
    refine RunsCarry.bind ((visitExpression_carries unnoticed condition).within fun _ => rfl) fun visited => ?_
    exact RunsCarry.bind ((visitBlock_carries unnoticed body).within fun _ => rfl) fun visited => .pure rfl
  | .conditional conditional => by
    rw [Statement.respan, visitStatement, visitStatement]
    exact RunsCarry.bind ((visitConditional_carries unnoticed conditional).within fun _ => rfl) fun visited => .pure rfl
  | .expression expression => by
    rw [Statement.respan, visitStatement, visitStatement]
    exact RunsCarry.bind ((visitExpression_carries unnoticed expression).within fun _ => rfl) fun visited => .pure rfl
  | .breaking keyword | .continuing keyword | .importing keyword target | .path keyword target => by
    simp only [Statement.respan, visitStatement]
    exact .pure (by rw [Statement.respan])

lemma visitConditional_carries (unnoticed : recast.Unnoticed) : ∀ x : Conditional,
    VisitsCarry recast.state (Conditional.respan recast.name recast.mark) (Conditional.respan recast.name recast.mark)
      (visitConditional x) (visitConditional (x.respan recast.name recast.mark))
  | ⟨condition, body, otherwise, keyword⟩ => by
    rw [Conditional.respan, visitConditional, visitConditional]
    refine RunsCarry.bind ((visitExpression_carries unnoticed condition).within fun _ => rfl) fun visited => ?_
    refine RunsCarry.bind ((visitBlock_carries unnoticed body).within fun _ => rfl) fun body => ?_
    exact RunsCarry.bind ((visitOtherwise_carries unnoticed otherwise).within fun _ => rfl) fun others => .pure rfl

lemma visitOtherwise_carries (unnoticed : recast.Unnoticed) : ∀ x : Otherwise,
    VisitsCarry recast.state (Otherwise.respan recast.name recast.mark) (Otherwise.respan recast.name recast.mark)
      (visitOtherwise x) (visitOtherwise (x.respan recast.name recast.mark))
  | .nothing => by
    rw [Otherwise.respan, visitOtherwise]
    exact .pure rfl
  | .conditional conditional => by
    rw [Otherwise.respan, visitOtherwise, visitOtherwise]
    exact RunsCarry.bind ((visitConditional_carries unnoticed conditional).within fun _ => rfl) fun visited => .pure rfl
  | .block block => by
    rw [Otherwise.respan, visitOtherwise, visitOtherwise]
    exact RunsCarry.bind ((visitBlock_carries unnoticed block).within fun _ => rfl) fun visited => .pure rfl

lemma visitFunctionDef_carries (unnoticed : recast.Unnoticed) : ∀ x : FunctionDef,
    VisitsCarry recast.state (FunctionDef.respan recast.name recast.mark) (FunctionDef.respan recast.name recast.mark)
      (visitFunctionDef x) (visitFunctionDef (x.respan recast.name recast.mark))
  | ⟨id, name, typeParameters, parameters, returns, body, keyword⟩ => by
    rw [FunctionDef.respan, visitFunctionDef, visitFunctionDef]
    refine RunsCarry.bind (VisitsCarry.askFor (by rw [FunctionDef.respan]) (reopen_recast id)) fun scope => ?_
    refine (RunsCarry.lift (enter_carries scope)).bind fun _ => ?_
    refine (RunsCarry.lift (.mapM (visitParameter_carries unnoticed scope) parameters)).bind fun parameters => ?_
    refine (RunsCarry.lift (visitReturns_carries unnoticed id scope returns)).bind fun returned => ?_
    obtain ⟨returns, type⟩ := returned
    have inner : VisitsCarry recast.state (Block.respan recast.name recast.mark) (Block.respan recast.name recast.mark)
      _ _ :=
      ((visitBlock_carries unnoticed body).insideFunction (fun _ => rfl) fun _ => rfl).returningType type
        (fun _ => rfl) fun _ => rfl
    refine RunsCarry.bind (inner.within fun _ => rfl) fun body => ?_
    exact (RunsCarry.lift leave_carries).bind fun _ => .pure rfl

lemma visitFunctionDefs_carries (unnoticed : recast.Unnoticed) : ∀ x : List FunctionDef,
    VisitsCarry recast.state (functionsRespan recast.name recast.mark) (functionsRespan recast.name recast.mark)
      (visitFunctionDefs x) (visitFunctionDefs (functionsRespan recast.name recast.mark x))
  | [] => by
    rw [functionsRespan, visitFunctionDefs]
    exact .pure rfl
  | definition :: rest => by
    rw [functionsRespan, visitFunctionDefs, visitFunctionDefs]
    refine RunsCarry.bind ((visitFunctionDef_carries unnoticed definition).within fun _ => rfl) fun visited => ?_
    exact RunsCarry.bind ((visitFunctionDefs_carries unnoticed rest).within fun _ => rfl) fun others => .pure rfl

lemma visitTypeDef_carries (unnoticed : recast.Unnoticed) : ∀ x : TypeDef,
    VisitsCarry recast.state (TypeDef.respan recast.name recast.mark) (TypeDef.respan recast.name recast.mark)
      (visitTypeDef x) (visitTypeDef (x.respan recast.name recast.mark))
  | ⟨id, name, typeParameters, fields, methods, keyword, binding⟩ => by
    rw [TypeDef.respan, visitTypeDef, visitTypeDef]
    refine RunsCarry.get.bind fun s => ?_
    refine RunsCarry.bind (VisitsCarry.askFor (by rw [TypeDef.respan]; rfl) (reopen_recast id)) fun scope => ?_
    refine (RunsCarry.lift (enter_carries scope)).bind fun _ => ?_
    refine RunsCarry.bind ((visitDeclarations_carries unnoticed fields).within fun _ => rfl) fun fields => ?_
    refine RunsCarry.bind ((visitFunctionDefs_carries unnoticed methods).within fun _ => rfl) fun methods => ?_
    exact (RunsCarry.lift leave_carries).bind fun _ => .pure rfl

end

/-! ## Programs -/

/-- A block is analyzed alike. -/
lemma runBlock_carries (unnoticed : recast.Unnoticed) (root : Block) :
    VisitsCarry recast.state (Block.respan recast.name recast.mark) (Block.respan recast.name recast.mark)
      (runBlock root) (runBlock (root.respan recast.name recast.mark)) := by
  refine RunsCarry.bind ((declareBlock_carries unnoticed root).adapt fun _ => rfl) fun _ => ?_
  exact visitBlock_carries unnoticed root

/-- What comes of an analysis is taken out of the state alike. -/
lemma finish_recast (program : Program) (root : Block) (fault? : Option Fault) (s : State) :
    finish (program.respan recast.name recast.mark) (root.respan recast.name recast.mark) fault? (recast.state s) =
      recast.analyzed (finish program root fault? s) := by
  have found : (recast.state s).findings.toList = s.findings.toList.map recast.finding := Array.toList_map
  have emptied : recast.state { s with findings := #[] } = { recast.state s with findings := #[] } := by
    simp only [Recast.state, List.map_toArray, List.map_nil]
  simp only [finish, Recast.analyzed, found, emptied]
  rfl

/-- A recast program is analyzed in a recast state to what the program is analyzed to, recast. -/
lemma analyze_recast (unnoticed : recast.Unnoticed) (s : State) (program : Program) :
    analyze (recast.state s) (program.respan recast.name recast.mark) = recast.analyzed (analyze s program) := by
  have carries := runBlock_carries unnoticed program.root s
  unfold analyze
  rw [show (program.respan recast.name recast.mark).root = program.root.respan recast.name recast.mark from rfl,
    carries]
  cases runBlock program.root s with
  | ok root t => exact finish_recast program root none t
  | error failure t => exact finish_recast program failure.2 (some failure.1) t

end ArrowScript.Analysis
