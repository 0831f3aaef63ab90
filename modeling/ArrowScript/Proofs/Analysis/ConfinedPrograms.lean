import ArrowScript.Proofs.Analysis.ConfinedExpressions

/-!
# The names of an analyzed program

The names in an analyzed program, in what was found there and in what the analysis knows afterwards are names of the
program (`analyze_confined`), whatever it is and wherever the analysis ends.
-/

namespace ArrowScript.Analysis

variable {P : String → Prop}

/-! ## Declaring -/

/-- What an action of declaring ends with has no new names. -/
abbrev AttemptConfined (P : String → Prop) {α : Type} (action : Attempt α) : Prop :=
  RunConfined P (fun _ => True) (fun _ => True) action

/-- The innermost scope has no name. -/
lemma currentScope_confined : AttemptConfined P currentScope :=
  .ask (fun _ => trivial) fun _ _ _ _ => trivial

/-- A new scope has no names. -/
lemma openUnder_confined (parent : Option ScopeId) : StepConfined P (fun _ => True) (openUnder parent) :=
  .modifyGet fun _ spelled =>
    ⟨trivial, spelled.arrays, spelled.types, spelled.scopes.openUnder parent, spelled.findings⟩

/-- Recording a scope adds no names. -/
lemma close_confined (node : NodeId) (scope : ScopeId) : AttemptConfined P (close node scope) := by
  refine RunConfined.bind (Q := ScopeTable.Spelled P) (.ask (fun _ => trivial) fun s scopes spelled closed => ?_)
    fun scopes spelled => .changed fun s before => ⟨before.arrays, before.types, spelled, before.findings⟩
  unfold ScopeTable.close at closed
  split at closed
  · cases closed
  · cases closed
    exact spelled.scopes

/-- A declared symbol adds its own names. -/
lemma declare_confined {σ : Type} [Symbol σ] [NamedSymbol σ] (what : Declared) (scope : ScopeId) (key : String)
    {name : Span} (spelled : P name.content) {symbol : σ} (new : NamedSymbol.Spelled P symbol) :
    StepConfined P (fun _ => True) (declare what scope key name symbol) := by
  refine .bind (Q := fun first? => ∀ first ∈ first?, P first.content) (.modifyGet fun s before => ?_)
    fun first? taken => ?_
  · have declared := before.scopes.declare scope key new
    exact ⟨declared.1, before.arrays, before.types, declared.2, before.findings⟩
  · cases first? with
    | none => exact .pure trivial
    | some first => exact report_confined ⟨⟨spelled, taken first rfl⟩, fun _ => spelled⟩

/-- A declared variable adds its own names. -/
lemma declareVariable_confined (node : NodeId) {name : Span} (spelled : P name.content) {written : Option TypeRef}
    (type : ∀ x ∈ written, x.Spelled P) : AttemptConfined P (declareVariable node name written) := by
  refine currentScope_confined.bind fun scope _ => .lift ?_
  exact declare_confined .variable scope name.content spelled
    (show VariableSymbol.Spelled P ⟨node, name, scope, written⟩ from ⟨spelled, type⟩)

/-- A declared field or variable adds its own names. -/
lemma declareField_confined {field : Declaration} (spelled : field.Spelled P) :
    AttemptConfined P (declareField field) :=
  declareVariable_confined field.id spelled.name spelled.written

/-- A declared parameter adds its own names. -/
lemma declareParameter_confined {parameter : Parameter} (spelled : parameter.Spelled P) :
    AttemptConfined P (declareParameter parameter) := by
  refine declareVariable_confined parameter.id spelled.name ?_
  rintro _ ⟨⟩
  exact spelled.written

/-- A declared type parameter adds its own name. -/
lemma declareTypeParameter_confined (scope : ScopeId) {name : Span} (spelled : P name.content) :
    StepConfined P (fun _ => True) (declareTypeParameter scope name) := by
  refine .bind (Q := fun _ => True) (.modifyGet fun s before => ⟨trivial, ?_, ?_, before.scopes, before.findings⟩)
    fun type _ => ?_
  -- Respelling by `id` makes the names of arrays anew; that they come out the same is part of the invariant.
  · have same : (s.types.respell id).registerParameter name.content = _ :=
      s.types.registerParameter_respell name.content
    rw [before.arrays] at same
    exact (congrArg Prod.snd same).symm
  · exact spelled_of_register before.types spelled
  · exact declare_confined .type scope name.content spelled (show TypeSymbol.Spelled P ⟨type, name⟩ from spelled)

/-- Declared type parameters add their own names. -/
lemma declareTypeParameters_confined (scope : ScopeId) {names : Option (List Span)}
    (spelled : parametersSpelled P names) : StepConfined P (fun _ => True) (declareTypeParameters scope names) := by
  cases names with
  | none => exact .pure trivial
  | some names => exact .forM fun name mem => declareTypeParameter_confined scope (spelled names rfl name mem)

/-- A declared type adds its own name. -/
lemma declareType_confined (scope : ScopeId) (node : NodeId) {name : Span} (spelled : P name.content) (arity : Nat) :
    StepConfined P (fun _ => True) (declareType scope node name arity) := by
  refine .bind (Q := fun _ => True) (.modifyGet fun s before => ⟨trivial, ?_, ?_, before.scopes, before.findings⟩)
    fun type _ => ?_
  · have same : (s.types.respell id).registerUser name.content node = _ :=
      s.types.registerUser_respell name.content node
    rw [before.arrays] at same
    exact (congrArg Prod.snd same).symm
  · exact spelled_of_register before.types spelled
  · exact declare_confined .type scope _ spelled (show TypeSymbol.Spelled P ⟨type, name⟩ from spelled)

/-- A declared function adds its own names. -/
lemma declareFunction_confined (scope own : ScopeId) (node : NodeId) {name : Span} (spelled : P name.content)
    (arity : Nat) {parameters : List Parameter} (written : ∀ parameter ∈ parameters, parameter.Spelled P)
    {returns : Option TypeRef} (returned : ∀ written ∈ returns, written.Spelled P) :
    StepConfined P (fun _ => True) (declareFunction scope own node name arity parameters returns) := by
  refine declare_confined .function scope _ spelled (show FunctionSymbol.Spelled P _ from ⟨spelled, ?_, returned⟩)
  intro entry (mem : entry ∈ parameters.map fun parameter => (parameter.id, parameter.written))
  obtain ⟨parameter, there, rfl⟩ := List.mem_map.mp mem
  exact (written parameter there).written

mutual

/-- What a block declares adds names of the block. -/
lemma declareBlock_confined : ∀ {x : Block}, x.Spelled P → AttemptConfined P (declareBlock x)
  | ⟨id, kind, statements, span⟩, spelled => by
    rw [Block.Spelled] at spelled
    rw [declareBlock]
    refine RunConfined.get.bind fun s _ =>
      (RunConfined.lift (openUnder_confined s.active.head?)).bind fun scope _ => ?_
    refine (RunConfined.lift (enter_confined scope)).bind fun _ _ => ?_
    refine (declareStatements_confined spelled).bind fun _ _ => ?_
    exact (RunConfined.lift leave_confined).bind fun _ _ => close_confined id scope

lemma declareStatements_confined : ∀ {x : List Statement}, statementsSpelled P x →
    AttemptConfined P (declareStatements x)
  | [], _ => by
    rw [declareStatements]
    exact .pure trivial
  | statement :: rest, spelled => by
    rw [statementsSpelled] at spelled
    rw [declareStatements]
    exact (declareStatement_confined spelled.1).bind fun _ _ => declareStatements_confined spelled.2

lemma declareStatement_confined : ∀ {x : Statement}, x.Spelled P → AttemptConfined P (declareStatement x)
  | .type definition, spelled => by
    rw [Statement.Spelled] at spelled
    rw [declareStatement]
    refine RunConfined.get.bind fun s _ => ?_
    split
    · exact .lift (report_confined (.nameless trivial rfl))
    · exact declareTypeDef_confined spelled
  | .function definition, spelled => by
    rw [Statement.Spelled] at spelled
    rw [declareStatement]
    refine RunConfined.get.bind fun s _ => ?_
    split
    · exact .lift (report_confined (.nameless trivial rfl))
    · exact declareFunctionDef_confined spelled
  | .variable declaration, spelled => by
    rw [Statement.Spelled] at spelled
    rw [declareStatement]
    exact declareField_confined spelled
  | .whileLoop keyword condition body, spelled => by
    rw [Statement.Spelled] at spelled
    rw [declareStatement]
    exact declareBlock_confined spelled.2
  | .conditional conditional, spelled => by
    rw [Statement.Spelled] at spelled
    rw [declareStatement]
    exact declareConditional_confined spelled
  | .returning .., _ | .breaking _, _ | .continuing _, _ | .importing .., _ | .path .., _ | .expression _, _ => by
    rw [declareStatement]
    exact .pure trivial

lemma declareConditional_confined : ∀ {x : Conditional}, x.Spelled P → AttemptConfined P (declareConditional x)
  | ⟨condition, body, otherwise, keyword⟩, spelled => by
    rw [Conditional.Spelled] at spelled
    rw [declareConditional]
    exact (declareBlock_confined spelled.2.1).bind fun _ _ => declareOtherwise_confined spelled.2.2

lemma declareOtherwise_confined : ∀ {x : Otherwise}, x.Spelled P → AttemptConfined P (declareOtherwise x)
  | .nothing, _ => by
    rw [declareOtherwise]
    exact .pure trivial
  | .conditional conditional, spelled => by
    rw [Otherwise.Spelled] at spelled
    rw [declareOtherwise]
    exact declareConditional_confined spelled
  | .block block, spelled => by
    rw [Otherwise.Spelled] at spelled
    rw [declareOtherwise]
    exact declareBlock_confined spelled

lemma declareFunctionDef_confined : ∀ {x : FunctionDef}, x.Spelled P → AttemptConfined P (declareFunctionDef x)
  | ⟨id, name, typeParameters, parameters, returns, body, keyword⟩, spelled => by
    rw [FunctionDef.Spelled] at spelled
    obtain ⟨named, typed, parametrized, returned, inner⟩ := spelled
    rw [declareFunctionDef]
    refine currentScope_confined.bind fun scope _ => (RunConfined.lift (openUnder_confined _)).bind fun own _ => ?_
    refine (RunConfined.lift (declareFunction_confined scope own id named _ parametrized returned)).bind fun _ _ => ?_
    refine (RunConfined.lift (enter_confined own)).bind fun _ _ => ?_
    refine (RunConfined.lift (declareTypeParameters_confined own typed)).bind fun _ _ => ?_
    refine (RunConfined.forM fun parameter mem => declareParameter_confined (parametrized parameter mem)).bind
      fun _ _ => ?_
    refine (declareBlock_confined inner).insideFunction.bind fun _ _ => ?_
    exact (RunConfined.lift leave_confined).bind fun _ _ => close_confined id own

lemma declareFunctionDefs_confined : ∀ {x : List FunctionDef}, functionsSpelled P x →
    AttemptConfined P (declareFunctionDefs x)
  | [], _ => by
    rw [declareFunctionDefs]
    exact .pure trivial
  | definition :: rest, spelled => by
    rw [functionsSpelled] at spelled
    rw [declareFunctionDefs]
    exact (declareFunctionDef_confined spelled.1).bind fun _ _ => declareFunctionDefs_confined spelled.2

lemma declareTypeDef_confined : ∀ {x : TypeDef}, x.Spelled P → AttemptConfined P (declareTypeDef x)
  | ⟨id, name, typeParameters, fields, methods, keyword, binding⟩, spelled => by
    rw [TypeDef.Spelled] at spelled
    obtain ⟨named, typed, fielded, inner⟩ := spelled
    rw [declareTypeDef]
    refine currentScope_confined.bind fun scope _ => ?_
    refine (RunConfined.lift (declareType_confined scope id named _)).bind fun _ _ => ?_
    refine (RunConfined.lift (openUnder_confined _)).bind fun own _ => ?_
    refine (RunConfined.lift (enter_confined own)).bind fun _ _ => ?_
    refine (RunConfined.lift (declareTypeParameters_confined own typed)).bind fun _ _ => ?_
    refine (RunConfined.forM fun field mem => declareField_confined (fielded field mem)).bind fun _ _ => ?_
    refine (declareFunctionDefs_confined inner).bind fun _ _ => ?_
    exact (RunConfined.lift leave_confined).bind fun _ _ => close_confined id own

end

/-! ## Visiting -/

/-- Types are compared without adding names. -/
lemma checkExpected_confined (problem : TypeId → TypeId → SemanticProblem)
    (nameless : ∀ expected found, (problem expected found).Spelled P ∧ (problem expected found).atName = false)
    (expected found : Option TypeId) (span : Span) :
    StepConfined P (fun _ => True) (checkExpected problem expected found span) := by
  unfold checkExpected
  split
  · next expected found _ =>
    refine .bind .get fun s _ => ?_
    split
    · exact .pure trivial
    · exact report_confined (.nameless (nameless expected found).1 (nameless expected found).2)
  · exact .pure trivial

/-- An expression that may be absent keeps its names. -/
lemma visitOptional_confined {value : Option Expression} (spelled : ∀ x ∈ value, x.Spelled P) :
    TypedConfined P (fun value => ∀ x ∈ value, x.Spelled P) (visitOptional visitExpression value) := by
  cases value with
  | none => exact .pure spelled
  | some value =>
    refine RunConfined.bind (RunConfined.adapt (visitExpression_confined (spelled value rfl)) fun failure h => ?_)
      fun visited given => .pure ?_
    · rintro _ ⟨⟩
      exact h
    · rintro _ ⟨⟩
      exact given

/-- A declaration keeps its names. -/
lemma visitDeclaration_confined {declaration : Declaration} (spelled : declaration.Spelled P) :
    VisitConfined P (Declaration.Spelled P) (Declaration.Spelled P) (visitDeclaration declaration) := by
  obtain ⟨node, name, written, initial, type⟩ := declaration
  refine RunConfined.bind (Q := fun _ => True) (VisitConfined.askFor spelled fun _ _ _ _ => trivial) fun scope _ => ?_
  cases written with
  | some written =>
    refine (RunConfined.lift (bindDeclared_confined node (spelled.written written rfl))).bind fun bound type => ?_
    obtain ⟨written, expected⟩ := bound
    have type : ∀ x ∈ some written, x.Spelled P := by
      rintro _ ⟨⟩
      exact type
    refine RunConfined.bind ((visitOptional_confined spelled.initial).within fun node h => ?_) fun visited given => ?_
    · exact ⟨spelled.name, type, h⟩
    obtain ⟨initial, found⟩ := visited
    cases initial with
    | none => exact .pure ⟨spelled.name, type, given⟩
    | some value =>
      have compared := checkExpected_confined (P := P) .initialDiffers (fun _ _ => ⟨trivial, rfl⟩) expected found
        value.root.span
      exact (RunConfined.lift compared).bind fun _ _ => .pure ⟨spelled.name, type, given⟩
  | none =>
    refine RunConfined.bind ((visitOptional_confined spelled.initial).within fun node h => ?_) fun visited given => ?_
    · exact ⟨spelled.name, spelled.written, h⟩
    obtain ⟨initial, found⟩ := visited
    cases found with
    | none => exact .pure ⟨spelled.name, spelled.written, given⟩
    | some type =>
      refine (RunConfined.changed fun s before => ?_).bind fun _ _ => .pure ⟨spelled.name, spelled.written, given⟩
      exact RunConfined.framed before rfl rfl rfl

/-- Declarations keep their names. -/
lemma visitDeclarations_confined {list : List Declaration} (spelled : ∀ x ∈ list, x.Spelled P) :
    VisitConfined P (fun list => ∀ x ∈ list, x.Spelled P) (fun list => ∀ x ∈ list, x.Spelled P)
      (visitDeclarations list) := by
  induction list with
  | nil => exact .pure spelled
  | cons declaration rest ih =>
    rw [List.forall_mem_cons] at spelled
    rw [visitDeclarations]
    refine RunConfined.bind (RunConfined.adapt (visitDeclaration_confined spelled.1) fun failure h => ?_)
      fun visited first => ?_
    · exact List.forall_mem_cons.mpr ⟨h, spelled.2⟩
    refine RunConfined.bind (RunConfined.adapt (ih spelled.2) fun failure h => ?_) fun others given => .pure ?_
    · exact List.forall_mem_cons.mpr ⟨first, h⟩
    · exact List.forall_mem_cons.mpr ⟨first, given⟩

/-- A parameter keeps its names. -/
lemma visitParameter_confined (scope : ScopeId) {parameter : Parameter} (spelled : parameter.Spelled P) :
    StepConfined P (Parameter.Spelled P) (visitParameter scope parameter) :=
  (bindDeclared_confined parameter.id spelled.written).bind fun _ given => .pure ⟨spelled.name, given⟩

/-- The type that a function returns keeps its names. -/
lemma visitReturns_confined (node : NodeId) (scope : ScopeId) {returns : Option TypeRef}
    (spelled : ∀ x ∈ returns, x.Spelled P) :
    StepConfined P (fun returned => ∀ x ∈ returned.1, x.Spelled P) (visitReturns node scope returns) := by
  cases returns with
  | none => exact .pure spelled
  | some written =>
    refine (bindDeclared_confined node (spelled written rfl)).bind fun bound given => .pure ?_
    rintro _ ⟨⟩
    exact given

/-- A returned value keeps its names. -/
lemma visitReturning_confined (keyword : Span) {value : Option Expression} (spelled : ∀ x ∈ value, x.Spelled P) :
    VisitConfined P (fun value => ∀ x ∈ value, x.Spelled P) (fun value => ∀ x ∈ value, x.Spelled P)
      (visitReturning keyword value) := by
  refine RunConfined.bind (visitOptional_confined spelled) fun visited given => RunConfined.get.bind fun s _ => ?_
  have compared := checkExpected_confined (P := P) .returnDiffers (fun _ _ => ⟨trivial, rfl⟩)
    s.returnTypes.head?.join (if visited.1.isSome then visited.2 else some .nothing) keyword
  exact (RunConfined.lift compared).bind fun _ _ => .pure given

mutual

/-- A block keeps its names. -/
lemma visitBlock_confined : ∀ {x : Block}, x.Spelled P →
    VisitConfined P (Block.Spelled P) (Block.Spelled P) (visitBlock x)
  | ⟨id, kind, statements, span⟩, spelled => by
    rw [visitBlock]
    refine RunConfined.bind (Q := fun _ => True) (VisitConfined.askFor spelled fun _ _ _ _ => trivial)
      fun scope _ => ?_
    rw [Block.Spelled] at spelled
    refine (RunConfined.lift (enter_confined scope)).bind fun _ _ => ?_
    refine RunConfined.bind ((visitStatements_confined spelled).within fun node h => ?_) fun visited given => ?_
    · rwa [Block.Spelled]
    exact (RunConfined.lift leave_confined).bind fun _ _ => .pure (by rwa [Block.Spelled])

lemma visitStatements_confined : ∀ {x : List Statement}, statementsSpelled P x →
    VisitConfined P (statementsSpelled P) (statementsSpelled P) (visitStatements x)
  | [], spelled => by
    rw [visitStatements]
    exact .pure spelled
  | statement :: rest, spelled => by
    rw [statementsSpelled] at spelled
    rw [visitStatements]
    refine RunConfined.bind ((visitStatement_confined spelled.1).within fun node h => ?_) fun visited first => ?_
    · rw [statementsSpelled]
      exact ⟨h, spelled.2⟩
    refine RunConfined.bind ((visitStatements_confined spelled.2).within fun node h => ?_)
      fun others given => .pure ?_
    · rw [statementsSpelled]
      exact ⟨first, h⟩
    · rw [statementsSpelled]
      exact ⟨first, given⟩

lemma visitStatement_confined : ∀ {x : Statement}, x.Spelled P →
    VisitConfined P (Statement.Spelled P) (Statement.Spelled P) (visitStatement x)
  | .type definition, spelled => by
    rw [visitStatement]
    refine RunConfined.get.bind fun s _ => ?_
    split
    · exact .pure spelled
    · rw [Statement.Spelled] at spelled
      refine RunConfined.bind ((visitTypeDef_confined spelled).within fun node h => ?_) fun visited given => .pure ?_
      · rwa [Statement.Spelled]
      · rwa [Statement.Spelled]
  | .function definition, spelled => by
    rw [visitStatement]
    refine RunConfined.get.bind fun s _ => ?_
    split
    · exact .pure spelled
    · rw [Statement.Spelled] at spelled
      refine RunConfined.bind ((visitFunctionDef_confined spelled).within fun node h => ?_)
        fun visited given => .pure ?_
      · rwa [Statement.Spelled]
      · rwa [Statement.Spelled]
  | .variable declaration, spelled => by
    rw [Statement.Spelled] at spelled
    rw [visitStatement]
    refine RunConfined.bind ((visitDeclaration_confined spelled).within fun node h => ?_)
      fun visited given => .pure ?_
    · rwa [Statement.Spelled]
    · rwa [Statement.Spelled]
  | .returning keyword value, spelled => by
    rw [Statement.Spelled] at spelled
    rw [visitStatement]
    refine RunConfined.bind (VisitConfined.within (visitReturning_confined keyword spelled) fun node h => ?_)
      fun visited given => .pure ?_
    · rwa [Statement.Spelled]
    · rwa [Statement.Spelled]
  | .whileLoop keyword condition body, spelled => by
    rw [Statement.Spelled] at spelled
    rw [visitStatement]
    refine RunConfined.bind ((visitExpression_confined spelled.1).within fun node h => ?_) fun visited first => ?_
    · rw [Statement.Spelled]
      exact ⟨h, spelled.2⟩
    refine RunConfined.bind ((visitBlock_confined spelled.2).within fun node h => ?_) fun body given => .pure ?_
    · rw [Statement.Spelled]
      exact ⟨first, h⟩
    · rw [Statement.Spelled]
      exact ⟨first, given⟩
  | .conditional conditional, spelled => by
    rw [Statement.Spelled] at spelled
    rw [visitStatement]
    refine RunConfined.bind ((visitConditional_confined spelled).within fun node h => ?_)
      fun visited given => .pure ?_
    · rwa [Statement.Spelled]
    · rwa [Statement.Spelled]
  | .expression expression, spelled => by
    rw [Statement.Spelled] at spelled
    rw [visitStatement]
    refine RunConfined.bind ((visitExpression_confined spelled).within fun node h => ?_) fun visited given => .pure ?_
    · rwa [Statement.Spelled]
    · rwa [Statement.Spelled]
  | .breaking _, spelled | .continuing _, spelled | .importing .., spelled | .path .., spelled => by
    rw [visitStatement]
    exact .pure spelled

lemma visitConditional_confined : ∀ {x : Conditional}, x.Spelled P →
    VisitConfined P (Conditional.Spelled P) (Conditional.Spelled P) (visitConditional x)
  | ⟨condition, body, otherwise, keyword⟩, spelled => by
    rw [Conditional.Spelled] at spelled
    rw [visitConditional]
    refine RunConfined.bind ((visitExpression_confined spelled.1).within fun node h => ?_) fun visited first => ?_
    · rw [Conditional.Spelled]
      exact ⟨h, spelled.2⟩
    refine RunConfined.bind ((visitBlock_confined spelled.2.1).within fun node h => ?_) fun body second => ?_
    · rw [Conditional.Spelled]
      exact ⟨first, h, spelled.2.2⟩
    refine RunConfined.bind ((visitOtherwise_confined spelled.2.2).within fun node h => ?_)
      fun others given => .pure ?_
    · rw [Conditional.Spelled]
      exact ⟨first, second, h⟩
    · rw [Conditional.Spelled]
      exact ⟨first, second, given⟩

lemma visitOtherwise_confined : ∀ {x : Otherwise}, x.Spelled P →
    VisitConfined P (Otherwise.Spelled P) (Otherwise.Spelled P) (visitOtherwise x)
  | .nothing, spelled => by
    rw [visitOtherwise]
    exact .pure spelled
  | .conditional conditional, spelled => by
    rw [Otherwise.Spelled] at spelled
    rw [visitOtherwise]
    refine RunConfined.bind ((visitConditional_confined spelled).within fun node h => ?_)
      fun visited given => .pure ?_
    · rwa [Otherwise.Spelled]
    · rwa [Otherwise.Spelled]
  | .block block, spelled => by
    rw [Otherwise.Spelled] at spelled
    rw [visitOtherwise]
    refine RunConfined.bind ((visitBlock_confined spelled).within fun node h => ?_) fun visited given => .pure ?_
    · rwa [Otherwise.Spelled]
    · rwa [Otherwise.Spelled]

lemma visitFunctionDef_confined : ∀ {x : FunctionDef}, x.Spelled P →
    VisitConfined P (FunctionDef.Spelled P) (FunctionDef.Spelled P) (visitFunctionDef x)
  | ⟨id, name, typeParameters, parameters, returns, body, keyword⟩, spelled => by
    rw [visitFunctionDef]
    refine RunConfined.bind (Q := fun _ => True) (VisitConfined.askFor spelled fun _ _ _ _ => trivial)
      fun scope _ => ?_
    rw [FunctionDef.Spelled] at spelled
    obtain ⟨named, typed, parametrized, returned, inner⟩ := spelled
    refine (RunConfined.lift (enter_confined scope)).bind fun _ _ => ?_
    refine (RunConfined.lift (.mapM fun parameter mem =>
      visitParameter_confined scope (parametrized parameter mem))).bind fun parameters filled => ?_
    refine (RunConfined.lift (visitReturns_confined id scope returned)).bind fun result given => ?_
    obtain ⟨returns, type⟩ := result
    have visits : VisitConfined P (Block.Spelled P) (Block.Spelled P) _ :=
      (RunConfined.insideFunction (visitBlock_confined inner)).returningType type
    refine RunConfined.bind (visits.within fun node h => ?_) fun body visited => ?_
    · rw [FunctionDef.Spelled]
      exact ⟨named, typed, filled, given, h⟩
    refine (RunConfined.lift leave_confined).bind fun _ _ => .pure ?_
    rw [FunctionDef.Spelled]
    exact ⟨named, typed, filled, given, visited⟩

lemma visitFunctionDefs_confined : ∀ {x : List FunctionDef}, functionsSpelled P x →
    VisitConfined P (functionsSpelled P) (functionsSpelled P) (visitFunctionDefs x)
  | [], spelled => by
    rw [visitFunctionDefs]
    exact .pure spelled
  | definition :: rest, spelled => by
    rw [functionsSpelled] at spelled
    rw [visitFunctionDefs]
    refine RunConfined.bind ((visitFunctionDef_confined spelled.1).within fun node h => ?_) fun visited first => ?_
    · rw [functionsSpelled]
      exact ⟨h, spelled.2⟩
    refine RunConfined.bind ((visitFunctionDefs_confined spelled.2).within fun node h => ?_)
      fun others given => .pure ?_
    · rw [functionsSpelled]
      exact ⟨first, h⟩
    · rw [functionsSpelled]
      exact ⟨first, given⟩

lemma visitTypeDef_confined : ∀ {x : TypeDef}, x.Spelled P →
    VisitConfined P (TypeDef.Spelled P) (TypeDef.Spelled P) (visitTypeDef x)
  | ⟨id, name, typeParameters, fields, methods, keyword, binding⟩, spelled => by
    rw [visitTypeDef]
    refine RunConfined.get.bind fun s _ => ?_
    rw [TypeDef.Spelled] at spelled
    obtain ⟨named, typed, fielded, inner⟩ := spelled
    refine RunConfined.bind (Q := fun _ => True) (.ask (fun _ => ?_) fun _ _ _ _ => trivial) fun scope _ => ?_
    · rw [TypeDef.Spelled]
      exact ⟨named, typed, fielded, inner⟩
    refine (RunConfined.lift (enter_confined scope)).bind fun _ _ => ?_
    refine RunConfined.bind (VisitConfined.within (visitDeclarations_confined fielded) fun node h => ?_)
      fun fields first => ?_
    · rw [TypeDef.Spelled]
      exact ⟨named, typed, h, inner⟩
    refine RunConfined.bind ((visitFunctionDefs_confined inner).within fun node h => ?_) fun methods given => ?_
    · rw [TypeDef.Spelled]
      exact ⟨named, typed, first, h⟩
    refine (RunConfined.lift leave_confined).bind fun _ _ => .pure ?_
    rw [TypeDef.Spelled]
    exact ⟨named, typed, first, given⟩

end

/-! ## Programs -/

/-- The names in an analyzed program, in what was found there and in what the analysis knows are of a kind. -/
structure Analyzed.Spelled (P : String → Prop) (analyzed : Analyzed) : Prop where
  program : analyzed.program.Spelled P
  findings : ∀ finding ∈ analyzed.findings, FindingSpelled P finding
  state : analyzed.state.Spelled P

/-- A fresh analysis knows no names. -/
lemma State.spelled_initial : State.initial.Spelled P where
  arrays := TypeRegistry.respell_initial
  types := by
    intro info mem
    obtain ⟨entry, -, rfl⟩ := List.mem_map.mp (List.mem_toArray.mp mem)
    trivial
  scopes := fun _ mem => absurd mem (Array.not_mem_empty _)
  findings := fun _ mem => absurd mem (Array.not_mem_empty _)

/-- A block is analyzed without adding names. -/
lemma runBlock_confined {root : Block} (spelled : root.Spelled P) :
    VisitConfined P (Block.Spelled P) (Block.Spelled P) (runBlock root) :=
  RunConfined.bind ((declareBlock_confined spelled).adapt fun _ _ => spelled) fun _ _ => visitBlock_confined spelled

/-- If the names in a program are of a kind, so are the names in everything that comes of its analysis. -/
lemma analyze_confined {s : State} (known : s.Spelled P) {program : Program} (spelled : program.Spelled P) :
    (analyze s program).Spelled P := by
  have confined := runBlock_confined spelled s known
  have finished {root : Block} {fault? : Option Fault} {t : State} (h : root.Spelled P ∧ t.Spelled P) :
      (finish program root fault? t).Spelled P :=
    { program := h.1
      findings := fun finding mem => h.2.findings finding (Array.mem_toList_iff.mp mem)
      state := ⟨h.2.arrays, h.2.types, h.2.scopes, fun _ mem => absurd mem (Array.not_mem_empty _)⟩ }
  unfold analyze
  cases e : runBlock program.root s with
  | ok root t =>
    rw [e] at confined
    exact finished confined
  | error failure t =>
    rw [e] at confined
    exact finished confined

end ArrowScript.Analysis
