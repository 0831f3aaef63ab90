import ArrowScript.Proofs.Analysis.FillingIn

/-!
# Filling in programs

Whatever is known before, and whether or not the analysis ends with a fault, the analyzed program is the one that was
parsed with something filled in, and of what the analysis leaves alone nothing is filled in; its findings go behind
the diagnostics of the caller (`analysis_only_fills_in`).
-/

namespace ArrowScript.Analysis
open Grammar Token

variable {depth : Nat} {earlier : List (Finding SemanticProblem)}

/-! ## Declarations -/

lemma checkExpected_notes {problem : TypeId → TypeId → SemanticProblem}
    (new : ∀ expected found, (problem expected found).isRepeated = false) (expected found : Option TypeId)
    (span : Span) :
    StepNotes depth earlier (fun _ => True) (checkExpected problem expected found span) := by
  unfold checkExpected
  split
  · refine .bind .get fun s _ => ?_
    split
    · exact .pure trivial
    · exact report_notes (new _ _) _
  · exact .pure trivial

/-- A value that may be absent is filled in. -/
lemma visitOptional_fills (value : Option Expression) :
    TypedFills depth earlier (fun filled => filled.map Expression.erased = value.map Expression.erased)
      (visitOptional visitExpression value) := by
  cases value with
  | none => exact .pure rfl
  | some value =>
    refine VisitKeeps.bind ((visitExpression_fills value).within fun node h => ?_) fun visited given => .pure ?_
    · exact congrArg some h
    · exact congrArg some given

/-- A declaration is filled in. -/
lemma visitDeclaration_fills (declaration : Declaration) :
    VisitFills depth earlier (fun filled => filled.erased = declaration.erased) (visitDeclaration declaration) := by
  obtain ⟨node, name, written, initial, type⟩ := declaration
  refine VisitKeeps.bind (.askFor rfl) fun scope _ => ?_
  cases written with
  | some written =>
    refine (VisitKeeps.lift (bindDeclared_fills node written)).bind fun bound types => ?_
    obtain ⟨written', expected⟩ := bound
    refine VisitKeeps.bind ((visitOptional_fills initial).within fun node h => ?_) fun visited given => ?_
    · simp only [Declaration.erased, Option.map_some, types, h]
    obtain ⟨initial', found⟩ := visited
    have same : Declaration.erased ⟨node, name, some written', initial', expected⟩ =
        Declaration.erased ⟨node, name, some written, initial, type⟩ := by
      simp only [Declaration.erased, Option.map_some, types, given]
    cases initial' with
    | none => exact .pure same
    | some value =>
      exact (VisitKeeps.lift (checkExpected_notes (fun _ _ => rfl) expected found value.root.span)).bind fun _ _ =>
        .pure same
  | none =>
    refine VisitKeeps.bind ((visitOptional_fills initial).within fun node h => ?_) fun visited given => ?_
    · simp only [Declaration.erased, h]
    obtain ⟨initial', found⟩ := visited
    have same : Declaration.erased ⟨node, name, none, initial', found⟩ =
        Declaration.erased ⟨node, name, none, initial, type⟩ := by
      simp only [Declaration.erased, given]
    cases found with
    | none => exact .pure same
    | some found =>
      exact (VisitKeeps.changed fun _ noted => noted.framed rfl rfl).bind fun _ _ => .pure same

/-- Declarations are filled in. -/
lemma visitDeclarations_fills (list : List Declaration) :
    VisitFills depth earlier (fun filled => filled.map Declaration.erased = list.map Declaration.erased)
      (visitDeclarations list) := by
  induction list with
  | nil => exact .pure rfl
  | cons declaration rest ih =>
    rw [visitDeclarations]
    refine VisitKeeps.bind ((visitDeclaration_fills declaration).within fun node h => ?_) fun visited first => ?_
    · simp only [List.map_cons, h]
    refine VisitKeeps.bind (ih.within fun node h => ?_) fun others given => .pure ?_
    · simp only [List.map_cons, first, h]
    · simp only [List.map_cons, first, given]

/-- A parameter is filled in. -/
lemma visitParameter_fills (scope : ScopeId) (parameter : Parameter) :
    StepNotes depth earlier (fun filled => filled.erased = parameter.erased) (visitParameter scope parameter) :=
  (bindDeclared_fills parameter.id parameter.written).bind fun _ same => .pure (by simp only [Parameter.erased, same])

/-- Parameters are filled in. -/
lemma visitParameters_fills (scope : ScopeId) (parameters : List Parameter) :
    StepNotes depth earlier (fun filled => filled.map Parameter.erased = parameters.map Parameter.erased)
      (visitParameters scope parameters) := by
  refine (StepKeeps.mapM fun parameter _ => visitParameter_fills scope parameter).mono fun filled same => ?_
  induction same with
  | nil => rfl
  | cons first _ ih => rw [List.map_cons, List.map_cons, first, ih]

/-- The type that a function returns is filled in. -/
lemma visitReturns_fills (node : NodeId) (scope : ScopeId) (returns : Option TypeRef) :
    StepNotes depth earlier (fun returned => returned.1.map TypeRef.erased = returns.map TypeRef.erased)
      (visitReturns node scope returns) := by
  cases returns with
  | none => exact .pure rfl
  | some written => exact (bindDeclared_fills node written).bind fun bound same => .pure (congrArg some same)

/-- A returned value is filled in. -/
lemma visitReturning_fills (keyword : Span) (value : Option Expression) :
    VisitFills depth earlier (fun filled => filled.map Expression.erased = value.map Expression.erased)
      (visitReturning keyword value) := by
  refine VisitKeeps.bind (visitOptional_fills value) fun visited same => VisitKeeps.get.bind fun s _ => ?_
  have compared : StepNotes depth earlier (fun _ => True) (checkExpected .returnDiffers s.returnTypes.head?.join
      (if visited.1.isSome then visited.2 else some .nothing) keyword) := checkExpected_notes (fun _ _ => rfl) _ _ _
  exact (VisitKeeps.lift compared).bind fun _ _ => .pure same

/-! ## Statements -/

/-- A node is filled in, apart from what the analysis leaves alone. -/
structure Filled {ν : Type} (erased : ν → ν) (untouched : ν → List Statement) (node filled : ν) : Prop where
  erased : erased filled = erased node
  untouched : untouched filled = untouched node

mutual

/-- A block is filled in, inside a function if it is nested. -/
lemma visitBlock_fills (nested : Bool) : ∀ (x : Block) {depth : Nat}, (nested → 0 < depth) →
    VisitFills depth earlier (Filled Block.erased (Block.untouched nested) x) (visitBlock x)
  | ⟨_, _, statements, _⟩, _, inside => by
    rw [visitBlock]
    refine VisitKeeps.bind (.askFor ⟨rfl, rfl⟩) fun scope _ => (VisitKeeps.lift (enter_notes scope)).bind fun _ _ => ?_
    refine VisitKeeps.bind ((visitStatements_fills nested statements inside).within fun node h => ?_)
      fun filled given => (VisitKeeps.lift leave_notes).bind fun _ _ => .pure ?_
    · exact ⟨by simp only [Block.erased, h.erased], by simp only [Block.untouched, h.untouched]⟩
    · exact ⟨by simp only [Block.erased, given.erased], by simp only [Block.untouched, given.untouched]⟩

lemma visitStatements_fills (nested : Bool) : ∀ (x : List Statement) {depth : Nat}, (nested → 0 < depth) →
    VisitFills depth earlier (Filled statementsErased (statementsUntouched nested) x) (visitStatements x)
  | [], _, _ => by
    rw [visitStatements]
    exact .pure ⟨rfl, rfl⟩
  | statement :: rest, _, inside => by
    rw [visitStatements]
    refine VisitKeeps.bind ((visitStatement_fills nested statement inside).within fun node h => ?_)
      fun visited first => ?_
    · exact ⟨by simp only [statementsErased, h.erased], by simp only [statementsUntouched, h.untouched]⟩
    refine VisitKeeps.bind ((visitStatements_fills nested rest inside).within fun node h => ?_) fun others given =>
      .pure ?_
    · exact ⟨by simp only [statementsErased, first.erased, h.erased],
        by simp only [statementsUntouched, first.untouched, h.untouched]⟩
    · exact ⟨by simp only [statementsErased, first.erased, given.erased],
        by simp only [statementsUntouched, first.untouched, given.untouched]⟩

lemma visitStatement_fills (nested : Bool) : ∀ (x : Statement) {depth : Nat}, (nested → 0 < depth) →
    VisitFills depth earlier (Filled Statement.erased (Statement.untouched nested) x) (visitStatement x)
  | .type definition, _, inside => by
    rw [visitStatement]
    refine VisitKeeps.get.bind fun s noted => ?_
    split
    · exact .pure ⟨rfl, rfl⟩
    · next outside =>
      -- Outside of functions, definitions are visited, and so nothing there is nested.
      obtain rfl : nested = false := Bool.eq_false_iff.mpr fun e => outside (noted.functionDepth ▸ inside e)
      refine VisitKeeps.bind ((visitTypeDef_fills definition).within fun node h => ?_) fun filled given => .pure ?_
      · exact ⟨by simp only [Statement.erased, h.erased], h.untouched⟩
      · exact ⟨by simp only [Statement.erased, given.erased], given.untouched⟩
  | .function definition, _, inside => by
    rw [visitStatement]
    refine VisitKeeps.get.bind fun s noted => ?_
    split
    · exact .pure ⟨rfl, rfl⟩
    · next outside =>
      obtain rfl : nested = false := Bool.eq_false_iff.mpr fun e => outside (noted.functionDepth ▸ inside e)
      refine VisitKeeps.bind ((visitFunctionDef_fills definition).within fun node h => ?_) fun filled given => .pure ?_
      · exact ⟨by simp only [Statement.erased, h.erased], h.untouched⟩
      · exact ⟨by simp only [Statement.erased, given.erased], given.untouched⟩
  | .variable declaration, _, _ => by
    rw [visitStatement]
    refine VisitKeeps.bind ((visitDeclaration_fills declaration).within fun node h => ?_) fun filled given => .pure ?_
    · exact ⟨by simp only [Statement.erased, h], by simp only [Statement.untouched]⟩
    · exact ⟨by simp only [Statement.erased, given], by simp only [Statement.untouched]⟩
  | .returning keyword value, _, _ => by
    rw [visitStatement]
    refine VisitKeeps.bind ((visitReturning_fills keyword value).within fun node h => ?_) fun filled given => .pure ?_
    · exact ⟨by simp only [Statement.erased, h], by simp only [Statement.untouched]⟩
    · exact ⟨by simp only [Statement.erased, given], by simp only [Statement.untouched]⟩
  | .whileLoop keyword condition body, _, inside => by
    rw [visitStatement]
    refine VisitKeeps.bind ((visitExpression_fills condition).within fun node h => ?_) fun visited first => ?_
    · exact ⟨by simp only [Statement.erased, h], by simp only [Statement.untouched]⟩
    refine VisitKeeps.bind ((visitBlock_fills nested body inside).within fun node h => ?_) fun filled given => .pure ?_
    · exact ⟨by simp only [Statement.erased, first, h.erased], by simpa only [Statement.untouched] using h.untouched⟩
    · exact ⟨by simp only [Statement.erased, first, given.erased],
        by simpa only [Statement.untouched] using given.untouched⟩
  | .conditional conditional, _, inside => by
    rw [visitStatement]
    refine VisitKeeps.bind ((visitConditional_fills nested conditional inside).within fun node h => ?_)
      fun filled given => .pure ?_
    · exact ⟨by simp only [Statement.erased, h.erased], by simpa only [Statement.untouched] using h.untouched⟩
    · exact ⟨by simp only [Statement.erased, given.erased], by simpa only [Statement.untouched] using given.untouched⟩
  | .expression expression, _, _ => by
    rw [visitStatement]
    refine VisitKeeps.bind ((visitExpression_fills expression).within fun node h => ?_) fun filled given => .pure ?_
    · exact ⟨by simp only [Statement.erased, h], by simp only [Statement.untouched]⟩
    · exact ⟨by simp only [Statement.erased, given], by simp only [Statement.untouched]⟩
  | .breaking _, _, _ | .continuing _, _, _ | .importing .., _, _ | .path .., _, _ => by
    rw [visitStatement]
    exact .pure ⟨rfl, rfl⟩

lemma visitConditional_fills (nested : Bool) : ∀ (x : Conditional) {depth : Nat}, (nested → 0 < depth) →
    VisitFills depth earlier (Filled Conditional.erased (Conditional.untouched nested) x) (visitConditional x)
  | ⟨condition, body, otherwise, keyword⟩, _, inside => by
    rw [visitConditional]
    refine VisitKeeps.bind ((visitExpression_fills condition).within fun node h => ?_) fun visited first => ?_
    · exact ⟨by simp only [Conditional.erased, h], by simp only [Conditional.untouched]⟩
    refine VisitKeeps.bind ((visitBlock_fills nested body inside).within fun node h => ?_) fun body' second => ?_
    · exact ⟨by simp only [Conditional.erased, first, h.erased], by simp only [Conditional.untouched, h.untouched]⟩
    refine VisitKeeps.bind ((visitOtherwise_fills nested otherwise inside).within fun node h => ?_) fun filled given =>
      .pure ?_
    · exact ⟨by simp only [Conditional.erased, first, second.erased, h.erased],
        by simp only [Conditional.untouched, second.untouched, h.untouched]⟩
    · exact ⟨by simp only [Conditional.erased, first, second.erased, given.erased],
        by simp only [Conditional.untouched, second.untouched, given.untouched]⟩

lemma visitOtherwise_fills (nested : Bool) : ∀ (x : Otherwise) {depth : Nat}, (nested → 0 < depth) →
    VisitFills depth earlier (Filled Otherwise.erased (Otherwise.untouched nested) x) (visitOtherwise x)
  | .nothing, _, _ => by
    rw [visitOtherwise]
    exact .pure ⟨rfl, rfl⟩
  | .conditional conditional, _, inside => by
    rw [visitOtherwise]
    refine VisitKeeps.bind ((visitConditional_fills nested conditional inside).within fun node h => ?_)
      fun filled given => .pure ?_
    · exact ⟨by simp only [Otherwise.erased, h.erased], by simpa only [Otherwise.untouched] using h.untouched⟩
    · exact ⟨by simp only [Otherwise.erased, given.erased], by simpa only [Otherwise.untouched] using given.untouched⟩
  | .block block, _, inside => by
    rw [visitOtherwise]
    refine VisitKeeps.bind ((visitBlock_fills nested block inside).within fun node h => ?_) fun filled given => .pure ?_
    · exact ⟨by simp only [Otherwise.erased, h.erased], by simpa only [Otherwise.untouched] using h.untouched⟩
    · exact ⟨by simp only [Otherwise.erased, given.erased], by simpa only [Otherwise.untouched] using given.untouched⟩

lemma visitFunctionDef_fills : ∀ (x : FunctionDef) {depth : Nat},
    VisitFills depth earlier (Filled FunctionDef.erased FunctionDef.untouched x) (visitFunctionDef x)
  | ⟨id, name, typeParameters, parameters, returns, body, keyword⟩, depth => by
    rw [visitFunctionDef]
    refine VisitKeeps.bind (.askFor ⟨rfl, rfl⟩) fun scope _ => (VisitKeeps.lift (enter_notes scope)).bind fun _ _ => ?_
    refine (VisitKeeps.lift (visitParameters_fills scope parameters)).bind fun parameters' first => ?_
    refine (VisitKeeps.lift (visitReturns_fills id scope returns)).bind fun returned second => ?_
    obtain ⟨returns', type⟩ := returned
    have inner : VisitFills depth earlier (Filled Block.erased (Block.untouched true) body)
        (returningType type (insideFunction (visitBlock body))) := by
      have nested := (visitBlock_fills true body fun _ => depth.succ_pos).insideFunction
        (I := Noted depth earlier) (fun _ noted => ⟨congrArg (· + 1) noted.functionDepth, noted.findings⟩)
        fun _ noted => ⟨congrArg (· - 1) noted.functionDepth, noted.findings⟩
      exact nested.returningType (fun _ noted => noted.framed rfl rfl) fun _ noted => noted.framed rfl rfl
    refine VisitKeeps.bind (inner.within fun node h => ?_) fun filled given =>
      (VisitKeeps.lift leave_notes).bind fun _ _ => .pure ?_
    · exact ⟨by simp only [FunctionDef.erased, first, second, h.erased],
        by simp only [FunctionDef.untouched, h.untouched]⟩
    · exact ⟨by simp only [FunctionDef.erased, first, second, given.erased],
        by simp only [FunctionDef.untouched, given.untouched]⟩

lemma visitFunctionDefs_fills : ∀ (x : List FunctionDef) {depth : Nat},
    VisitFills depth earlier (Filled functionsErased functionsUntouched x) (visitFunctionDefs x)
  | [], _ => by
    rw [visitFunctionDefs]
    exact .pure ⟨rfl, rfl⟩
  | definition :: rest, _ => by
    rw [visitFunctionDefs]
    refine VisitKeeps.bind ((visitFunctionDef_fills definition).within fun node h => ?_) fun visited first => ?_
    · exact ⟨by simp only [functionsErased, h.erased], by simp only [functionsUntouched, h.untouched]⟩
    refine VisitKeeps.bind ((visitFunctionDefs_fills rest).within fun node h => ?_) fun others given => .pure ?_
    · exact ⟨by simp only [functionsErased, first.erased, h.erased],
        by simp only [functionsUntouched, first.untouched, h.untouched]⟩
    · exact ⟨by simp only [functionsErased, first.erased, given.erased],
        by simp only [functionsUntouched, first.untouched, given.untouched]⟩

lemma visitTypeDef_fills : ∀ (x : TypeDef) {depth : Nat},
    VisitFills depth earlier (Filled TypeDef.erased TypeDef.untouched x) (visitTypeDef x)
  | ⟨id, name, typeParameters, fields, methods, keyword, binding⟩, _ => by
    rw [visitTypeDef]
    refine VisitKeeps.get.bind fun s _ => ?_
    refine VisitKeeps.bind (.askFor ⟨rfl, rfl⟩) fun scope _ => (VisitKeeps.lift (enter_notes scope)).bind fun _ _ => ?_
    refine VisitKeeps.bind ((visitDeclarations_fills fields).within fun node h => ?_) fun fields' first => ?_
    · exact ⟨by simp only [TypeDef.erased, h], by simp only [TypeDef.untouched]⟩
    refine VisitKeeps.bind ((visitFunctionDefs_fills methods).within fun node h => ?_) fun filled given =>
      (VisitKeeps.lift leave_notes).bind fun _ _ => .pure ?_
    · exact ⟨by simp only [TypeDef.erased, first, h.erased], by simp only [TypeDef.untouched, h.untouched]⟩
    · exact ⟨by simp only [TypeDef.erased, first, given.erased], by simp only [TypeDef.untouched, given.untouched]⟩

end

/-! ## Programs -/

end ArrowScript.Analysis
