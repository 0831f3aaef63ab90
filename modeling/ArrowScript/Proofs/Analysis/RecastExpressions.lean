import ArrowScript.Proofs.Analysis.RecastNames

/-!
# Expressions, recast

Expressions have the types that they had, and the names in them stand for what they stood for, when they are recast.
-/

namespace ArrowScript.Analysis

variable {recast : Recast}

/-! ## Checks -/

/-- The type of an operation is found alike. -/
lemma operationType_carries (operator : BinaryOperator) (operatorSpan : Span) (left right : Option TypeId) :
    StepsCarry recast.state id (operationType operator operatorSpan left right)
      (operationType operator (recast.mark operatorSpan) left right) := by
  cases left with
  | none => cases right <;> exact .pure rfl
  | some left =>
    cases right with
    | none => exact .pure rfl
    | some right =>
      unfold operationType
      dsimp only
      split
      · exact (report_carries rfl).bind fun _ => .pure rfl
      · exact .pure rfl

/-- A call that is assigned to is found at the recast span. -/
lemma calledTarget?_respan (unnoticed : recast.Unnoticed) (operator : BinaryOperator) (target : Expr) :
    calledTarget? operator (target.respan recast.name recast.mark) =
      (calledTarget? operator target).map (Option.map recast.mark) := by
  cases target with
  | chain path =>
    obtain ⟨links, span, type⟩ := path
    rw [Expr.respan, Chain.respan, linksRespan_eq_map]
    cases operator <;> try rfl
    unfold calledTarget?
    simp only [List.getLast?_map]
    cases links.getLast? with
    | none => rfl
    | some last =>
      cases last with
      | call _ _ _ close =>
        show some <$> (recast.mark span).combine (recast.mark close) = Except.map _ (some <$> span.combine close)
        rw [unnoticed.combine]
        cases span.combine close <;> rfl
      | name | index => rfl
  | _ => cases operator <;> rfl

/-- The type of an index is checked alike. -/
lemma checkIndex_carries (unnoticed : recast.Unnoticed) (index : Expression) (type : Option TypeId) :
    StepsCarry recast.state id (checkIndex index type) (checkIndex (index.respan recast.name recast.mark) type) := by
  cases type with
  | none => exact .pure rfl
  | some found =>
    unfold checkIndex
    refine .bind .get fun s => ?_
    rw [recast.types_state, unnoticed.isGeneric, Expression.span_respan]
    split
    · exact .pure rfl
    · exact report_carries rfl

/-! ## Expressions -/

section
variable (recast)

/-- A visit of an expression or of a part of one is carried over to the visit of a recast one, with the same type. -/
abbrev TypedCarry {ν : Type} (r : ν → ν) (first second : Visit ν (ν × Option TypeId)) : Prop :=
  VisitsCarry recast.state r (Prod.map r id) first second

end

mutual

/-- An expression is visited alike. -/
lemma visitExpr_carries (unnoticed : recast.Unnoticed) : ∀ x : Expr,
    TypedCarry recast (Expr.respan recast.name recast.mark) (visitExpr x) (visitExpr (x.respan recast.name recast.mark))
  | .binary operator operatorSpan left right type => by
    rw [Expr.respan, visitExpr, visitExpr]
    refine RunsCarry.bind ((visitExpr_carries unnoticed left).within fun _ => rfl) fun visited => ?_
    obtain ⟨left, leftType⟩ := visited
    refine RunsCarry.bind (VisitsCarry.askFor rfl fun _ => calledTarget?_respan unnoticed operator left) fun call? => ?_
    cases call?
    case' some => refine (RunsCarry.lift (report_carries rfl)).bind fun _ => ?_
    all_goals
      refine RunsCarry.bind ((visitExpr_carries unnoticed right).within fun _ => rfl) fun visited => ?_
      exact (RunsCarry.lift (operationType_carries operator operatorSpan leftType visited.2)).bind fun type => .pure rfl
  | .unary operator operatorSpan operand type => by
    rw [Expr.respan, visitExpr, visitExpr]
    exact RunsCarry.bind ((visitExpr_carries unnoticed operand).within fun _ => rfl) fun visited => .pure rfl
  | .chain path => by
    rw [Expr.respan, visitExpr, visitExpr]
    exact RunsCarry.bind ((visitChain_carries unnoticed path).within fun _ => rfl) fun visited => .pure rfl
  | .literal kind span type => by
    rw [Expr.respan, visitExpr]
    exact .pure rfl
  | .new keyword path => by
    rw [Expr.respan, visitExpr, visitExpr]
    exact RunsCarry.bind ((visitNew_carries unnoticed path).within fun _ => rfl) fun visited => .pure rfl
  | .newArray keyword element => by
    rw [Expr.respan, visitExpr, visitExpr]
    refine RunsCarry.bind ((visitExpression_carries unnoticed element).within fun _ => rfl) fun visited => ?_
    obtain ⟨element, type⟩ := visited
    cases type with
    | none => exact .pure rfl
    | some type => exact (RunsCarry.lift (arrayOf_carries unnoticed type)).bind fun array => .pure rfl
  | .nothing span => by
    rw [Expr.respan, visitExpr]
    exact .pure rfl
  | .missing span => by
    rw [Expr.respan, visitExpr]
    exact .pure rfl

lemma visitExpression_carries (unnoticed : recast.Unnoticed) : ∀ x : Expression,
    TypedCarry recast (Expression.respan recast.name recast.mark) (visitExpression x)
      (visitExpression (x.respan recast.name recast.mark))
  | ⟨root, type⟩ => by
    rw [Expression.respan, visitExpression, visitExpression]
    exact RunsCarry.bind ((visitExpr_carries unnoticed root).within fun _ => rfl) fun visited => .pure rfl

lemma visitChain_carries (unnoticed : recast.Unnoticed) : ∀ x : Chain,
    TypedCarry recast (Chain.respan recast.name recast.mark) (visitChain x)
      (visitChain (x.respan recast.name recast.mark))
  | ⟨links, span, type⟩ => by
    rw [Chain.respan, visitChain, visitChain]
    exact RunsCarry.bind ((visitLinks_carries unnoticed none links).within fun _ => rfl) fun visited => .pure rfl

lemma visitNew_carries (unnoticed : recast.Unnoticed) : ∀ x : Chain,
    TypedCarry recast (Chain.respan recast.name recast.mark) (visitNew x) (visitNew (x.respan recast.name recast.mark))
  | ⟨[], span, type⟩ => by
    rw [Chain.respan, linksRespan, visitNew]
    exact .pure rfl
  | ⟨first :: rest, span, type⟩ => by
    rw [Chain.respan, linksRespan, visitNew, visitNew]
    refine RunsCarry.bind ((visitMade_carries unnoticed first).within fun _ => rfl) fun visited => ?_
    obtain ⟨first, made⟩ := visited
    cases made with
    | none => exact .pure rfl
    | some owner =>
      exact RunsCarry.bind ((visitLinks_carries unnoticed (some owner) rest).within fun _ => rfl) fun visited =>
        .pure rfl

lemma visitLinks_carries (unnoticed : recast.Unnoticed) (owner : Option TypeId) : ∀ links : List Link,
    TypedCarry recast (linksRespan recast.name recast.mark) (visitLinks owner links)
      (visitLinks owner (linksRespan recast.name recast.mark links))
  | [] => by
    rw [linksRespan, visitLinks]
    exact .pure rfl
  | link :: rest => by
    rw [linksRespan, visitLinks, visitLinks]
    refine RunsCarry.bind ((visitLink_carries unnoticed owner link).within fun _ => rfl) fun visited => ?_
    obtain ⟨link, type⟩ := visited
    cases type with
    | none => exact .pure rfl
    | some owner =>
      exact RunsCarry.bind ((visitLinks_carries unnoticed (some owner) rest).within fun _ => rfl) fun visited =>
        .pure rfl

lemma visitLink_carries (unnoticed : recast.Unnoticed) (owner : Option TypeId) : ∀ x : Link,
    TypedCarry recast (Link.respan recast.name recast.mark) (visitLink owner x)
      (visitLink owner (x.respan recast.name recast.mark))
  | .name identifier => by
    rw [Link.respan, visitLink, visitLink]
    exact RunsCarry.bind ((bindVariable_carries unnoticed owner identifier).within fun _ => rfl) fun visited =>
      .pure rfl
  | .index identifier index close => by
    rw [Link.respan, visitLink, visitLink]
    refine RunsCarry.bind ((visitExpression_carries unnoticed index).within fun _ => rfl) fun visited => ?_
    obtain ⟨index, indexType⟩ := visited
    refine (RunsCarry.lift (checkIndex_carries unnoticed index indexType)).bind fun _ => ?_
    refine RunsCarry.bind ((bindVariable_carries unnoticed owner identifier).within fun _ => rfl) fun visited => ?_
    refine RunsCarry.get.bind fun s => .pure ?_
    simp only [recast.types_state, unnoticed.element?]
    rfl
  | .call identifier written arguments close => by
    rw [Link.respan, visitLink, visitLink]
    refine RunsCarry.bind ((visitArguments_carries unnoticed arguments).within fun _ => rfl) fun visited => ?_
    obtain ⟨arguments, found⟩ := visited
    refine RunsCarry.bind ((bindTypeArguments_carries unnoticed written).within fun _ => rfl) fun visited => ?_
    obtain ⟨written, arity⟩ := visited
    exact RunsCarry.bind ((bindFunction_carries unnoticed owner arity found identifier).within fun _ => rfl)
      fun visited => .pure rfl

lemma visitMade_carries (unnoticed : recast.Unnoticed) : ∀ x : Link,
    TypedCarry recast (Link.respan recast.name recast.mark) (visitMade x) (visitMade (x.respan recast.name recast.mark))
  | .name identifier => by
    rw [Link.respan, visitMade, visitMade]
    exact .pure rfl
  | .index identifier index close => by
    rw [Link.respan, visitMade, visitMade]
    refine RunsCarry.bind ((visitExpression_carries unnoticed index).within fun _ => rfl) fun visited => ?_
    obtain ⟨index, indexType⟩ := visited
    refine (RunsCarry.lift (checkIndex_carries unnoticed index indexType)).bind fun _ => ?_
    refine RunsCarry.bind ((bindConstructed_carries unnoticed 0 identifier).within fun _ => rfl)
      fun visited => ?_
    obtain ⟨identifier, element⟩ := visited
    cases element with
    | none => exact .pure rfl
    | some element => exact (RunsCarry.lift (arrayOf_carries unnoticed element)).bind fun array => .pure rfl
  | .call identifier written arguments close => by
    rw [Link.respan, visitMade, visitMade]
    refine RunsCarry.bind ((visitArguments_carries unnoticed arguments).within fun _ => rfl) fun visited => ?_
    obtain ⟨arguments, found⟩ := visited
    refine RunsCarry.bind ((bindTypeArguments_carries unnoticed written).within fun _ => rfl) fun visited => ?_
    obtain ⟨written, arity⟩ := visited
    exact RunsCarry.bind ((bindConstructed_carries unnoticed arity identifier).within fun _ => rfl) fun visited =>
      .pure rfl

lemma visitArguments_carries (unnoticed : recast.Unnoticed) : ∀ arguments : List Expression,
    VisitsCarry recast.state (argumentsRespan recast.name recast.mark)
      (Prod.map (argumentsRespan recast.name recast.mark) (List.map (Prod.map id recast.mark)))
      (visitArguments arguments) (visitArguments (argumentsRespan recast.name recast.mark arguments))
  | [] => by
    rw [argumentsRespan, visitArguments]
    exact .pure rfl
  | argument :: rest => by
    rw [argumentsRespan, visitArguments, visitArguments]
    refine RunsCarry.bind ((visitExpression_carries unnoticed argument).within fun _ => rfl) fun visited => ?_
    obtain ⟨argument, type⟩ := visited
    refine RunsCarry.bind ((visitArguments_carries unnoticed rest).within fun _ => rfl) fun visited => .pure ?_
    simp only [Prod.map, Expression.span_respan, argumentsRespan]
    rfl

end

end ArrowScript.Analysis
