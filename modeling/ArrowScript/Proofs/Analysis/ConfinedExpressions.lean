import ArrowScript.Proofs.Analysis.ConfinedNames

/-!
# The names of visited expressions

Visited expressions keep their names, and what is reported of them has no other names than those.
-/

namespace ArrowScript.Analysis

variable {P : String → Prop}

/-! ## Expressions -/

section
variable (P)

/-- A visit of an expression or of a part of one makes up no names, and the node keeps the ones that it has. -/
abbrev TypedConfined {ν : Type} (R : ν → Prop) (visit : Visit ν (ν × Option TypeId)) : Prop :=
  VisitConfined P R (fun visited => R visited.1) visit

end

/-- The type of an operation is found without adding names. -/
lemma operationType_confined (operator : BinaryOperator) (operatorSpan : Span) (left right : Option TypeId) :
    StepConfined P (fun _ => True) (operationType operator operatorSpan left right) := by
  unfold operationType
  split
  · split
    · next left right _ =>
      have reported : StepConfined P (fun _ => True) (report (.operandsDiffer left right) operatorSpan) :=
        report_confined (.nameless trivial rfl)
      exact reported.bind fun _ _ => .pure trivial
    · exact .pure trivial
  · exact .pure trivial

/-- The type of an index is checked without adding names. -/
lemma checkIndex_confined (index : Expression) (type : Option TypeId) :
    StepConfined P (fun _ => True) (checkIndex index type) := by
  unfold checkIndex
  split
  · refine .bind .get fun s _ => ?_
    split
    · exact .pure trivial
    · exact report_confined (.nameless trivial rfl)
  · exact .pure trivial

mutual

/-- An expression keeps its names. -/
lemma visitExpr_confined : ∀ {x : Expr}, x.Spelled P → TypedConfined P (Expr.Spelled P) (visitExpr x)
  | .binary operator operatorSpan left right type, spelled => by
    rw [Expr.Spelled] at spelled
    rw [visitExpr]
    refine RunConfined.bind ((visitExpr_confined spelled.1).within fun node h => ?_) fun visited first => ?_
    · rw [Expr.Spelled]
      exact ⟨h, spelled.2⟩
    obtain ⟨left, leftType⟩ := visited
    refine RunConfined.bind (Q := fun _ => True) (.ask (fun _ => ?_) fun _ _ _ _ => trivial) fun call? _ => ?_
    · rw [Expr.Spelled]
      exact ⟨first, spelled.2⟩
    rcases call? with - | call
    case' some =>
      have reported : StepConfined P (fun _ => True) (report .assignsToCall call) :=
        report_confined (.nameless trivial rfl)
      refine (RunConfined.lift reported).bind fun _ _ => ?_
    all_goals
      refine RunConfined.bind ((visitExpr_confined spelled.2).within fun node h => ?_) fun visited second => ?_
      · rw [Expr.Spelled]
        exact ⟨first, h⟩
      refine (RunConfined.lift (operationType_confined operator operatorSpan leftType visited.2)).bind fun type _ =>
        .pure ?_
      rw [Expr.Spelled]
      exact ⟨first, second⟩
  | .unary operator operatorSpan operand type, spelled => by
    rw [Expr.Spelled] at spelled
    rw [visitExpr]
    refine RunConfined.bind ((visitExpr_confined spelled).within fun node h => ?_) fun visited given => .pure ?_
    · rwa [Expr.Spelled]
    · rwa [Expr.Spelled]
  | .chain path, spelled => by
    rw [Expr.Spelled] at spelled
    rw [visitExpr]
    refine RunConfined.bind ((visitChain_confined spelled).within fun node h => ?_) fun visited given => .pure ?_
    · rwa [Expr.Spelled]
    · rwa [Expr.Spelled]
  | .literal kind span type, _ => by
    rw [visitExpr]
    exact .pure trivial
  | .new keyword path, spelled => by
    rw [Expr.Spelled] at spelled
    rw [visitExpr]
    refine RunConfined.bind ((visitNew_confined spelled).within fun node h => ?_) fun visited given => .pure ?_
    · rwa [Expr.Spelled]
    · rwa [Expr.Spelled]
  | .newArray keyword element, spelled => by
    rw [Expr.Spelled] at spelled
    rw [visitExpr]
    refine RunConfined.bind ((visitExpression_confined spelled).within fun node h => ?_) fun visited given => ?_
    · rwa [Expr.Spelled]
    obtain ⟨element, type⟩ := visited
    cases type with
    | none => exact .pure (by rwa [Expr.Spelled])
    | some type =>
      exact (RunConfined.lift (arrayOf_confined type)).bind fun array _ => .pure (by rwa [Expr.Spelled])
  | .nothing span, _ => by
    rw [visitExpr]
    exact .pure trivial
  | .missing span, _ => by
    rw [visitExpr]
    exact .pure trivial

lemma visitExpression_confined : ∀ {x : Expression}, x.Spelled P →
    TypedConfined P (Expression.Spelled P) (visitExpression x)
  | ⟨root, type⟩, spelled => by
    rw [Expression.Spelled] at spelled
    rw [visitExpression]
    refine RunConfined.bind ((visitExpr_confined spelled).within fun node h => ?_) fun visited given => .pure ?_
    · rwa [Expression.Spelled]
    · rwa [Expression.Spelled]

lemma visitChain_confined : ∀ {x : Chain}, x.Spelled P → TypedConfined P (Chain.Spelled P) (visitChain x)
  | ⟨links, span, type⟩, spelled => by
    rw [Chain.Spelled] at spelled
    rw [visitChain]
    refine RunConfined.bind ((visitLinks_confined none spelled).within fun node h => ?_) fun visited given => .pure ?_
    · rwa [Chain.Spelled]
    · rwa [Chain.Spelled]

lemma visitNew_confined : ∀ {x : Chain}, x.Spelled P → TypedConfined P (Chain.Spelled P) (visitNew x)
  | ⟨[], span, type⟩, spelled => by
    rw [visitNew]
    exact .pure spelled
  | ⟨first :: rest, span, type⟩, spelled => by
    rw [Chain.Spelled, linksSpelled] at spelled
    rw [visitNew]
    refine RunConfined.bind ((visitMade_confined spelled.1).within fun node h => ?_) fun visited made => ?_
    · rw [Chain.Spelled, linksSpelled]
      exact ⟨h, spelled.2⟩
    obtain ⟨first, type⟩ := visited
    cases type with
    | none => exact .pure (by rw [Chain.Spelled, linksSpelled]; exact ⟨made, spelled.2⟩)
    | some owner =>
      refine RunConfined.bind ((visitLinks_confined (some owner) spelled.2).within fun node h => ?_)
        fun visited others => .pure ?_
      · rw [Chain.Spelled, linksSpelled]
        exact ⟨made, h⟩
      · rw [Chain.Spelled, linksSpelled]
        exact ⟨made, others⟩

lemma visitLinks_confined (owner : Option TypeId) : ∀ {links : List Link}, linksSpelled P links →
    TypedConfined P (linksSpelled P) (visitLinks owner links)
  | [], spelled => by
    rw [visitLinks]
    exact .pure spelled
  | link :: rest, spelled => by
    rw [linksSpelled] at spelled
    rw [visitLinks]
    refine RunConfined.bind ((visitLink_confined owner spelled.1).within fun node h => ?_) fun visited first => ?_
    · rw [linksSpelled]
      exact ⟨h, spelled.2⟩
    obtain ⟨link, type⟩ := visited
    cases type with
    | none => exact .pure (by rw [linksSpelled]; exact ⟨first, spelled.2⟩)
    | some owner =>
      refine RunConfined.bind ((visitLinks_confined (some owner) spelled.2).within fun node h => ?_)
        fun visited others => .pure ?_
      · rw [linksSpelled]
        exact ⟨first, h⟩
      · rw [linksSpelled]
        exact ⟨first, others⟩

lemma visitLink_confined (owner : Option TypeId) : ∀ {x : Link}, x.Spelled P →
    TypedConfined P (Link.Spelled P) (visitLink owner x)
  | .name identifier, spelled => by
    rw [Link.Spelled] at spelled
    rw [visitLink]
    refine RunConfined.bind ((bindVariable_confined owner spelled).within fun node h => ?_)
      fun visited given => .pure ?_
    · rwa [Link.Spelled]
    · rwa [Link.Spelled]
  | .index identifier index close, spelled => by
    rw [Link.Spelled] at spelled
    rw [visitLink]
    refine RunConfined.bind ((visitExpression_confined spelled.2).within fun node h => ?_) fun visited inner => ?_
    · rw [Link.Spelled]
      exact ⟨spelled.1, h⟩
    obtain ⟨index, indexType⟩ := visited
    refine (RunConfined.lift (checkIndex_confined index indexType)).bind fun _ _ => ?_
    refine RunConfined.bind ((bindVariable_confined owner spelled.1).within fun node h => ?_) fun visited name =>
      RunConfined.get.bind fun s _ => .pure ?_
    · rw [Link.Spelled]
      exact ⟨h, inner⟩
    · rw [Link.Spelled]
      exact ⟨name, inner⟩
  | .call identifier written arguments close, spelled => by
    rw [Link.Spelled] at spelled
    rw [visitLink]
    refine RunConfined.bind ((visitArguments_confined spelled.2.2).within fun node h => ?_) fun visited given => ?_
    · rw [Link.Spelled]
      exact ⟨spelled.1, spelled.2.1, h⟩
    obtain ⟨arguments, found⟩ := visited
    refine RunConfined.bind ((bindTypeArguments_confined spelled.2.1).within fun node h => ?_) fun visited types => ?_
    · rw [Link.Spelled]
      exact ⟨spelled.1, h, given⟩
    obtain ⟨written, arity⟩ := visited
    refine RunConfined.bind ((bindFunction_confined owner arity found spelled.1).within fun node h => ?_)
      fun visited name => .pure ?_
    · rw [Link.Spelled]
      exact ⟨h, types, given⟩
    · rw [Link.Spelled]
      exact ⟨name, types, given⟩

lemma visitMade_confined : ∀ {x : Link}, x.Spelled P → TypedConfined P (Link.Spelled P) (visitMade x)
  | .name identifier, spelled => by
    rw [visitMade]
    exact .pure spelled
  | .index identifier index close, spelled => by
    rw [Link.Spelled] at spelled
    rw [visitMade]
    refine RunConfined.bind ((visitExpression_confined spelled.2).within fun node h => ?_) fun visited inner => ?_
    · rw [Link.Spelled]
      exact ⟨spelled.1, h⟩
    obtain ⟨index, indexType⟩ := visited
    refine (RunConfined.lift (checkIndex_confined index indexType)).bind fun _ _ => ?_
    refine RunConfined.bind ((bindConstructed_confined 0 spelled.1).within fun node h => ?_) fun visited name => ?_
    · rw [Link.Spelled]
      exact ⟨h, inner⟩
    obtain ⟨identifier, element⟩ := visited
    cases element with
    | none => exact .pure (by rw [Link.Spelled]; exact ⟨name, inner⟩)
    | some element =>
      refine (RunConfined.lift (arrayOf_confined element)).bind fun array _ => .pure ?_
      rw [Link.Spelled]
      exact ⟨name, inner⟩
  | .call identifier written arguments close, spelled => by
    rw [Link.Spelled] at spelled
    rw [visitMade]
    refine RunConfined.bind ((visitArguments_confined spelled.2.2).within fun node h => ?_) fun visited given => ?_
    · rw [Link.Spelled]
      exact ⟨spelled.1, spelled.2.1, h⟩
    obtain ⟨arguments, found⟩ := visited
    refine RunConfined.bind ((bindTypeArguments_confined spelled.2.1).within fun node h => ?_) fun visited types => ?_
    · rw [Link.Spelled]
      exact ⟨spelled.1, h, given⟩
    obtain ⟨written, arity⟩ := visited
    refine RunConfined.bind ((bindConstructed_confined arity spelled.1).within fun node h => ?_)
      fun visited name => .pure ?_
    · rw [Link.Spelled]
      exact ⟨h, types, given⟩
    · rw [Link.Spelled]
      exact ⟨name, types, given⟩

lemma visitArguments_confined : ∀ {arguments : List Expression}, argumentsSpelled P arguments →
    VisitConfined P (argumentsSpelled P) (fun visited => argumentsSpelled P visited.1) (visitArguments arguments)
  | [], spelled => by
    rw [visitArguments]
    exact .pure spelled
  | argument :: rest, spelled => by
    rw [argumentsSpelled] at spelled
    rw [visitArguments]
    refine RunConfined.bind ((visitExpression_confined spelled.1).within fun node h => ?_) fun visited first => ?_
    · rw [argumentsSpelled]
      exact ⟨h, spelled.2⟩
    refine RunConfined.bind ((visitArguments_confined spelled.2).within fun node h => ?_) fun others rest => .pure ?_
    · rw [argumentsSpelled]
      exact ⟨first, h⟩
    · rw [argumentsSpelled]
      exact ⟨first, rest⟩

end

end ArrowScript.Analysis
