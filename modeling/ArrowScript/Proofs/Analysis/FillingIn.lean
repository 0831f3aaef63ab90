import ArrowScript.Analysis.Statement
import ArrowScript.Proofs.Analysis.Erasing
import ArrowScript.Proofs.Analysis.Keeping

/-!
# Filling in expressions

A visit only fills in what is empty: the node that it gives, and the node that comes with a fault, are the same as
before once everything is taken out again that can be filled in (`visitExpr_fills` and the lemmas around it). Visits
add findings behind those that are there, and never report a name as introduced again, which only declaring does.
-/

namespace ArrowScript.Analysis

/-- Whether a problem is that a name is introduced again. -/
def SemanticProblem.isRepeated : SemanticProblem → Bool
  | .alreadyDefined .. => true
  | _ => false

/-- A state in which visits have added findings to earlier ones, at a depth of functions. -/
structure Noted (depth : Nat) (earlier : List (Finding SemanticProblem)) (s : State) : Prop where
  functionDepth : s.functionDepth = depth
  findings : ∃ added, s.findings.toList = earlier ++ added ∧ ∀ finding ∈ added, finding.problem.isRepeated = false

variable {depth : Nat} {earlier : List (Finding SemanticProblem)} {scope : ScopeId} {s t : State}

/-- Nothing is added yet. -/
lemma Noted.start (s : State) : Noted s.functionDepth s.findings.toList s :=
  ⟨rfl, [], (List.append_nil _).symm, nofun⟩

/-- What is noted does not depend on the rest of the state. -/
lemma Noted.framed (noted : Noted depth earlier s) (functionDepth : t.functionDepth = s.functionDepth)
    (findings : t.findings = s.findings) : Noted depth earlier t :=
  ⟨functionDepth.trans noted.functionDepth, findings ▸ noted.findings⟩

section
variable (depth earlier)

/-- A step adds findings only. -/
abbrev StepNotes {α : Type} (Q : α → Prop) (step : Step α) : Prop :=
  StepKeeps (Noted depth earlier) Q step

/-- A visit fills a node in: whether or not it ends with a fault, the node is as stated. -/
abbrev VisitFills {ν : Type} (R : ν → Prop) (visit : Visit ν ν) : Prop :=
  VisitKeeps (Noted depth earlier) R R visit

/-- A visit fills a node in, and gives something with it. -/
abbrev TypedFills {ν β : Type} (R : ν → Prop) (visit : Visit ν (ν × β)) : Prop :=
  VisitKeeps (Noted depth earlier) R (fun visited => R visited.1) visit

end

/-! ## Steps -/

/-- A problem other than a repeated name is reported. -/
lemma report_notes {problem : SemanticProblem} (new : problem.isRepeated = false) (span : Span) :
    StepNotes depth earlier (fun _ => True) (report problem span) := by
  refine .changed fun s noted => ⟨noted.functionDepth, ?_⟩
  obtain ⟨added, same, all⟩ := noted.findings
  refine ⟨added ++ [⟨problem, span⟩], ?_, List.forall_mem_append.mpr ⟨all, List.forall_mem_singleton.mpr new⟩⟩
  rw [Array.toList_push, same, List.append_assoc]

lemma enter_notes (scope : ScopeId) : StepNotes depth earlier (fun _ => True) (enter scope) :=
  .changed fun _ noted => noted.framed rfl rfl

lemma leave_notes : StepNotes depth earlier (fun _ => True) leave :=
  .changed fun _ noted => noted.framed rfl rfl

lemma arrayOf_notes (element : TypeId) : StepNotes depth earlier (fun _ => True) (arrayOf element) :=
  .modifyGet fun _ noted => ⟨trivial, noted.framed rfl rfl⟩

/-! ## Written types -/

lemma lookUp_notes (written : TypeRef) : StepNotes depth earlier (fun _ => True) (lookUp scope written) := by
  refine .bind .get fun s _ => ?_
  split
  · exact .pure trivial
  · next type _ =>
    split
    · exact (arrayOf_notes type).bind fun _ _ => .pure trivial
    · exact .pure trivial

mutual

lemma resolve_notes : ∀ written : TypeRef, StepNotes depth earlier (fun _ => True) (resolve scope written)
  | ⟨name, builtin, arguments, array, binding⟩ => by
    have others : StepNotes depth earlier (fun _ => True) (resolveAll scope arguments) := resolveAll_notes arguments
    rw [resolve]
    refine (lookUp_notes _).bind fun type _ => ?_
    cases type with
    | none =>
      have reported : StepNotes depth earlier (fun _ => True) (report (.unknownType name.content) name) :=
        report_notes rfl name
      exact reported.bind fun _ _ => others.bind fun _ _ => .pure trivial
    | some type => exact others.bind fun _ _ => .pure trivial

lemma resolveAll_notes : ∀ list : List TypeRef, StepNotes depth earlier (fun _ => True) (resolveAll scope list)
  | [] => by
    rw [resolveAll]
    exact .pure trivial
  | written :: rest => by
    rw [resolveAll]
    exact (resolve_notes written).discard.bind fun _ _ => resolveAll_notes rest

end

mutual

/-- Type arguments are filled in. -/
lemma bindArguments_fills : ∀ written : TypeRef,
    StepNotes depth earlier (fun filled => filled.erased = written.erased) (bindArguments scope written)
  | ⟨name, builtin, arguments, array, binding⟩ => by
    rw [bindArguments]
    refine (bindAll_fills arguments).bind fun filled same => .pure ?_
    rw [TypeRef.erased, TypeRef.erased, same]

lemma bindAll_fills : ∀ list : List TypeRef,
    StepNotes depth earlier (fun filled => typesErased filled = typesErased list) (bindAll scope list)
  | [] => by
    rw [bindAll]
    exact .pure rfl
  | written :: rest => by
    rw [bindAll]
    refine (lookUp_notes written).bind fun binding _ => (bindArguments_fills written).bind fun filled first => ?_
    refine (bindAll_fills rest).bind fun others rest => .pure ?_
    rw [typesErased, typesErased, TypeRef.erased_binding, first, rest]

end

lemma declaredType_notes (node : NodeId) (written : TypeRef) :
    StepNotes depth earlier (fun _ => True) (declaredType node scope written) := by
  refine .bind .get fun s _ => ?_
  split
  · exact .pure trivial
  · refine (resolve_notes written).bind fun type _ => ?_
    exact (StepKeeps.changed fun _ noted => noted.framed rfl rfl).bind fun _ _ => .pure trivial

/-- The written type of a declaration is filled in. -/
lemma bindDeclared_fills (node : NodeId) (written : TypeRef) :
    StepNotes depth earlier (fun bound => bound.1.erased = written.erased) (bindDeclared node scope written) := by
  refine (declaredType_notes node written).bind fun type _ => ?_
  exact (bindArguments_fills _).bind fun filled same => .pure (same.trans (written.erased_binding type))

/-- A type argument of a call is filled in. -/
lemma bindTypeArgument_fills (written : TypeRef) :
    StepNotes depth earlier (fun filled => filled.erased = written.erased) (bindTypeArgument scope written) :=
  (resolve_notes written).bind fun type _ =>
    (bindArguments_fills _).mono fun _ same => same.trans (written.erased_binding type)

/-- Written types that are filled in one by one. -/
lemma typesErased_of_forall₂ {list filled : List TypeRef}
    (same : List.Forall₂ (fun written filled => filled.erased = written.erased) list filled) :
    typesErased filled = typesErased list := by
  induction same with
  | nil => rfl
  | cons first _ ih => rw [typesErased, typesErased, first, ih]

/-- The type arguments of a call are filled in. -/
lemma bindTypeArgumentList_fills (written : List TypeRef) :
    StepNotes depth earlier (fun filled => typesErased filled = typesErased written)
      (bindTypeArgumentList scope written) :=
  (StepKeeps.mapM fun type _ => bindTypeArgument_fills type).mono fun _ => typesErased_of_forall₂

/-! ## Names -/

lemma reportMissing_notes (what : Declared) (identifier : Identifier) (owner : Option TypeId) :
    StepNotes depth earlier (fun _ => True) (reportMissing what identifier owner) := by
  cases owner <;> exact report_notes rfl _

lemma variableType_notes (symbol : VariableSymbol) : StepNotes depth earlier (fun _ => True) (variableType symbol) := by
  obtain ⟨node, span, scope, written⟩ := symbol
  cases written with
  | none => exact .bind .get fun s _ => .pure trivial
  | some written => exact declaredType_notes node written

/-- The name of a variable is filled in. -/
lemma bindVariable_fills (owner : Option TypeId) (identifier : Identifier) :
    TypedFills depth earlier (fun filled => filled.erased = identifier.erased) (bindVariable owner identifier) := by
  refine VisitKeeps.bind (.askFor rfl) fun symbol? _ => ?_
  cases symbol? with
  | some symbol => exact (VisitKeeps.lift (variableType_notes symbol)).bind fun type _ => .pure rfl
  | none => exact (VisitKeeps.lift (reportMissing_notes .variable identifier owner)).bind fun _ _ => .pure rfl

lemma checkArgumentsFrom_notes (function : String) (scope : ScopeId) (parameters : List (NodeId × TypeRef)) :
    ∀ (position : Nat) (arguments : List (Option TypeId × Span)),
      StepNotes depth earlier (fun _ => True) (checkArgumentsFrom function scope position parameters arguments) := by
  induction parameters with
  | nil => exact fun position arguments => .pure trivial
  | cons parameter rest ih =>
    intro position arguments
    obtain ⟨node, written⟩ := parameter
    cases arguments with
    | nil => exact .pure trivial
    | cons argument others =>
      obtain ⟨found?, span⟩ := argument
      have others := ih (position + 1) others
      refine (declaredType_notes node written).bind fun expected? _ => ?_
      cases expected? with
      | none => exact others
      | some expected =>
        cases found? with
        | none => exact others
        | some found =>
          refine .bind .get fun s _ => ?_
          dsimp only
          split
          · exact others
          · have reported : StepNotes depth earlier (fun _ => True)
                (report (.argumentDiffers position function expected found) span) := report_notes rfl span
            exact reported.bind fun _ _ => others

lemma checkArguments_notes (identifier : Identifier) (symbol : FunctionSymbol)
    (arguments : List (Option TypeId × Span)) :
    StepNotes depth earlier (fun _ => True) (checkArguments identifier symbol arguments) := by
  have types : StepNotes depth earlier (fun _ => True) _ :=
    checkArgumentsFrom_notes identifier.name symbol.scope symbol.parameters 1 arguments
  unfold checkArguments
  dsimp only
  split
  · have reported : StepNotes depth earlier (fun _ => True) (report
        (.argumentCount identifier.name symbol.parameters.length arguments.length) identifier.span) :=
      report_notes rfl _
    exact reported.bind fun _ _ => types
  · exact types

lemma returnedType_notes (symbol : FunctionSymbol) : StepNotes depth earlier (fun _ => True) (returnedType symbol) := by
  obtain ⟨node, span, scope, parameters, returns⟩ := symbol
  cases returns with
  | none => exact .pure trivial
  | some written => exact declaredType_notes node written

/-- The name of a called function is filled in. -/
lemma bindFunction_fills (owner : Option TypeId) (arity : Nat) (arguments : List (Option TypeId × Span))
    (identifier : Identifier) :
    TypedFills depth earlier (fun filled => filled.erased = identifier.erased)
      (bindFunction owner arity arguments identifier) := by
  refine VisitKeeps.bind (.askFor rfl) fun symbol? _ => ?_
  cases symbol? with
  | some symbol =>
    refine (VisitKeeps.lift (checkArguments_notes identifier symbol arguments)).bind fun _ _ => ?_
    exact (VisitKeeps.lift (returnedType_notes symbol)).bind fun type _ => .pure rfl
  | none => exact (VisitKeeps.lift (reportMissing_notes .function identifier owner)).bind fun _ _ => .pure rfl

/-- The type arguments of a call that may have some are filled in. -/
lemma bindTypeArguments_fills (written : Option (List TypeRef)) :
    TypedFills depth earlier (fun filled => filled.map typesErased = written.map typesErased)
      (bindTypeArguments written) := by
  cases written with
  | none => exact .pure rfl
  | some written =>
    refine VisitKeeps.bind (.askFor rfl) fun scope _ => ?_
    refine (VisitKeeps.lift (bindTypeArgumentList_fills written)).bind fun bound same => .pure ?_
    exact congrArg some same

/-- The name of a type behind `new` is filled in. -/
lemma bindConstructed_fills (arity : Nat) (identifier : Identifier) :
    TypedFills depth earlier (fun filled => filled.erased = identifier.erased) (bindConstructed arity identifier) := by
  refine VisitKeeps.bind (.askFor rfl) fun scope _ =>
    VisitKeeps.get.bind fun s _ => ?_
  split
  · exact .pure rfl
  · have reported : StepNotes depth earlier (fun _ => True) (report (.unknownType identifier.name) identifier.span) :=
      report_notes rfl _
    exact (VisitKeeps.lift reported).bind fun _ _ => .pure rfl

/-! ## Expressions -/

lemma operationType_notes (operator : BinaryOperator) (operatorSpan : Span) (left right : Option TypeId) :
    StepNotes depth earlier (fun _ => True) (operationType operator operatorSpan left right) := by
  unfold operationType
  split
  · split
    · next left right _ =>
      have reported : StepNotes depth earlier (fun _ => True) (report (.operandsDiffer left right) operatorSpan) :=
        report_notes rfl _
      exact reported.bind fun _ _ => .pure trivial
    · exact .pure trivial
  · exact .pure trivial

lemma checkIndex_notes (index : Expression) (type : Option TypeId) :
    StepNotes depth earlier (fun _ => True) (checkIndex index type) := by
  unfold checkIndex
  split
  · refine .bind .get fun s _ => ?_
    split
    · exact .pure trivial
    · exact report_notes rfl _
  · exact .pure trivial

mutual

/-- An expression is filled in. -/
lemma visitExpr_fills : ∀ x : Expr, TypedFills depth earlier (fun filled => filled.erased = x.erased) (visitExpr x)
  | .binary operator operatorSpan left right type => by
    rw [visitExpr]
    refine VisitKeeps.bind ((visitExpr_fills left).within fun node h => ?_) fun visited first => ?_
    · simp only [Expr.erased, h]
    obtain ⟨left', leftType⟩ := visited
    refine VisitKeeps.bind (.askFor ?_) fun call? _ => ?_
    · simp only [Expr.erased, first]
    rcases call? with - | call
    case' some =>
      have reported : StepNotes depth earlier (fun _ => True) (report .assignsToCall call) := report_notes rfl _
      refine (VisitKeeps.lift reported).bind fun _ _ => ?_
    all_goals
      refine VisitKeeps.bind ((visitExpr_fills right).within fun node h => ?_) fun visited second => ?_
      · simp only [Expr.erased, first, h]
      refine (VisitKeeps.lift (operationType_notes operator operatorSpan leftType visited.2)).bind fun type _ =>
        .pure ?_
      simp only [Expr.erased, first, second]
  | .unary operator operatorSpan operand type => by
    rw [visitExpr]
    refine VisitKeeps.bind ((visitExpr_fills operand).within fun node h => ?_) fun visited given => .pure ?_
    · simp only [Expr.erased, h]
    · simp only [Expr.erased, given]
  | .chain path => by
    rw [visitExpr]
    refine VisitKeeps.bind ((visitChain_fills path).within fun node h => ?_) fun visited given => .pure ?_
    · simp only [Expr.erased, h]
    · simp only [Expr.erased, given]
  | .literal kind span type => by
    rw [visitExpr]
    exact .pure (by simp only [Expr.erased])
  | .new keyword path => by
    rw [visitExpr]
    refine VisitKeeps.bind ((visitNew_fills path).within fun node h => ?_) fun visited given => .pure ?_
    · simp only [Expr.erased, h]
    · simp only [Expr.erased, given]
  | .newArray keyword element => by
    rw [visitExpr]
    refine VisitKeeps.bind ((visitExpression_fills element).within fun node h => ?_) fun visited given => ?_
    · simp only [Expr.erased, h]
    obtain ⟨filled, type⟩ := visited
    have same : (Expr.newArray keyword filled).erased = (Expr.newArray keyword element).erased := by
      simp only [Expr.erased, given]
    cases type with
    | none => exact .pure same
    | some type => exact (VisitKeeps.lift (arrayOf_notes type)).bind fun array _ => .pure same
  | .nothing span | .missing span => by
    rw [visitExpr]
    exact .pure rfl

lemma visitExpression_fills : ∀ x : Expression,
    TypedFills depth earlier (fun filled => filled.erased = x.erased) (visitExpression x)
  | ⟨root, type⟩ => by
    rw [visitExpression]
    refine VisitKeeps.bind ((visitExpr_fills root).within fun node h => ?_) fun visited given => .pure ?_
    · simp only [Expression.erased, h]
    · simp only [Expression.erased, given]

lemma visitChain_fills : ∀ x : Chain, TypedFills depth earlier (fun filled => filled.erased = x.erased) (visitChain x)
  | ⟨links, span, type⟩ => by
    rw [visitChain]
    refine VisitKeeps.bind ((visitLinks_fills none links).within fun node h => ?_) fun visited given => .pure ?_
    · simp only [Chain.erased, h]
    · simp only [Chain.erased, given]

lemma visitNew_fills : ∀ x : Chain, TypedFills depth earlier (fun filled => filled.erased = x.erased) (visitNew x)
  | ⟨[], span, type⟩ => by
    rw [visitNew]
    exact .pure rfl
  | ⟨first :: rest, span, type⟩ => by
    rw [visitNew]
    refine VisitKeeps.bind ((visitMade_fills first).within fun node h => ?_) fun visited made => ?_
    · simp only [Chain.erased, linksErased, h]
    obtain ⟨first', type'⟩ := visited
    cases type' with
    | none => exact .pure (by simp only [Chain.erased, linksErased, made])
    | some owner =>
      refine VisitKeeps.bind ((visitLinks_fills (some owner) rest).within fun node h => ?_) fun visited others =>
        .pure ?_
      · simp only [Chain.erased, linksErased, made, h]
      · simp only [Chain.erased, linksErased, made, others]

lemma visitLinks_fills (owner : Option TypeId) : ∀ links : List Link,
    TypedFills depth earlier (fun filled => linksErased filled = linksErased links) (visitLinks owner links)
  | [] => by
    rw [visitLinks]
    exact .pure rfl
  | link :: rest => by
    rw [visitLinks]
    refine VisitKeeps.bind ((visitLink_fills owner link).within fun node h => ?_) fun visited first => ?_
    · simp only [linksErased, h]
    obtain ⟨link', type⟩ := visited
    cases type with
    | none => exact .pure (by simp only [linksErased, first])
    | some owner =>
      refine VisitKeeps.bind ((visitLinks_fills (some owner) rest).within fun node h => ?_) fun visited others =>
        .pure ?_
      · simp only [linksErased, first, h]
      · simp only [linksErased, first, others]

lemma visitLink_fills (owner : Option TypeId) : ∀ x : Link,
    TypedFills depth earlier (fun filled => filled.erased = x.erased) (visitLink owner x)
  | .name identifier => by
    rw [visitLink]
    refine VisitKeeps.bind ((bindVariable_fills owner identifier).within fun node h => ?_) fun visited given => .pure ?_
    · simp only [Link.erased, h]
    · simp only [Link.erased, given]
  | .index identifier index close => by
    rw [visitLink]
    refine VisitKeeps.bind ((visitExpression_fills index).within fun node h => ?_) fun visited inner => ?_
    · simp only [Link.erased, h]
    obtain ⟨index', indexType⟩ := visited
    refine (VisitKeeps.lift (checkIndex_notes index' indexType)).bind fun _ _ => ?_
    refine VisitKeeps.bind ((bindVariable_fills owner identifier).within fun node h => ?_) fun visited name =>
      VisitKeeps.get.bind fun s _ => .pure ?_
    · simp only [Link.erased, inner, h]
    · simp only [Link.erased, inner, name]
  | .call identifier written arguments close => by
    rw [visitLink]
    refine VisitKeeps.bind ((visitArguments_fills arguments).within fun node h => ?_) fun visited given => ?_
    · simp only [Link.erased, h]
    obtain ⟨arguments', found⟩ := visited
    refine VisitKeeps.bind ((bindTypeArguments_fills written).within fun node h => ?_) fun visited types => ?_
    · simp only [Link.erased, given, h]
    obtain ⟨written', arity⟩ := visited
    refine VisitKeeps.bind ((bindFunction_fills owner arity found identifier).within fun node h => ?_)
      fun visited name => .pure ?_
    · simp only [Link.erased, given, types, h]
    · simp only [Link.erased, given, types, name]

lemma visitMade_fills : ∀ x : Link, TypedFills depth earlier (fun filled => filled.erased = x.erased) (visitMade x)
  | .name identifier => by
    rw [visitMade]
    exact .pure rfl
  | .index identifier index close => by
    rw [visitMade]
    refine VisitKeeps.bind ((visitExpression_fills index).within fun node h => ?_) fun visited inner => ?_
    · simp only [Link.erased, h]
    obtain ⟨index', indexType⟩ := visited
    refine (VisitKeeps.lift (checkIndex_notes index' indexType)).bind fun _ _ => ?_
    refine VisitKeeps.bind ((bindConstructed_fills 0 identifier).within fun node h => ?_) fun visited name => ?_
    · simp only [Link.erased, inner, h]
    obtain ⟨identifier', element⟩ := visited
    have same : (Link.index identifier' index' close).erased = (Link.index identifier index close).erased := by
      simp only [Link.erased, inner, name]
    cases element with
    | none => exact .pure same
    | some element => exact (VisitKeeps.lift (arrayOf_notes element)).bind fun array _ => .pure same
  | .call identifier written arguments close => by
    rw [visitMade]
    refine VisitKeeps.bind ((visitArguments_fills arguments).within fun node h => ?_) fun visited given => ?_
    · simp only [Link.erased, h]
    obtain ⟨arguments', found⟩ := visited
    refine VisitKeeps.bind ((bindTypeArguments_fills written).within fun node h => ?_) fun visited types => ?_
    · simp only [Link.erased, given, h]
    obtain ⟨written', arity⟩ := visited
    refine VisitKeeps.bind ((bindConstructed_fills arity identifier).within fun node h => ?_)
      fun visited name => .pure ?_
    · simp only [Link.erased, given, types, h]
    · simp only [Link.erased, given, types, name]

lemma visitArguments_fills : ∀ arguments : List Expression,
    TypedFills depth earlier (fun filled => argumentsErased filled = argumentsErased arguments)
      (visitArguments arguments)
  | [] => by
    rw [visitArguments]
    exact .pure rfl
  | argument :: rest => by
    rw [visitArguments]
    refine VisitKeeps.bind ((visitExpression_fills argument).within fun node h => ?_) fun visited first => ?_
    · simp only [argumentsErased, h]
    refine VisitKeeps.bind ((visitArguments_fills rest).within fun node h => ?_) fun visited others => .pure ?_
    · simp only [argumentsErased, first, h]
    · simp only [argumentsErased, first, others]

end

end ArrowScript.Analysis
