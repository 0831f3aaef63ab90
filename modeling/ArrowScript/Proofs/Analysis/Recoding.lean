import ArrowScript.Proofs.Analysis.Surveying
import ArrowScript.Proofs.Analysis.Renaming

/-!
# Renamed codes

The account of a blank tree under a renamed code is the account under the code itself, with the types in it
renamed (`Block.problems_recoded`, `Block.account_recoded`). What is judged of shapes does not depend on the
code.
-/

namespace ArrowScript.Analysis

section
variable (ξ : TypeId → TypeId)

/-- What is judged, with types renamed. -/
def Judged.rename {ν σ : Type} (place : ν → ν) (judged : Judged ν σ) : Judged ν σ :=
  ⟨place judged.node, judged.shape, judged.problems.map (renameFinding ξ)⟩

/-- What comes of a visit, with types renamed. -/
def Outcome.rename {ν : Type} (place : ν → ν) (outcome : Outcome ν) : Outcome ν :=
  ⟨place outcome.node, outcome.problems.map (renameFinding ξ), outcome.inferred⟩

/-- The same place, when shapes are coded by renamed handles. -/
def Setting.recoded (setting : Setting) : Setting :=
  { setting with code := fun shape => ξ (setting.code shape) }

end

end ArrowScript.Analysis

namespace ArrowScript
open Analysis

variable {ξ : TypeId → TypeId} {code : Shape → TypeId} {layer : Layer} {setting : Setting}

/-! ## Written types -/

/-- A code renames what it gives. -/
lemma map_recoded (shape : Option Shape) : shape.map (fun shape => ξ (code shape)) = (shape.map code).map ξ := by
  rw [Option.map_map]
  rfl

mutual

/-- The type arguments of a written type are filled in with renamed types. -/
lemma TypeRef.filled_recoded : ∀ (written : TypeRef) (binding : Option TypeId),
    { written.filled (fun shape => ξ (code shape)) layer with binding := binding.map ξ } =
      { written.filled code layer with binding := binding }.rename ξ
  | ⟨name, builtin, arguments, array, _⟩, binding => by
    rw [TypeRef.filled, TypeRef.filled, TypeRef.rename, typesFilled_recoded]

lemma typesFilled_recoded : ∀ list : List TypeRef,
    typesFilled (fun shape => ξ (code shape)) layer list = typesRename ξ (typesFilled code layer list)
  | [] => rfl
  | written :: rest => by
    rw [typesFilled, typesFilled, typesRename, typesFilled_recoded rest, map_recoded, TypeRef.filled_recoded]

end

/-- A written type is filled in with renamed types. -/
lemma TypeRef.bound_recoded (written : TypeRef) :
    written.bound (fun shape => ξ (code shape)) layer = (written.bound code layer).rename ξ := by
  obtain ⟨name, builtin, arguments, array, binding⟩ := written
  rw [TypeRef.bound, TypeRef.bound, TypeRef.filled, TypeRef.filled, TypeRef.rename, typesFilled_recoded,
    map_recoded]

/-- Written types are filled in with renamed types. -/
lemma map_bound_recoded (list : List TypeRef) :
    list.map (TypeRef.bound (fun shape => ξ (code shape)) layer) =
      typesRename ξ (list.map (TypeRef.bound code layer)) := by
  induction list with
  | nil => rfl
  | cons written rest ih => rw [List.map_cons, List.map_cons, typesRename, ih, TypeRef.bound_recoded]

mutual

/-- There are no types in unknown names. -/
lemma TypeRef.map_unknown : ∀ written : TypeRef,
    (written.unknown layer).map (renameFinding ξ) = written.unknown layer
  | ⟨name, builtin, arguments, array, binding⟩ => by
    rw [TypeRef.unknown, List.map_append, map_unknownNames]
    congr 1
    split <;> rfl

lemma map_unknownNames : ∀ list : List TypeRef,
    (unknownNames layer list).map (renameFinding ξ) = unknownNames layer list
  | [] => rfl
  | written :: rest => by rw [unknownNames, List.map_append, TypeRef.map_unknown, map_unknownNames]

end

/-! ## Names -/

namespace Analysis.Setting

/-- The same members can follow a name. -/
lemma seen_recoded (owner : Option Shape) : (setting.recoded ξ).seen owner = setting.seen owner := by
  cases owner <;> rfl

@[simp] lemma around_recoded : (setting.recoded ξ).around = setting.around := rfl

@[simp] lemma nested_recoded : (setting.recoded ξ).nested = setting.nested := rfl

@[simp] lemma returned_recoded : (setting.recoded ξ).returned = setting.returned := rfl

@[simp] lemma inside_recoded (layer : Layer) :
    (setting.recoded ξ).inside layer = (setting.inside layer).recoded ξ := rfl

@[simp] lemma after_recoded (inferred : List (NodeId × Shape)) :
    (setting.recoded ξ).after inferred = (setting.after inferred).recoded ξ := rfl

@[simp] lemma body_recoded (returned : Option Shape) :
    (setting.recoded ξ).body returned = (setting.body returned).recoded ξ := rfl

/-- A missing name of a renamed type. -/
lemma missing_recoded (what : Declared) (identifier : Identifier) (owner : Option Shape) :
    (setting.recoded ξ).missing what identifier owner = renameFinding ξ (setting.missing what identifier owner) := by
  cases owner <;> rfl

/-- A variable is judged alike. -/
lemma judgeVariable_recoded {identifier : Identifier} (unbound : identifier.binding = none)
    (owner : Option Shape) : (setting.recoded ξ).judgeVariable owner identifier =
      (setting.judgeVariable owner identifier).rename ξ (Identifier.rename ξ) := by
  unfold judgeVariable
  rw [seen_recoded]
  cases (setting.seen owner).bind (·.variableOf identifier.name) with
  | some entry => rfl
  | none =>
    show Judged.mk _ _ [(setting.recoded ξ).missing .variable identifier owner] = _
    rw [missing_recoded, Judged.rename, Identifier.rename_of_unbound unbound]
    rfl

/-- Types that must go together are judged alike. -/
lemma mismatch_recoded {problem : TypeId → TypeId → SemanticProblem}
    (renames : ∀ first second, (problem first second).rename ξ = problem (ξ first) (ξ second))
    (expected found : Option Shape) (span : Span) :
    (setting.recoded ξ).mismatch problem expected found span =
      (setting.mismatch problem expected found span).map (renameFinding ξ) := by
  unfold mismatch
  cases expected with
  | none => rfl
  | some expected =>
    cases found with
    | none => rfl
    | some found =>
      simp only
      split
      · rfl
      · rw [List.map_singleton, renameFinding, renames]
        rfl

/-- Arguments are judged alike. -/
lemma argumentMismatches_recoded (function : String) (parameters : List NodeId) :
    ∀ (position : Nat) (arguments : List (Option Shape × Span)),
      (setting.recoded ξ).argumentMismatches function position parameters arguments =
        (setting.argumentMismatches function position parameters arguments).map (renameFinding ξ) := by
  induction parameters with
  | nil => exact fun position arguments => rfl
  | cons parameter rest ih =>
    intro position arguments
    cases arguments with
    | nil => rfl
    | cons argument others =>
      rw [argumentMismatches, argumentMismatches, ih, List.map_append, mismatch_recoded fun _ _ => rfl]
      rfl

/-- The arguments of a call are judged alike. -/
lemma argumentProblems_recoded (identifier : Identifier) (parameters : List NodeId)
    (arguments : List (Option Shape × Span)) :
    (setting.recoded ξ).argumentProblems identifier parameters arguments =
      (setting.argumentProblems identifier parameters arguments).map (renameFinding ξ) := by
  rw [argumentProblems, argumentProblems, argumentMismatches_recoded, List.map_append]
  congr 1
  split <;> rfl

/-- A called function is judged alike. -/
lemma judgeFunction_recoded {identifier : Identifier} (unbound : identifier.binding = none)
    (owner : Option Shape) (arity : Nat) (arguments : List (Option Shape × Span)) :
    (setting.recoded ξ).judgeFunction owner arity arguments identifier =
      (setting.judgeFunction owner arity arguments identifier).rename ξ (Identifier.rename ξ) := by
  unfold judgeFunction
  rw [seen_recoded]
  cases (setting.seen owner).bind (·.functionOf (mangle identifier.name arity)) with
  | some entry =>
    show Judged.mk _ _ ((setting.recoded ξ).argumentProblems _ _ _) = _
    rw [argumentProblems_recoded]
    rfl
  | none =>
    show Judged.mk _ _ [(setting.recoded ξ).missing .function identifier owner] = _
    rw [missing_recoded, Judged.rename, Identifier.rename_of_unbound unbound]
    rfl

/-- The type arguments of a call are judged alike. -/
lemma judgeTypeArguments_recoded (written : Option (List TypeRef)) :
    (setting.recoded ξ).judgeTypeArguments written =
      (setting.judgeTypeArguments written).rename ξ (Option.map (typesRename ξ)) := by
  cases written with
  | none => rfl
  | some list =>
    show Judged.mk (some (list.map (TypeRef.bound (fun shape => ξ (setting.code shape)) setting.around))) _ _ = _
    rw [map_bound_recoded, Judged.rename]
    show _ = Judged.mk _ _ ((unknownNames setting.around list).map (renameFinding ξ))
    rw [map_unknownNames]
    rfl

/-- The name of a type behind `new` is judged alike. -/
lemma judgeConstructed_recoded {identifier : Identifier} (unbound : identifier.binding = none) (arity : Nat) :
    (setting.recoded ξ).judgeConstructed arity identifier =
      (setting.judgeConstructed arity identifier).rename ξ (Identifier.rename ξ) := by
  unfold judgeConstructed
  rw [show (setting.recoded ξ).constructed? identifier.name arity =
    setting.constructed? identifier.name arity from rfl]
  cases setting.constructed? identifier.name arity with
  | some origin => rfl
  | none =>
    rw [Judged.rename, Identifier.rename_of_unbound unbound]
    rfl

/-- Operands are judged alike. -/
lemma operandProblems_recoded (span : Span) (left right : Option Shape) :
    (setting.recoded ξ).operandProblems span left right =
      (setting.operandProblems span left right).map (renameFinding ξ) := by
  unfold operandProblems
  cases left with
  | none => rfl
  | some left =>
    cases right with
    | none => rfl
    | some right =>
      simp only
      split <;> rfl

/-- An index is judged alike. -/
lemma indexProblems_recoded {index renamed : Expression} (span : renamed.root.span = index.root.span)
    (shape : Option Shape) : (setting.recoded ξ).indexProblems renamed shape =
      (setting.indexProblems index shape).map (renameFinding ξ) := by
  unfold indexProblems
  rw [span]
  cases shape with
  | none => rfl
  | some shape =>
    simp only
    split <;> rfl

end Analysis.Setting

/-! ## Expressions -/

/-- An expression with types renamed starts where it started. -/
lemma Expr.span_rename : ∀ x : Expr, (x.rename ξ).span = x.span
  | .binary _ _ left _ _ => by
    rw [Expr.rename, Expr.span, Expr.span, left.span_rename]
  | .unary .. | .literal .. | .new .. | .newArray .. | .nothing _ | .missing _ => rfl
  | .chain ⟨links, span, type⟩ => by
    rw [Expr.rename, Expr.span, Expr.span, Chain.rename]

/-- A whole expression with types renamed starts where it started. -/
lemma Expression.span_rename (x : Expression) : (x.rename ξ).root.span = x.root.span := by
  obtain ⟨root, type⟩ := x
  rw [Expression.rename]
  exact root.span_rename

/-- Links are renamed one by one. -/
lemma linksRename_eq_map (links : List Link) : linksRename ξ links = links.map (Link.rename ξ) := by
  induction links with
  | nil => rfl
  | cons link rest ih => rw [linksRename, List.map_cons, ih]

/-- A call that is assigned to is one whatever types are called. -/
lemma targetProblems_rename (operator : BinaryOperator) (target : Expr) :
    targetProblems operator (target.rename ξ) = (targetProblems operator target).map (renameFinding ξ) := by
  cases target with
  | chain path =>
    obtain ⟨links, span, type⟩ := path
    rw [Expr.rename, Chain.rename, linksRename_eq_map]
    cases operator <;> try rfl
    unfold targetProblems
    simp only [List.getLast?_map]
    cases links.getLast? with
    | none => rfl
    | some last => cases last <;> rfl
  | _ => cases operator <;> rfl

/-- The type that is filled in is renamed. -/
lemma map_code_recoded (shape : Option Shape) : shape.map (setting.recoded ξ).code = (shape.map setting.code).map ξ :=
  map_recoded shape

/-- An operation is judged alike if its operands are. -/
lemma binary_judged_recoded {operator : BinaryOperator} {span : Span} {left right : Expr} {type : Option TypeId}
    (first : left.judged (setting.recoded ξ) = (left.judged setting).rename ξ (Expr.rename ξ))
    (second : right.judged (setting.recoded ξ) = (right.judged setting).rename ξ (Expr.rename ξ)) :
    (Expr.binary operator span left right type).judged (setting.recoded ξ) =
      ((Expr.binary operator span left right type).judged setting).rename ξ (Expr.rename ξ) := by
  rw [Expr.judged, Expr.judged, first, second]
  simp only [Judged.rename, Expr.rename, targetProblems_rename, Setting.operandProblems_recoded,
    map_code_recoded, List.map_append]

mutual

/-- An expression is judged alike. -/
lemma Expr.Blank.judged_recoded : ∀ {x : Expr}, x.Blank →
    x.judged (setting.recoded ξ) = (x.judged setting).rename ξ (Expr.rename ξ)
  | .binary operator span left right type, blank => by
    rw [Expr.Blank] at blank
    exact binary_judged_recoded blank.2.1.judged_recoded blank.2.2.1.judged_recoded
  | .unary operator span operand type, blank => by
    rw [Expr.Blank] at blank
    rw [Expr.judged, Expr.judged, blank.1.judged_recoded]
    simp only [Judged.rename, Expr.rename, map_code_recoded]
  | .chain path, blank => by
    rw [Expr.Blank] at blank
    rw [Expr.judged, Expr.judged, blank.judged_recoded]
    simp only [Judged.rename, Expr.rename]
  | .literal kind span type, blank => by
    rw [Expr.judged, Expr.judged]
    rfl
  | .new keyword path, blank => by
    rw [Expr.Blank] at blank
    rw [Expr.judged, Expr.judged, blank.judgedNew_recoded]
    simp only [Judged.rename, Expr.rename]
  | .newArray keyword element, blank => by
    rw [Expr.Blank] at blank
    rw [Expr.judged, Expr.judged, blank.judged_recoded]
    simp only [Judged.rename, Expr.rename]
  | .nothing span, blank => by
    rw [Expr.judged, Expr.judged]
    rfl
  | .missing span, blank => by
    rw [Expr.judged, Expr.judged]
    rfl

lemma Expression.Blank.judged_recoded : ∀ {x : Expression}, x.Blank →
    x.judged (setting.recoded ξ) = (x.judged setting).rename ξ (Expression.rename ξ)
  | ⟨root, type⟩, blank => by
    rw [Expression.Blank] at blank
    rw [Expression.judged, Expression.judged, blank.1.judged_recoded]
    simp only [Judged.rename, Expression.rename, map_code_recoded]

lemma Chain.Blank.judged_recoded : ∀ {x : Chain}, x.Blank →
    x.judged (setting.recoded ξ) = (x.judged setting).rename ξ (Chain.rename ξ)
  | ⟨links, span, type⟩, blank => by
    rw [Chain.Blank] at blank
    rw [Chain.judged, Chain.judged, linksBlank_judged_recoded blank.1]
    simp only [Judged.rename, Chain.rename, map_code_recoded]

lemma Chain.Blank.judgedNew_recoded : ∀ {x : Chain}, x.Blank →
    x.judgedNew (setting.recoded ξ) = (x.judgedNew setting).rename ξ (Chain.rename ξ)
  | ⟨[], span, type⟩, blank => by
    rw [Chain.Blank] at blank
    obtain ⟨-, rfl⟩ := blank
    rw [Chain.judgedNew, Chain.judgedNew]
    rfl
  | ⟨first :: rest, span, type⟩, blank => by
    rw [Chain.Blank, linksBlank] at blank
    obtain ⟨⟨first, rest⟩, -⟩ := blank
    rw [Chain.judgedNew, Chain.judgedNew, first.judgedMade_recoded]
    simp only [Judged.rename]
    split
    · simp only [Chain.rename, linksRename, linksBlank_rename rest, Option.map_none]
    · simp only [linksBlank_judged_recoded rest, Judged.rename, Chain.rename, linksRename, map_code_recoded,
        List.map_append]

lemma linksBlank_judged_recoded : ∀ {x : List Link}, linksBlank x → ∀ {owner : Option Shape},
    linksJudged (setting.recoded ξ) owner x = (linksJudged setting owner x).rename ξ (linksRename ξ)
  | [], _, owner => by
    rw [linksJudged, linksJudged]
    rfl
  | link :: rest, blank, owner => by
    rw [linksBlank] at blank
    rw [linksJudged, linksJudged, blank.1.judged_recoded]
    simp only [Judged.rename]
    split
    · simp only [linksRename, linksBlank_rename blank.2]
    · simp only [linksBlank_judged_recoded blank.2, Judged.rename, linksRename, List.map_append]

lemma Link.Blank.judged_recoded : ∀ {x : Link}, x.Blank → ∀ {owner : Option Shape},
    x.judged (setting.recoded ξ) owner = (x.judged setting owner).rename ξ (Link.rename ξ)
  | .name identifier, blank, owner => by
    rw [Link.Blank] at blank
    rw [Link.judged, Link.judged, Setting.judgeVariable_recoded blank]
    simp only [Judged.rename, Link.rename]
  | .index identifier index close, blank, owner => by
    rw [Link.Blank] at blank
    rw [Link.judged, Link.judged, Setting.judgeVariable_recoded blank.1, blank.2.judged_recoded]
    simp only [Judged.rename, Link.rename, List.map_append,
      Setting.indexProblems_recoded (Expression.span_rename _)]
  | .call identifier written arguments close, blank, owner => by
    rw [Link.Blank] at blank
    rw [Link.judged, Link.judged, argumentsBlank_judged_recoded blank.2.2, Setting.judgeTypeArguments_recoded]
    simp only [Judged.rename, Setting.judgeFunction_recoded blank.1, Link.rename, List.map_append]

lemma Link.Blank.judgedMade_recoded : ∀ {x : Link}, x.Blank →
    x.judgedMade (setting.recoded ξ) = (x.judgedMade setting).rename ξ (Link.rename ξ)
  | .name identifier, blank => by
    rw [Link.Blank] at blank
    rw [Link.judgedMade, Link.judgedMade]
    simp only [Judged.rename, Link.rename, Identifier.rename_of_unbound blank, List.map_nil]
  | .index identifier index close, blank => by
    rw [Link.Blank] at blank
    rw [Link.judgedMade, Link.judgedMade, Setting.judgeConstructed_recoded blank.1, blank.2.judged_recoded]
    simp only [Judged.rename, Link.rename, List.map_append,
      Setting.indexProblems_recoded (Expression.span_rename _)]
  | .call identifier written arguments close, blank => by
    rw [Link.Blank] at blank
    rw [Link.judgedMade, Link.judgedMade, argumentsBlank_judged_recoded blank.2.2,
      Setting.judgeTypeArguments_recoded]
    simp only [Judged.rename, Setting.judgeConstructed_recoded blank.1, Link.rename, List.map_append]

lemma argumentsBlank_judged_recoded : ∀ {x : List Expression}, argumentsBlank x →
    argumentsJudged (setting.recoded ξ) x = (argumentsJudged setting x).rename ξ (argumentsRename ξ)
  | [], _ => by
    rw [argumentsJudged, argumentsJudged]
    rfl
  | argument :: rest, blank => by
    rw [argumentsBlank] at blank
    rw [argumentsJudged, argumentsJudged, blank.1.judged_recoded, argumentsBlank_judged_recoded blank.2]
    simp only [Judged.rename, argumentsRename, Expression.span_rename, List.map_append]

end

/-- An expression that is a statement is judged alike. -/
lemma Expression.BlankStatement.judged_recoded {x : Expression} (blank : x.BlankStatement) :
    x.judged (setting.recoded ξ) = (x.judged setting).rename ξ (Expression.rename ξ) := by
  unfold Expression.BlankStatement at blank
  split at blank
  · obtain ⟨⟨left, right, -⟩, -⟩ := blank
    rw [Expression.judged, Expression.judged,
      binary_judged_recoded left.judged_recoded right.judged_recoded]
    simp only [Judged.rename, Expression.rename, map_code_recoded]
  · exact blank.judged_recoded

/-! ## Statements -/

/-- An expression that may be absent is judged alike. -/
lemma optionJudged_recoded {value : Option Expression} (blank : ∀ x ∈ value, x.Blank) :
    optionJudged (setting.recoded ξ) value =
      (optionJudged setting value).rename ξ (Option.map (Expression.rename ξ)) := by
  cases value with
  | none => rfl
  | some x =>
    rw [optionJudged, optionJudged, (blank x rfl).judged_recoded]
    rfl

/-- A declaration is visited alike. -/
lemma Declaration.Blank.visited_recoded {declaration : Declaration} (blank : declaration.Blank) (setting : Setting) :
    declaration.visited (setting.recoded ξ) = (declaration.visited setting).rename ξ (Declaration.rename ξ) := by
  have initial : optionJudged (setting.recoded ξ) declaration.initial = _ := optionJudged_recoded blank.initial
  obtain ⟨id, name, written, value, type⟩ := declaration
  unfold Declaration.visited
  cases written with
  | none =>
    simp only [initial, Judged.rename, Outcome.rename, Declaration.rename, map_code_recoded, Option.map_none]
  | some written =>
    -- Values differ from written types after the renaming where they did before.
    have problems : ((optionJudged setting value).node.map (Expression.rename ξ)).elim [] (fun found =>
        (setting.recoded ξ).mismatch .initialDiffers (setting.around.shape? written)
          (optionJudged setting value).shape found.root.span) =
        ((optionJudged setting value).node.elim [] fun found => setting.mismatch .initialDiffers
          (setting.around.shape? written) (optionJudged setting value).shape found.root.span).map
          (renameFinding ξ) := by
      cases (optionJudged setting value).node with
      | none => rfl
      | some found =>
        rw [Option.map_some, Option.elim_some, Option.elim_some, Expression.span_rename]
        exact Setting.mismatch_recoded (fun _ _ => rfl) _ _ _
    have type : written.bound (setting.recoded ξ).code setting.around =
        (written.bound setting.code setting.around).rename ξ := written.bound_recoded
    simp only [initial, Judged.rename, Outcome.rename, Declaration.rename, Option.map_some, List.map_append,
      Setting.around_recoded, problems, map_code_recoded, type]

/-- Declarations are visited alike. -/
lemma declarationsVisited_recoded {list : List Declaration} (blank : ∀ declaration ∈ list, declaration.Blank) :
    ∀ (setting : Setting), declarationsVisited (setting.recoded ξ) list =
      (declarationsVisited setting list).rename ξ (List.map (Declaration.rename ξ)) := by
  induction list with
  | nil => exact fun setting => rfl
  | cons declaration rest ih =>
    intro setting
    have head := (blank declaration List.mem_cons_self).visited_recoded (ξ := ξ) setting
    have ih := ih (fun other mem => blank other (List.mem_cons_of_mem _ mem))
      (setting.after (declaration.visited setting).inferred)
    rw [declarationsVisited, declarationsVisited, head]
    simp only [Outcome.rename, Setting.after_recoded, ih, List.map_cons, List.map_append]

/-- A returned value is visited alike. -/
lemma returnVisited_recoded (keyword : Span) {value : Option Expression} (blank : ∀ x ∈ value, x.Blank) :
    returnVisited (setting.recoded ξ) keyword value =
      (returnVisited setting keyword value).rename ξ (Option.map (Expression.rename ξ)) := by
  unfold returnVisited
  rw [optionJudged_recoded blank]
  simp only [Judged.rename, Outcome.rename, Option.isSome_map, List.map_append, Setting.returned_recoded]
  rw [Setting.mismatch_recoded fun _ _ => rfl]

/-- The types of a parameter are filled in alike. -/
lemma Parameter.filled_recoded (parameter : Parameter) :
    parameter.filled (setting.recoded ξ) = (parameter.filled setting).rename ξ := by
  unfold Parameter.filled Parameter.rename
  rw [← TypeRef.bound_recoded]
  rfl

mutual

/-- A block is visited alike. -/
lemma Block.Blank.visited_recoded : ∀ {x : Block}, x.Blank → ∀ (setting : Setting),
    x.visited (setting.recoded ξ) = (x.visited setting).rename ξ (Block.rename ξ)
  | ⟨id, kind, statements, span⟩, blank, setting => by
    rw [Block.Blank] at blank
    have inner := statementsBlank_visited_recoded blank
      (setting.inside (statementLayer setting.nested statements))
    rw [Block.visited, Block.visited, Setting.nested_recoded, Setting.inside_recoded, inner]
    simp only [Outcome.rename, Block.rename]

lemma statementsBlank_visited_recoded : ∀ {x : List Statement}, statementsBlank x → ∀ (setting : Setting),
    statementsVisited (setting.recoded ξ) x = (statementsVisited setting x).rename ξ (statementsRename ξ)
  | [], _, setting => by
    rw [statementsVisited, statementsVisited]
    rfl
  | statement :: rest, blank, setting => by
    rw [statementsBlank] at blank
    have head := blank.1.visited_recoded setting
    have others := statementsBlank_visited_recoded blank.2
      (setting.after (statement.visited setting).inferred)
    rw [statementsVisited, statementsVisited, head]
    simp only [Outcome.rename, Setting.after_recoded, others, statementsRename, List.map_append]

lemma Statement.Blank.visited_recoded : ∀ {x : Statement}, x.Blank → ∀ (setting : Setting),
    x.visited (setting.recoded ξ) = (x.visited setting).rename ξ (Statement.rename ξ)
  | .type definition, blank, setting => by
    rw [Statement.Blank] at blank
    rw [Statement.visited, Statement.visited, blank.visited_recoded, Setting.nested_recoded]
    split
    · simp only [Outcome.rename, Statement.rename, blank.rename, List.map_nil]
    · simp only [Outcome.rename, Statement.rename]
  | .function definition, blank, setting => by
    rw [Statement.Blank] at blank
    rw [Statement.visited, Statement.visited, blank.visited_recoded, Setting.nested_recoded]
    split
    · simp only [Outcome.rename, Statement.rename, blank.rename, List.map_nil]
    · simp only [Outcome.rename, Statement.rename]
  | .variable declaration, blank, setting => by
    rw [Statement.Blank] at blank
    rw [Statement.visited, Statement.visited, blank.visited_recoded]
    simp only [Outcome.rename, Statement.rename]
  | .returning keyword value, blank, setting => by
    rw [Statement.Blank] at blank
    rw [Statement.visited, Statement.visited, returnVisited_recoded keyword blank]
    simp only [Outcome.rename, Statement.rename]
  | .whileLoop keyword condition body, blank, setting => by
    rw [Statement.Blank] at blank
    rw [Statement.visited, Statement.visited, blank.1.judged_recoded, blank.2.visited_recoded]
    simp only [Judged.rename, Outcome.rename, Statement.rename, List.map_append]
  | .conditional conditional, blank, setting => by
    rw [Statement.Blank] at blank
    rw [Statement.visited, Statement.visited, blank.visited_recoded]
    simp only [Outcome.rename, Statement.rename]
  | .expression expression, blank, setting => by
    rw [Statement.Blank] at blank
    rw [Statement.visited, Statement.visited, blank.judged_recoded]
    simp only [Judged.rename, Outcome.rename, Statement.rename]
  | .breaking keyword, _, setting => by
    rw [Statement.visited, Statement.visited]
    rfl
  | .continuing keyword, _, setting => by
    rw [Statement.visited, Statement.visited]
    rfl
  | .importing keyword target, blank, setting => by
    rw [Statement.Blank] at blank
    rw [Statement.visited, Statement.visited]
    simp only [Outcome.rename, Statement.rename, blank.rename, List.map_nil]
  | .path keyword target, blank, setting => by
    rw [Statement.Blank] at blank
    rw [Statement.visited, Statement.visited]
    simp only [Outcome.rename, Statement.rename, blank.rename, List.map_nil]

lemma Conditional.Blank.visited_recoded : ∀ {x : Conditional}, x.Blank → ∀ (setting : Setting),
    x.visited (setting.recoded ξ) = (x.visited setting).rename ξ (Conditional.rename ξ)
  | ⟨condition, body, otherwise, keyword⟩, blank, setting => by
    rw [Conditional.Blank] at blank
    have last := blank.2.2.visited_recoded (setting.after (body.visited setting).inferred)
    rw [Conditional.visited, Conditional.visited, blank.1.judged_recoded, blank.2.1.visited_recoded]
    simp only [Judged.rename, Outcome.rename, Setting.after_recoded, last, Conditional.rename, List.map_append]

lemma Otherwise.Blank.visited_recoded : ∀ {x : Otherwise}, x.Blank → ∀ (setting : Setting),
    x.visited (setting.recoded ξ) = (x.visited setting).rename ξ (Otherwise.rename ξ)
  | .nothing, _, setting => by
    rw [Otherwise.visited, Otherwise.visited]
    rfl
  | .conditional conditional, blank, setting => by
    rw [Otherwise.Blank] at blank
    rw [Otherwise.visited, Otherwise.visited, blank.visited_recoded]
    simp only [Outcome.rename, Otherwise.rename]
  | .block block, blank, setting => by
    rw [Otherwise.Blank] at blank
    rw [Otherwise.visited, Otherwise.visited, blank.visited_recoded]
    simp only [Outcome.rename, Otherwise.rename]

lemma FunctionDef.Blank.visited_recoded : ∀ {x : FunctionDef}, x.Blank → ∀ (setting : Setting),
    x.visited (setting.recoded ξ) = (x.visited setting).rename ξ (FunctionDef.rename ξ)
  | ⟨id, name, typeParameters, parameters, returns, body, keyword⟩, blank, setting => by
    rw [FunctionDef.Blank] at blank
    let definition : FunctionDef := ⟨id, name, typeParameters, parameters, returns, body, keyword⟩
    let inside := setting.inside definition.layer
    have inner := blank.2.2.visited_recoded (inside.body (definition.returned inside.around))
    have list : parameters.map (Parameter.filled (inside.recoded ξ)) =
        (parameters.map (Parameter.filled inside)).map (Parameter.rename ξ) := by
      rw [List.map_map]
      exact List.map_congr_left fun parameter _ => parameter.filled_recoded
    have type : returns.map (TypeRef.bound (inside.recoded ξ).code inside.around) =
        (returns.map (TypeRef.bound inside.code inside.around)).map (TypeRef.rename ξ) := by
      rw [Option.map_map]
      exact Option.map_congr fun written _ => written.bound_recoded
    rw [FunctionDef.visited, FunctionDef.visited]
    simp only [Setting.inside_recoded, Setting.body_recoded, Setting.around_recoded]
    rw [inner, list, type]
    simp only [Outcome.rename, FunctionDef.rename]
    rfl

lemma functionsBlank_visited_recoded : ∀ {x : List FunctionDef}, functionsBlank x → ∀ (setting : Setting),
    functionsVisited (setting.recoded ξ) x = (functionsVisited setting x).rename ξ (functionsRename ξ)
  | [], _, setting => by
    rw [functionsVisited, functionsVisited]
    rfl
  | definition :: rest, blank, setting => by
    rw [functionsBlank] at blank
    have head := blank.1.visited_recoded setting
    have others := functionsBlank_visited_recoded blank.2
      (setting.after (definition.visited setting).inferred)
    rw [functionsVisited, functionsVisited, head]
    simp only [Outcome.rename, Setting.after_recoded, others, functionsRename, List.map_append]

lemma TypeDef.Blank.visited_recoded : ∀ {x : TypeDef}, x.Blank → ∀ (setting : Setting),
    x.visited (setting.recoded ξ) = (x.visited setting).rename ξ (TypeDef.rename ξ)
  | ⟨id, name, typeParameters, fields, methods, keyword, binding⟩, blank, setting => by
    rw [TypeDef.Blank] at blank
    let definition : TypeDef := ⟨id, name, typeParameters, fields, methods, keyword, binding⟩
    let inside := setting.inside definition.layer
    have first := declarationsVisited_recoded (ξ := ξ) blank.1 inside
    have second := functionsBlank_visited_recoded blank.2.1
      (inside.after (declarationsVisited inside fields).inferred)
    rw [TypeDef.visited, TypeDef.visited]
    simp only [Setting.inside_recoded]
    rw [first]
    simp only [Outcome.rename, Setting.after_recoded]
    rw [second]
    simp only [Outcome.rename, TypeDef.rename, List.map_append, Option.map_some]
    rfl

end

/-! ## Programs -/

/-- The account of a blank program is the same for all codes up to the names of types. -/
lemma Block.Blank.account_recoded {root : Block} (blank : root.Blank) (code : Shape → TypeId) :
    (root.account fun shape => ξ (code shape)).node = (root.account code).node.rename ξ ∧
      (root.account fun shape => ξ (code shape)).problems =
        (root.account code).problems.map (renameFinding ξ) := by
  have same : root.account (fun shape => ξ (code shape)) = _ :=
    blank.visited_recoded (ξ := ξ) (root.setting code)
  rw [same]
  exact ⟨rfl, rfl⟩

/-- There are no types in the problems of repeated names. -/
lemma Analysis.map_repeated (introductions : List Introduction) (known : Declared → String → Option Span) :
    (repeated known introductions).map (renameFinding ξ) = repeated known introductions := by
  induction introductions generalizing known with
  | nil => rfl
  | cons introduction rest ih =>
    rw [repeated, List.map_append, ih]
    congr 1
    cases known introduction.what introduction.key <;> rfl

/-- There are no types in the problem of a definition inside a function. -/
lemma Statement.map_forbidden (nested : Bool) (statement : Statement) :
    (statement.forbidden nested).map (renameFinding ξ) = statement.forbidden nested := by
  cases statement <;> cases nested <;> rfl

/-- There are no types in the problems of regions. -/
lemma Analysis.onRegions_map_problems : OnRegions fun region =>
    region.problems.map (renameFinding ξ) = region.problems where
  block := by
    rintro nested around ⟨id, kind, statements, span⟩
    rw [Region.problems, List.map_append, map_repeated]
    show _ ++ (statements.flatMap (Statement.forbidden nested)).map (renameFinding ξ) = _
    rw [List.map_flatMap]
    simp only [Statement.map_forbidden]
    rfl
  function := by
    intro around definition
    rw [Region.problems, List.map_append, map_repeated]
    rfl
  type := by
    intro around definition
    rw [Region.problems, List.map_append, map_repeated]
    rfl

/-- The problems of a blank program are the same for all codes up to the names of types. -/
lemma Block.Blank.problems_recoded {root : Block} (blank : root.Blank) (code : Shape → TypeId) :
    root.problems (fun shape => ξ (code shape)) = (root.problems code).map (renameFinding ξ) := by
  have regions : ((root.regions false .empty).flatMap Region.problems).map (renameFinding ξ) =
      (root.regions false .empty).flatMap Region.problems := by
    rw [List.map_flatMap]
    exact List.flatMap_congr fun region mem => root.forall_regions onRegions_map_problems false .empty region mem
  have sites : ∀ sites : List (NodeId × Site),
      (sites.flatMap fun site => site.2.unknown).map (renameFinding ξ) = sites.flatMap fun site => site.2.unknown := by
    intro sites
    rw [List.map_flatMap]
    exact List.flatMap_congr fun site _ => site.2.written.map_unknown
  rw [Block.problems, Block.problems, (blank.account_recoded code).2, List.map_append, List.map_append, regions,
    sites]

end ArrowScript
