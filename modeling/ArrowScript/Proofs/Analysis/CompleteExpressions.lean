import ArrowScript.Proofs.Analysis.HindsightExpressions
import ArrowScript.Proofs.Grammar.ProperTrees

/-!
# Complete expressions

A tree is complete when every name that stands for something is bound and every type in it is known. The analysis
stops a chain at a link of which no type is known, and an unbound link is not the only one of that kind: a variable
without a written type has none before its declaration is visited, and using it there is not reported
(`Encounter.premature`). It is the only way: a proper expression without problems is complete exactly if no
variable is used before its type is known (`Expr.Proper.complete_iff`).
-/

namespace ArrowScript
open Analysis

/-! ## Complete trees -/

mutual

/-- Whether all names in an expression are bound and all types in it are known. -/
def Expr.complete : Expr → Bool
  | .binary _ _ left right type => left.complete && right.complete && type.isSome
  | .unary _ _ operand type => operand.complete && type.isSome
  | .chain path | .new _ path => path.complete
  | .newArray _ element => element.complete
  | .literal _ _ type => type.isSome
  | .nothing _ | .missing _ => true

/-- Whether a whole expression is complete and its type is known. -/
def Expression.complete : Expression → Bool
  | ⟨root, type⟩ => root.complete && type.isSome

/-- Whether the links of a chain are complete and its type is known. -/
def Chain.complete : Chain → Bool
  | ⟨links, _, type⟩ => linksComplete links && type.isSome

/-- Whether all of some links are complete. -/
def linksComplete : List Link → Bool
  | [] => true
  | link :: rest => link.complete && linksComplete rest

/-- Whether a link is bound, and its type arguments and what stands in its brackets are complete. -/
def Link.complete : Link → Bool
  | .name identifier => identifier.binding.isSome
  | .index identifier index _ => identifier.binding.isSome && index.complete
  | .call identifier written arguments _ =>
    identifier.binding.isSome && (typesUnresolved (written.getD [])).isEmpty && argumentsComplete arguments

/-- Whether all of some arguments are complete. -/
def argumentsComplete : List Expression → Bool
  | [] => true
  | argument :: rest => argument.complete && argumentsComplete rest

end

/-- Whether all names in a written type are bound. -/
def TypeRef.complete (written : TypeRef) : Bool :=
  written.unresolved.isEmpty

/-- Whether a declaration and its type are complete. -/
def Declaration.complete (declaration : Declaration) : Bool :=
  declaration.written.all TypeRef.complete && declaration.initial.all Expression.complete && declaration.type.isSome

mutual

/-- Whether a block is complete. -/
def Block.complete : Block → Bool
  | ⟨_, _, statements, _⟩ => statementsComplete statements

/-- Whether all of some statements are complete. -/
def statementsComplete : List Statement → Bool
  | [] => true
  | statement :: rest => statement.complete && statementsComplete rest

/-- Whether a statement is complete. The names in imports and paths stand for nothing in the program. -/
def Statement.complete : Statement → Bool
  | .type definition => definition.complete
  | .function definition => definition.complete
  | .variable declaration => declaration.complete
  | .returning _ value => value.all Expression.complete
  | .whileLoop _ condition body => condition.complete && body.complete
  | .conditional conditional => conditional.complete
  | .expression expression => expression.complete
  | .breaking _ | .continuing _ | .importing .. | .path .. => true

/-- Whether a conditional is complete. -/
def Conditional.complete : Conditional → Bool
  | ⟨condition, body, otherwise, _⟩ => condition.complete && body.complete && otherwise.complete

/-- Whether what is done when a condition fails is complete. -/
def Otherwise.complete : Otherwise → Bool
  | .nothing => true
  | .conditional conditional => conditional.complete
  | .block block => block.complete

/-- Whether a function and the types that it is written with are complete. -/
def FunctionDef.complete : FunctionDef → Bool
  | ⟨_, _, _, parameters, returns, body, _⟩ =>
    (parameters.all fun parameter => parameter.written.complete) && returns.all TypeRef.complete && body.complete

/-- Whether all of some functions are complete. -/
def functionsComplete : List FunctionDef → Bool
  | [] => true
  | definition :: rest => definition.complete && functionsComplete rest

/-- Whether a type is complete and bound to what it defines. -/
def TypeDef.complete : TypeDef → Bool
  | ⟨_, _, _, fields, methods, _, binding⟩ =>
    fields.all Declaration.complete && functionsComplete methods && binding.isSome

end

namespace Analysis

/-! ## Premature uses -/

/-- Whether a link is bound to a variable without a written type that has not got its type yet. -/
def Encounter.premature : Encounter → Bool
  | link view _ sought =>
    match sought.identifier.binding with
    | some (.variable node) =>
      (view.ascriptions.lookup node).any Option.isNone && (view.state.inferredTypes.lookup node).isNone
    | _ => false
  | chain .. | new .. | made .. => false

/-- No variable is used before its type is known. -/
def Timely (encounters : List Encounter) : Prop :=
  ∀ encounter ∈ encounters, encounter.premature = false

/-- The written types in the ascriptions are bound. -/
def Hindsight.Written (view : Hindsight) : Prop :=
  ∀ node type, view.ascriptions.lookup node = some (some type) → type.binding.isSome

end Analysis

variable {origins : List Origin} {table : ScopeTable} {setting : Setting} {outer : Option ScopeId}
  {view : Hindsight} {tokens : List Token}

namespace Analysis

@[simp]
lemma timely_nil : Timely [] :=
  nofun

@[simp]
lemma timely_cons {encounter : Encounter} {encounters : List Encounter} :
    Timely (encounter :: encounters) ↔ encounter.premature = false ∧ Timely encounters :=
  List.forall_mem_cons

@[simp]
lemma timely_append {encounters more : List Encounter} :
    Timely (encounters ++ more) ↔ Timely encounters ∧ Timely more :=
  List.forall_mem_append

/-! ## Names -/

/-- A type is known if the shape is known that it stands for. -/
lemma Typed.isSome_iff {registry : TypeRegistry} {type : Option TypeId} {shape : Option Shape}
    (typed : Typed origins registry type shape) : type.isSome ↔ shape.isSome := by
  cases typed with
  | none => exact Iff.rfl
  | some => exact iff_of_true rfl rfl

namespace Hindsight.Shows

variable (shows : view.Shows origins table setting outer) (written : view.Written) {owner : Option Shape}
  {identifier : Identifier} (link : Link)

include shows written

/-- A variable without problems is bound, and it has a type unless it is used before this is known. -/
lemma variable_known (fine : (setting.judgeVariable owner identifier).problems = [])
    (named : link.identifier = (setting.judgeVariable owner identifier).node) (before : Option TypeId) :
    link.identifier.binding.isSome ∧
      ((link.boundType view).isSome ↔ (setting.judgeVariable owner identifier).shape.isSome) ∧
      ((Encounter.link view before link).premature = false ↔
        (setting.judgeVariable owner identifier).shape.isSome) := by
  unfold Setting.judgeVariable at fine named ⊢
  split at fine
  · next entry found =>
    simp only [found] at named ⊢
    have typed := shows.typeOf_variable found
    have binding : link.identifier.binding = some (.variable entry.node) := by rw [named]
    have type : link.boundType view = view.typeOf (.variable entry.node) := by
      rw [Link.boundType, binding, Option.bind_some]
    refine ⟨by rw [binding]; rfl, type ▸ typed.isSome_iff, ?_⟩
    obtain ⟨layer, seen, there⟩ := Option.bind_eq_some_iff.mp found
    obtain ⟨ascribed, listed, -⟩ := shows.noted seen _ entry (.inl there)
    rw [← typed.isSome_iff, Encounter.premature, binding, Hindsight.typeOf]
    simp only [listed]
    cases ascribed with
    | none =>
      simp only [Option.any_some, Option.isNone_none, Bool.true_and, Option.isNone_eq_false_iff]
      exact Iff.rfl
    | some type => exact iff_of_true rfl (written _ _ listed)
  · cases fine

/-- A called function without problems is bound and has a type. -/
lemma function_known {arity : Nat} {arguments : List (Option Shape × Span)}
    (fine : (setting.judgeFunction owner arity arguments identifier).problems = [])
    (named : link.identifier = (setting.judgeFunction owner arity arguments identifier).node)
    (before : Option TypeId) :
    link.identifier.binding.isSome ∧ (link.boundType view).isSome ∧
      (setting.judgeFunction owner arity arguments identifier).shape.isSome ∧
      (Encounter.link view before link).premature = false := by
  unfold Setting.judgeFunction at fine named ⊢
  split at fine
  · next entry found =>
    simp only [found] at named ⊢
    have typed := shows.typeOf_function found
    have binding : link.identifier.binding = some (.function entry.node) := by rw [named]
    have type : link.boundType view = view.typeOf (.function entry.node) := by
      rw [Link.boundType, binding, Option.bind_some]
    obtain ⟨layer, seen, there⟩ := Option.bind_eq_some_iff.mp found
    obtain ⟨ascribed, listed, -⟩ := shows.noted seen _ entry (.inr there)
    have known : (view.typeOf (.function entry.node)).isSome := by
      rw [Hindsight.typeOf, listed]
      cases ascribed with
      | none => rfl
      | some type => exact written _ _ listed
    refine ⟨by rw [binding]; rfl, type ▸ known, typed.isSome_iff.mp known, ?_⟩
    rw [Encounter.premature, binding]
  · cases fine

end Hindsight.Shows

/-- The name of a new value without problems is bound and has a type. -/
lemma constructed_known (view : Hindsight) {identifier : Identifier} (link : Link) {arity : Nat}
    (fine : (setting.judgeConstructed arity identifier).problems = [])
    (named : link.identifier = (setting.judgeConstructed arity identifier).node) :
    link.identifier.binding.isSome ∧ (link.boundType view).isSome ∧
      (setting.judgeConstructed arity identifier).shape.isSome := by
  unfold Setting.judgeConstructed at fine named ⊢
  split at fine
  · next origin found =>
    simp only [found] at named ⊢
    have binding : link.identifier.binding = some (.type (setting.code ⟨origin, 0⟩)) := by rw [named]
    refine ⟨by rw [binding]; rfl, ?_, rfl⟩
    rw [Link.boundType, binding]
    rfl
  · cases fine

/-- Type arguments without problems are bound. -/
lemma judgeTypeArguments_resolved {written : Option (List TypeRef)}
    (fine : (setting.judgeTypeArguments written).problems = []) :
    typesUnresolved ((setting.judgeTypeArguments written).node.getD []) = [] := by
  cases written with
  | none => rfl
  | some list =>
    replace fine : unknownNames setting.around list = [] := fine
    show typesUnresolved (list.map (TypeRef.bound setting.code setting.around)) = []
    rw [← typesFilled_eq_map, typesUnresolved_filled .initial, fine]
    rfl

end Analysis

/-! ## Expressions -/

/-- A complete expression has a shape. -/
lemma Expr.Proper.known {x : Expr} (proper : x.Proper tokens) (complete : (x.judged setting).node.complete) :
    (x.judged setting).shape.isSome := by
  cases x with
  | binary | unary =>
    rw [Expr.judged] at complete ⊢
    rw [Expr.complete, Bool.and_eq_true, Option.isSome_map] at complete
    exact complete.2
  | chain path =>
    obtain ⟨links, span, type⟩ := path
    rw [Expr.judged, Chain.judged] at complete ⊢
    rw [Expr.complete, Chain.complete, Bool.and_eq_true, Option.isSome_map] at complete
    exact complete.2
  | new keyword path =>
    obtain ⟨links, span, type⟩ := path
    cases links with
    | nil =>
      rw [Expr.Proper, Chain.Proper] at proper
      exact absurd rfl proper.2.1
    | cons first rest =>
      rw [Expr.judged, Chain.judgedNew] at complete ⊢
      simp only at complete ⊢
      split at complete
      all_goals
        rw [Expr.complete, Chain.complete, Bool.and_eq_true] at complete
        obtain ⟨-, known⟩ := complete
      · cases known
      · rwa [Option.isSome_map] at known
  | newArray keyword element =>
    obtain ⟨root, type⟩ := element
    rw [Expr.judged, Expression.judged] at complete ⊢
    rw [Expr.complete, Expression.complete, Bool.and_eq_true, Option.isSome_map] at complete
    rw [Option.isSome_map]
    exact complete.2
  | literal | nothing =>
    rw [Expr.judged]
    rfl
  | missing => cases proper

/-- A complete whole expression has a type. -/
lemma Expression.isSome_type {x : Expression} (complete : x.complete) : x.type.isSome := by
  obtain ⟨root, type⟩ := x
  rw [Expression.complete, Bool.and_eq_true] at complete
  exact complete.2

/-- An operation is complete exactly if its operands are, as it has a type then. -/
lemma complete_binary {operator : BinaryOperator} {span : Span} {left right : Expr} {type : Option TypeId}
    (first : left.Proper tokens) (second : right.Proper tokens)
    (fine : ((Expr.binary operator span left right type).judged setting).problems = [])
    (left_iff : (left.judged setting).problems = [] →
      ((left.judged setting).node.complete ↔ Timely ((left.judged setting).node.encounters view)))
    (right_iff : (right.judged setting).problems = [] →
      ((right.judged setting).node.complete ↔ Timely ((right.judged setting).node.encounters view))) :
    ((Expr.binary operator span left right type).judged setting).node.complete ↔
      Timely (((Expr.binary operator span left right type).judged setting).node.encounters view) := by
  rw [Expr.judged] at fine ⊢
  simp only [List.append_eq_nil_iff] at fine
  obtain ⟨⟨⟨fine, -⟩, fine'⟩, -⟩ := fine
  rw [Expr.encounters, Expr.complete, timely_append, ← left_iff fine, ← right_iff fine', Bool.and_eq_true,
    Bool.and_eq_true, Option.isSome_map]
  refine and_iff_left_of_imp fun ⟨complete, complete'⟩ => ?_
  obtain ⟨form, known⟩ := Option.isSome_iff_exists.mp (first.known complete)
  obtain ⟨form', known'⟩ := Option.isSome_iff_exists.mp (second.known complete')
  rw [known, known', operationShape]
  split <;> rfl

mutual

/-- An expression without problems is complete exactly if no variable in it is used before its type is known. -/
lemma Expr.Proper.complete_iff (shows : view.Shows origins table setting outer) (written : view.Written) :
    ∀ {x : Expr}, x.Proper tokens → (x.judged setting).problems = [] →
    ((x.judged setting).node.complete ↔ Timely ((x.judged setting).node.encounters view))
  | .binary operator span left right type, proper, fine => by
    rw [Expr.Proper] at proper
    obtain ⟨-, first, second⟩ := proper
    exact complete_binary first second fine (first.complete_iff shows written) (second.complete_iff shows written)
  | .unary operator span operand type, proper, fine => by
    rw [Expr.Proper] at proper
    rw [Expr.judged] at fine ⊢
    rw [Expr.encounters, Expr.complete, Bool.and_eq_true, Option.isSome_map,
      ← proper.complete_iff shows written fine]
    exact and_iff_left_of_imp proper.known
  | .chain path, proper, fine => by
    rw [Expr.Proper] at proper
    rw [Expr.judged] at fine ⊢
    rw [Expr.encounters, Expr.complete]
    exact proper.complete_iff shows written fine
  | .new keyword path, proper, fine => by
    rw [Expr.Proper] at proper
    rw [Expr.judged] at fine ⊢
    rw [Expr.encounters, Expr.complete]
    exact proper.2.complete_iff_new shows written proper.1 fine
  | .newArray keyword element, proper, fine => by
    rw [Expr.Proper] at proper
    rw [Expr.judged] at fine ⊢
    rw [Expr.encounters, Expr.complete]
    exact proper.complete_iff shows written fine
  | .literal .., _, _ | .nothing _, _, _ => by
    rw [Expr.judged, Expr.encounters, Expr.complete]
    exact iff_of_true rfl timely_nil

lemma Expression.Proper.complete_iff (shows : view.Shows origins table setting outer) (written : view.Written) :
    ∀ {x : Expression}, x.Proper tokens → (x.judged setting).problems = [] →
    ((x.judged setting).node.complete ↔ Timely ((x.judged setting).node.encounters view))
  | ⟨root, type⟩, proper, fine => by
    rw [Expression.Proper] at proper
    rw [Expression.judged] at fine ⊢
    rw [Expression.encounters, Expression.complete, Bool.and_eq_true, Option.isSome_map,
      ← proper.complete_iff shows written fine]
    exact and_iff_left_of_imp proper.known

lemma Chain.Proper.complete_iff (shows : view.Shows origins table setting outer) (written : view.Written) :
    ∀ {x : Chain}, x.Proper tokens → (x.judged setting).problems = [] →
    ((x.judged setting).node.complete ↔ Timely ((x.judged setting).node.encounters view))
  | ⟨links, span, type⟩, proper, fine => by
    rw [Chain.Proper] at proper
    rw [Chain.judged] at fine ⊢
    rw [Chain.encounters, Chain.complete, Bool.and_eq_true, Option.isSome_map, timely_cons,
      linksProper_complete_iff shows written none proper.2 (.inl proper.1) fine]
    exact (and_iff_right rfl).symm

lemma Chain.Proper.complete_iff_new (shows : view.Shows origins table setting outer) (written : view.Written) :
    ∀ {x : Chain}, x.Proper tokens → x.startsWithBrackets → (x.judgedNew setting).problems = [] →
    ((x.judgedNew setting).node.complete ↔ Timely ((x.judgedNew setting).node.newEncounters view))
  | ⟨[], span, type⟩, _, starts, _ => nomatch starts
  | ⟨first :: rest, span, type⟩, proper, starts, fine => by
    rw [Chain.Proper, linksProper] at proper
    rw [Chain.judgedNew] at fine ⊢
    simp only at fine ⊢
    split at fine
    · next unknown =>
      obtain ⟨-, -, known⟩ := proper.2.1.made_complete_iff shows written starts fine
      rw [unknown] at known
      cases known
    · next form known =>
      obtain ⟨fine, others⟩ := List.append_eq_nil_iff.mp fine
      obtain ⟨complete, made, -⟩ := proper.2.1.made_complete_iff shows written starts fine
      obtain ⟨found, made⟩ := Option.isSome_iff_exists.mp made
      simp only
      rw [Chain.newEncounters, made, Chain.complete, linksComplete, Bool.and_eq_true, Bool.and_eq_true,
        Option.isSome_map, and_assoc, linksProper_complete_iff shows written (some found) proper.2.2 (.inr rfl) others,
        complete, List.cons_append, timely_cons, timely_append, timely_cons]
      exact ⟨fun ⟨inner, after⟩ => ⟨rfl, inner, rfl, after⟩, fun ⟨_, inner, _, after⟩ => ⟨inner, after⟩⟩

lemma linksProper_complete_iff (shows : view.Shows origins table setting outer) (written : view.Written) :
    ∀ {x : List Link} (owner : Option TypeId) {shape : Option Shape}, linksProper tokens x →
    x ≠ [] ∨ shape.isSome → (linksJudged setting shape x).problems = [] →
    (linksComplete (linksJudged setting shape x).node ∧ (linksJudged setting shape x).shape.isSome ↔
      Timely (linksEncounters view owner (linksJudged setting shape x).node))
  | [], owner, shape, _, starts, _ => by
    rw [linksJudged, linksEncounters, linksComplete]
    exact iff_of_true ⟨rfl, starts.resolve_left (not_not.mpr rfl)⟩ timely_nil
  | link :: rest, owner, shape, proper, _, fine => by
    rw [linksProper] at proper
    rw [linksJudged] at fine ⊢
    simp only at fine ⊢
    split at fine
    · next unknown =>
      -- Without problems the link is bound, so it is used before its type is known.
      obtain ⟨complete, -⟩ := proper.1.complete_iff shows written owner fine
      rw [unknown] at complete
      simp only
      rw [linksEncounters, timely_append, timely_cons]
      exact iff_of_false (fun known => nomatch known.2) fun ⟨inner, own, _⟩ => nomatch (complete.mpr ⟨inner, own⟩).2
    · next form known =>
      obtain ⟨fine, others⟩ := List.append_eq_nil_iff.mp fine
      obtain ⟨complete, typed⟩ := proper.1.complete_iff shows written owner fine
      rw [known] at complete typed
      obtain ⟨type, found⟩ := Option.isSome_iff_exists.mp (typed.mpr rfl)
      simp only
      rw [linksEncounters, found, linksComplete, Bool.and_eq_true, and_assoc,
        linksProper_complete_iff shows written (some type) proper.2 (.inr rfl) others, timely_append, timely_cons,
        ← and_assoc, ← complete]
      exact and_congr_left fun _ => (and_iff_left rfl).symm

lemma Link.Proper.complete_iff (shows : view.Shows origins table setting outer) (written : view.Written) :
    ∀ {x : Link} (owner : Option TypeId) {shape : Option Shape}, x.Proper tokens →
    (x.judged setting shape).problems = [] →
    ((x.judged setting shape).node.complete ∧ (x.judged setting shape).shape.isSome ↔
        Timely ((x.judged setting shape).node.innerEncounters view) ∧
          (Encounter.link view owner (x.judged setting shape).node).premature = false) ∧
      (((x.judged setting shape).node.typeIn view).isSome ↔ (x.judged setting shape).shape.isSome)
  | .name identifier, owner, shape, _, fine => by
    rw [Link.judged] at fine ⊢
    simp only at fine ⊢
    obtain ⟨bound, typed, timely⟩ := shows.variable_known written (.name _) fine rfl owner
    rw [Link.complete, Link.innerEncounters, Link.typeIn, timely]
    exact ⟨and_congr_left fun _ => iff_of_true bound timely_nil, typed⟩
  | .index identifier index close, owner, shape, proper, fine => by
    rw [Link.Proper] at proper
    rw [Link.judged] at fine ⊢
    simp only [List.append_eq_nil_iff] at fine ⊢
    obtain ⟨⟨inner, -⟩, fine⟩ := fine
    obtain ⟨bound, typed, timely⟩ := shows.variable_known written (.index _ _ _) fine rfl owner
    rw [Link.complete, Link.innerEncounters, Link.typeIn, timely, Option.isSome_map, Option.isSome_map,
      Bool.and_eq_true, proper.2.complete_iff shows written inner]
    exact ⟨and_congr_left fun _ => and_iff_right bound, typed⟩
  | .call identifier types arguments close, owner, shape, proper, fine => by
    rw [Link.Proper] at proper
    rw [Link.judged] at fine ⊢
    simp only [List.append_eq_nil_iff] at fine ⊢
    obtain ⟨⟨inner, types⟩, fine⟩ := fine
    obtain ⟨bound, typed, known, timely⟩ := shows.function_known written (.call _ _ _ _) fine rfl owner
    rw [Link.complete, Link.innerEncounters, Link.typeIn, judgeTypeArguments_resolved types, Bool.and_eq_true,
      Bool.and_eq_true, argumentsProper_complete_iff shows written proper.2.2 inner]
    exact ⟨and_congr (and_iff_right ⟨bound, rfl⟩) (iff_of_true known timely), iff_of_true typed known⟩

lemma Link.Proper.made_complete_iff (shows : view.Shows origins table setting outer) (written : view.Written) :
    ∀ {x : Link}, x.Proper tokens → !x.isName → (x.judgedMade setting).problems = [] →
    ((x.judgedMade setting).node.complete ↔ Timely ((x.judgedMade setting).node.innerEncounters view)) ∧
      ((x.judgedMade setting).node.madeIn view).isSome ∧ (x.judgedMade setting).shape.isSome
  | .name _, _, bracketed, _ => nomatch bracketed
  | .index identifier index close, proper, _, fine => by
    rw [Link.Proper] at proper
    rw [Link.judgedMade] at fine ⊢
    simp only [List.append_eq_nil_iff] at fine ⊢
    obtain ⟨⟨inner, -⟩, fine⟩ := fine
    obtain ⟨bound, typed, known⟩ := constructed_known view (.index _ _ _) fine rfl
    rw [Link.complete, Link.innerEncounters, Link.madeIn, Option.isSome_map, Option.isSome_map, Bool.and_eq_true,
      proper.2.complete_iff shows written inner]
    exact ⟨and_iff_right bound, typed, known⟩
  | .call identifier types arguments close, proper, _, fine => by
    rw [Link.Proper] at proper
    rw [Link.judgedMade] at fine ⊢
    simp only [List.append_eq_nil_iff] at fine ⊢
    obtain ⟨⟨inner, types⟩, fine⟩ := fine
    obtain ⟨bound, typed, known⟩ := constructed_known view (.call _ _ _ _) fine rfl
    rw [Link.complete, Link.innerEncounters, Link.madeIn, judgeTypeArguments_resolved types, Bool.and_eq_true,
      Bool.and_eq_true, argumentsProper_complete_iff shows written proper.2.2 inner]
    exact ⟨and_iff_right ⟨bound, rfl⟩, typed, known⟩

lemma argumentsProper_complete_iff (shows : view.Shows origins table setting outer) (written : view.Written) :
    ∀ {x : List Expression}, argumentsProper tokens x → (argumentsJudged setting x).problems = [] →
    (argumentsComplete (argumentsJudged setting x).node ↔
      Timely (argumentsEncounters view (argumentsJudged setting x).node))
  | [], _, _ => by
    rw [argumentsJudged, argumentsEncounters, argumentsComplete]
    exact iff_of_true rfl timely_nil
  | argument :: rest, proper, fine => by
    rw [argumentsProper] at proper
    rw [argumentsJudged] at fine ⊢
    obtain ⟨fine, others⟩ := List.append_eq_nil_iff.mp fine
    rw [argumentsEncounters, argumentsComplete, Bool.and_eq_true, timely_append,
      proper.1.complete_iff shows written fine, argumentsProper_complete_iff shows written proper.2 others]

end

/-- An expression that is a statement is complete exactly if no variable in it is used before its type is known. -/
lemma Expression.ProperStatement.complete_iff (shows : view.Shows origins table setting outer)
    (written : view.Written) {x : Expression} (proper : x.ProperStatement tokens)
    (fine : (x.judged setting).problems = []) :
    (x.judged setting).node.complete ↔ Timely ((x.judged setting).node.encounters view) := by
  unfold Expression.ProperStatement at proper
  split at proper
  · next span target value inner type =>
    have target : (Expr.chain target).Proper tokens := by
      rw [Expr.Proper]
      exact proper.1
    rw [Expression.judged] at fine ⊢
    simp only at fine
    rw [Expression.encounters, ← complete_binary target proper.2 fine (target.complete_iff shows written)
      (proper.2.complete_iff shows written), Expression.complete, Bool.and_eq_true, Expr.judged, Expr.complete,
      Bool.and_eq_true]
    exact and_iff_left_of_imp And.right
  · next path type =>
    have path : Expression.Proper tokens ⟨.chain path, type⟩ := by
      rw [Expression.Proper, Expr.Proper]
      exact proper.1
    exact path.complete_iff shows written fine
  · exact proper.elim

end ArrowScript
