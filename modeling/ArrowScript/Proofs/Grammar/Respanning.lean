import ArrowScript.Diagnostic
import ArrowScript.Syntax.Statement
import Mathlib.Tactic.Common

/-!
# Other spans

The spans in a tree can be changed, those of names in one way and all others in another. Nothing else is touched: the
shape of the tree, its handles and what was filled in stay as they are. A tree is put elsewhere by changing all of its
spans in the same way.
-/

namespace ArrowScript

section
variable (move onName onMark : Span → Span)

/-- A finding at another span. -/
def Finding.relocate {π : Type} (finding : Finding π) : Finding π :=
  { finding with span := move finding.span }

/-- A diagnostic at another span. -/
def Diagnostic.relocate (diagnostic : Diagnostic) : Diagnostic :=
  { diagnostic with span := move diagnostic.span }

/-- A name within a chain with other spans. -/
def Identifier.respan (identifier : Identifier) : Identifier :=
  { identifier with span := onName identifier.span }

mutual

/-- A written type with other spans. -/
def TypeRef.respan : TypeRef → TypeRef
  | ⟨name, builtin, arguments, array, binding⟩ => ⟨onName name, builtin, typesRespan arguments, array, binding⟩

/-- Some written types with other spans. -/
def typesRespan : List TypeRef → List TypeRef
  | [] => []
  | written :: rest => written.respan :: typesRespan rest

end

mutual

/-- An expression with other spans. -/
def Expr.respan : Expr → Expr
  | .binary operator operatorSpan left right type =>
    .binary operator (onMark operatorSpan) left.respan right.respan type
  | .unary operator operatorSpan operand type => .unary operator (onMark operatorSpan) operand.respan type
  | .chain path => .chain path.respan
  | .literal kind span type => .literal kind (onMark span) type
  | .new keyword path => .new (onMark keyword) path.respan
  | .newArray keyword element => .newArray (onMark keyword) element.respan
  | .nothing span => .nothing (onMark span)
  | .missing span => .missing (onMark span)

/-- A whole expression with other spans. -/
def Expression.respan : Expression → Expression
  | ⟨root, type⟩ => ⟨root.respan, type⟩

/-- A chain with other spans. -/
def Chain.respan : Chain → Chain
  | ⟨links, span, type⟩ => ⟨linksRespan links, onMark span, type⟩

/-- Some links with other spans. -/
def linksRespan : List Link → List Link
  | [] => []
  | link :: rest => link.respan :: linksRespan rest

/-- A link with other spans. -/
def Link.respan : Link → Link
  | .name identifier => .name (identifier.respan onName)
  | .index identifier index close => .index (identifier.respan onName) index.respan (onMark close)
  | .call identifier written arguments close =>
    .call (identifier.respan onName) (written.map (typesRespan onName)) (argumentsRespan arguments) (onMark close)

/-- Some arguments with other spans. -/
def argumentsRespan : List Expression → List Expression
  | [] => []
  | argument :: rest => argument.respan :: argumentsRespan rest

end

/-- A declaration with other spans. -/
def Declaration.respan (declaration : Declaration) : Declaration :=
  { declaration with
    name := onName declaration.name
    written := declaration.written.map (TypeRef.respan onName)
    initial := declaration.initial.map (Expression.respan onName onMark) }

/-- A parameter with other spans. -/
def Parameter.respan (parameter : Parameter) : Parameter :=
  { parameter with
    name := onName parameter.name
    written := parameter.written.respan onName }

mutual

/-- A block with other spans. -/
def Block.respan : Block → Block
  | ⟨id, kind, statements, span⟩ => ⟨id, kind, statementsRespan statements, onMark span⟩

/-- Some statements with other spans. -/
def statementsRespan : List Statement → List Statement
  | [] => []
  | statement :: rest => statement.respan :: statementsRespan rest

/-- A statement with other spans. -/
def Statement.respan : Statement → Statement
  | .type definition => .type definition.respan
  | .function definition => .function definition.respan
  | .variable declaration => .variable (declaration.respan onName onMark)
  | .returning keyword value => .returning (onMark keyword) (value.map (Expression.respan onName onMark))
  | .breaking keyword => .breaking (onMark keyword)
  | .continuing keyword => .continuing (onMark keyword)
  | .whileLoop keyword condition body => .whileLoop (onMark keyword) (condition.respan onName onMark) body.respan
  | .conditional conditional => .conditional conditional.respan
  | .importing keyword target => .importing (onMark keyword) (target.respan onName onMark)
  | .path keyword target => .path (onMark keyword) (target.respan onName onMark)
  | .expression expression => .expression (expression.respan onName onMark)

/-- A conditional with other spans. -/
def Conditional.respan : Conditional → Conditional
  | ⟨condition, body, otherwise, keyword⟩ =>
    ⟨condition.respan onName onMark, body.respan, otherwise.respan, onMark keyword⟩

/-- What is done when a condition fails, with other spans. -/
def Otherwise.respan : Otherwise → Otherwise
  | .nothing => .nothing
  | .conditional conditional => .conditional conditional.respan
  | .block block => .block block.respan

/-- A function with other spans. -/
def FunctionDef.respan : FunctionDef → FunctionDef
  | ⟨id, name, typeParameters, parameters, returns, body, keyword⟩ =>
    ⟨id, onName name, typeParameters.map (List.map onName), parameters.map (Parameter.respan onName),
      returns.map (TypeRef.respan onName), body.respan, onMark keyword⟩

/-- Some functions with other spans. -/
def functionsRespan : List FunctionDef → List FunctionDef
  | [] => []
  | definition :: rest => definition.respan :: functionsRespan rest

/-- A type with other spans. -/
def TypeDef.respan : TypeDef → TypeDef
  | ⟨id, name, typeParameters, fields, methods, keyword, binding⟩ =>
    ⟨id, onName name, typeParameters.map (List.map onName), fields.map (Declaration.respan onName onMark),
      functionsRespan methods, onMark keyword, binding⟩

end

/-- A program with other spans. -/
def Program.respan (program : Program) : Program :=
  { program with root := program.root.respan onName onMark }

/-- A program, put elsewhere in its file. -/
def Program.relocate (program : Program) : Program :=
  program.respan move move

end

variable {onName onMark : Span → Span}

/-- Written types get other spans one by one. -/
lemma typesRespan_eq_map (list : List TypeRef) : typesRespan onName list = list.map (TypeRef.respan onName) := by
  induction list with
  | nil => rfl
  | cons written rest ih => rw [typesRespan, ih, List.map_cons]

/-- Links get other spans one by one. -/
lemma linksRespan_eq_map (links : List Link) :
    linksRespan onName onMark links = links.map (Link.respan onName onMark) := by
  induction links with
  | nil => rfl
  | cons link rest ih => rw [linksRespan, ih, List.map_cons]

/-- The span of an expression is no name. -/
lemma Expr.span_respan : ∀ x : Expr, (x.respan onName onMark).span = onMark x.span
  | .binary _ _ left _ _ => by rw [Expr.respan, Expr.span, Expr.span, left.span_respan]
  | .unary .. | .literal .. | .new .. | .newArray .. | .nothing _ | .missing _ => rfl
  | .chain ⟨links, span, type⟩ => by rw [Expr.respan, Expr.span, Expr.span, Chain.respan]

/-- The span of a whole expression is no name. -/
@[simp] lemma Expression.span_respan (x : Expression) : (x.respan onName onMark).root.span = onMark x.root.span := by
  obtain ⟨root, type⟩ := x
  rw [Expression.respan]
  exact root.span_respan

namespace TypeRef

variable (written : TypeRef)

/-- A written type has the name with another span. -/
@[simp] lemma name_respan : (written.respan onName).name = onName written.name := by
  cases written
  rfl

/-- Built-in types stay built-in. -/
@[simp] lemma builtin_respan : (written.respan onName).builtin = written.builtin := by
  cases written
  rfl

/-- The brackets of a written type stay. -/
@[simp] lemma array_respan : (written.respan onName).array = written.array := by
  cases written
  rfl

/-- A written type has as many arguments as before. -/
@[simp] lemma length_arguments_respan : (written.respan onName).arguments.length = written.arguments.length := by
  obtain ⟨name, builtin, arguments, array, binding⟩ := written
  rw [respan, typesRespan_eq_map, List.length_map]

/-- What a written type is found to stand for has no span. -/
lemma respan_binding (binding : Option TypeId) :
    respan onName { written with binding := binding } = { written.respan onName with binding := binding } := by
  cases written
  rfl

end TypeRef

/-- There are as many type parameters as before. -/
@[simp] lemma typeArity_respan (names : Option (List Span)) :
    typeArity (names.map (List.map onName)) = typeArity names := by
  cases names with
  | none => rfl
  | some names => exact List.length_map _

/-- The keyword of a function is no name. -/
lemma FunctionDef.keyword_respan (definition : FunctionDef) :
    (definition.respan onName onMark).keyword = onMark definition.keyword := by
  obtain ⟨id, name, typeParameters, parameters, returns, body, keyword⟩ := definition
  rfl

/-- The keyword of a type is no name. -/
lemma TypeDef.keyword_respan (definition : TypeDef) :
    (definition.respan onName onMark).keyword = onMark definition.keyword := by
  obtain ⟨id, name, typeParameters, fields, methods, keyword, binding⟩ := definition
  rfl

/-! ## Links and chains -/

lemma Link.isName_respan (link : Link) : (link.respan onName onMark).isName = link.isName := by
  cases link <;> rfl

lemma Link.isCall_respan (link : Link) : (link.respan onName onMark).isCall = link.isCall := by
  cases link <;> rfl

namespace Chain

variable (chain : Chain)

lemma links_respan : (chain.respan onName onMark).links = chain.links.map (Link.respan onName onMark) := by
  obtain ⟨links, span, type⟩ := chain
  rw [respan, linksRespan_eq_map]

lemma span_respan : (chain.respan onName onMark).span = onMark chain.span := by
  obtain ⟨links, span, type⟩ := chain
  rw [respan]

lemma isSingleName_respan : (chain.respan onName onMark).isSingleName = chain.isSingleName := by
  obtain ⟨links, span, type⟩ := chain
  rw [respan, linksRespan_eq_map]
  rcases links with _ | ⟨_ | _ | _, _ | _⟩ <;> rfl

lemma endsInCall_respan : (chain.respan onName onMark).endsInCall = chain.endsInCall := by
  rw [endsInCall, links_respan, List.getLast?_map, Option.any_map]
  exact congrArg (Option.any · _) (funext Link.isCall_respan)

lemma startsWithBrackets_respan : (chain.respan onName onMark).startsWithBrackets = chain.startsWithBrackets := by
  rw [startsWithBrackets, links_respan, List.head?_map, Option.any_map]
  exact congrArg (Option.any · _) (funext fun link => congrArg (!·) link.isName_respan)

lemma isPlain_respan : (chain.respan onName onMark).isPlain = chain.isPlain := by
  rw [isPlain, links_respan, List.all_map]
  exact congrArg (List.all _) (funext Link.isName_respan)

end Chain

end ArrowScript
