import ArrowScript.Proofs.Analysis.Regions

/-!
# A declarative account of visiting

What visiting a program gives can be said without handles, tables and caches. A `Setting` is what can be seen
from a place in the program: the layers of declarations around it, and the facts about the declarations of
the whole program. In a setting every expression is judged: it has a shape, it is filled in, and some problems
are found in it. Statements add the variables whose types they make known. Types that cannot be found for
written types are no problems of the places that ask for them; they are listed once, with the declaration.
`code` stands for the numbering of types, which is all that remains open.
-/

namespace ArrowScript.Analysis

/-! ## Settings -/

/-- What is known about the declarations of a whole program. -/
@[ext]
structure Facts where
  /-- The types that declarations are written with. -/
  declared : NodeId → Option Shape
  /-- The unknown names in the written types of declarations. -/
  unknown : NodeId → List (Finding SemanticProblem)
  /-- The members of types. -/
  members : NodeId → Option Layer
  /-- The parameters of functions. -/
  parameters : NodeId → List NodeId

/-- What can be seen from a place. -/
structure Setting where
  code : Shape → TypeId
  facts : Facts
  around : Layer
  /-- The types of the variables visited so far that have no written type. -/
  known : NodeId → Option Shape
  /-- The type to be returned. -/
  returned : Option Shape
  /-- Whether the place is inside a function. -/
  nested : Bool

/-- A part of a program with types and names filled in, what it stands for, and the problems in it. -/
structure Judged (ν σ : Type) where
  node : ν
  shape : σ
  problems : List (Finding SemanticProblem)

/-- A part of a program with types and names filled in, the problems in it, and the variables whose types it
makes known, the last first. -/
structure Outcome (ν : Type) where
  node : ν
  problems : List (Finding SemanticProblem)
  inferred : List (NodeId × Shape)

namespace Setting

/-- The same in a layer. -/
def inside (setting : Setting) (layer : Layer) : Setting :=
  { setting with around := layer.shadowing setting.around }

/-- The same when the types of further variables are known. -/
def after (setting : Setting) (inferred : List (NodeId × Shape)) : Setting :=
  { setting with known := fun node => (inferred.lookup node).or (setting.known node) }

/-- The same in the body of a function. -/
def body (setting : Setting) (returned : Option Shape) : Setting :=
  { setting with returned, nested := true }

/-- The members that can follow a name: those of its type, or everything around the start of a chain. -/
def seen (setting : Setting) : Option Shape → Option Layer
  | none => some setting.around
  | some owner => owner.userNode?.bind setting.facts.members

/-- The type of a variable. -/
def typeOfVariable (setting : Setting) (entry : Entry) : Option Shape :=
  if entry.typed then setting.facts.declared entry.node else setting.known entry.node

/-- The type that a function returns. -/
def typeOfCall (setting : Setting) (entry : Entry) : Option Shape :=
  if entry.typed then setting.facts.declared entry.node else some (.builtin .nothing)

/-- The declared type that a name behind `new` stands for. -/
def constructed? (setting : Setting) (name : String) (arity : Nat) : Option Origin :=
  (if arity = 0 then (TypeRegistry.builtin? name).map Origin.builtin else none).or
    (setting.around.originOf (mangle name arity))

end Setting

end ArrowScript.Analysis

namespace ArrowScript
open Analysis

/-! ## Written types -/

mutual

/-- The names in a written type that are not known. -/
def TypeRef.unknown (layer : Layer) : TypeRef → List (Finding SemanticProblem)
  | ⟨name, builtin, arguments, array, binding⟩ =>
    (if (layer.shape? ⟨name, builtin, arguments, array, binding⟩).isNone then
      [⟨.unknownType name.content, name⟩] else []) ++ unknownNames layer arguments

/-- The names in some written types that are not known. -/
def unknownNames (layer : Layer) : List TypeRef → List (Finding SemanticProblem)
  | [] => []
  | written :: rest => written.unknown layer ++ unknownNames layer rest

end

namespace Analysis.Site

/-- The shape that is found at a site. -/
def shape? (site : Site) : Option Shape :=
  site.place.layer.shape? site.written

/-- The unknown names in what is written at a site. -/
def unknown (site : Site) : List (Finding SemanticProblem) :=
  site.written.unknown site.place.layer

end Analysis.Site

section
variable (code : Shape → TypeId) (layer : Layer)

mutual

/-- A written type with its type arguments filled in. -/
def TypeRef.filled : TypeRef → TypeRef
  | ⟨name, builtin, arguments, array, binding⟩ =>
    ⟨name, builtin, typesFilled arguments, array, binding⟩

/-- Some written types filled in. -/
def typesFilled : List TypeRef → List TypeRef
  | [] => []
  | written :: rest =>
    { written.filled with binding := (layer.shape? written).map code } :: typesFilled rest

end

/-- A written type filled in. -/
def TypeRef.bound (written : TypeRef) : TypeRef :=
  { written with binding := (layer.shape? written).map code }.filled code layer

/-- The binding of a written type that is filled in. -/
lemma TypeRef.binding_bound (written : TypeRef) :
    (written.bound code layer).binding = (layer.shape? written).map code := by
  obtain ⟨name, builtin, arguments, array, binding⟩ := written
  rw [bound, filled]

end

namespace Analysis.Setting

variable (setting : Setting)

/-! ## Names -/

/-- The problem of a name that is not declared. -/
def missing (what : Declared) (identifier : Identifier) (owner : Option Shape) : Finding SemanticProblem :=
  match owner with
  | some owner => ⟨.missingMember what identifier.name (setting.code owner), identifier.span⟩
  | none => ⟨.missing what identifier.name, identifier.span⟩

/-- The name of a variable, as a member if there is an owner. -/
def judgeVariable (owner : Option Shape) (identifier : Identifier) : Judged Identifier (Option Shape) :=
  match (setting.seen owner).bind (·.variableOf identifier.name) with
  | some entry =>
    ⟨{ identifier with binding := some (.variable entry.node) }, setting.typeOfVariable entry, []⟩
  | none => ⟨identifier, none, [setting.missing .variable identifier owner]⟩

/-- The problem of a found type that may not stand where another is expected. -/
def mismatch (problem : TypeId → TypeId → SemanticProblem) (expected found : Option Shape) (span : Span) :
    List (Finding SemanticProblem) :=
  match expected, found with
  | some expected, some found =>
    if expected.compatible found then [] else [⟨problem (setting.code expected) (setting.code found), span⟩]
  | _, _ => []

/-- The problems of arguments from a position on. -/
def argumentMismatches (function : String) :
    Nat → List NodeId → List (Option Shape × Span) → List (Finding SemanticProblem)
  | position, parameter :: parameters, (found, span) :: arguments =>
    setting.mismatch (.argumentDiffers position function) (setting.facts.declared parameter) found span ++
      argumentMismatches function (position + 1) parameters arguments
  | _, _, _ => []

/-- The problems of the arguments of a call. -/
def argumentProblems (identifier : Identifier) (parameters : List NodeId)
    (arguments : List (Option Shape × Span)) : List (Finding SemanticProblem) :=
  (if arguments.length ≠ parameters.length then
    [⟨.argumentCount identifier.name parameters.length arguments.length, identifier.span⟩] else []) ++
    setting.argumentMismatches identifier.name 1 parameters arguments

/-- The name of a called function, as a member if there is an owner. -/
def judgeFunction (owner : Option Shape) (arity : Nat) (arguments : List (Option Shape × Span))
    (identifier : Identifier) : Judged Identifier (Option Shape) :=
  match (setting.seen owner).bind (·.functionOf (mangle identifier.name arity)) with
  | some entry =>
    ⟨{ identifier with binding := some (.function entry.node) }, setting.typeOfCall entry,
      setting.argumentProblems identifier (setting.facts.parameters entry.node) arguments⟩
  | none => ⟨identifier, none, [setting.missing .function identifier owner]⟩

/-- The type arguments of a call and their number. -/
def judgeTypeArguments : Option (List TypeRef) → Judged (Option (List TypeRef)) Nat
  | none => ⟨none, 0, []⟩
  | some written =>
    ⟨some (written.map (TypeRef.bound setting.code setting.around)), written.length,
      unknownNames setting.around written⟩

/-- The name of a type behind `new`. -/
def judgeConstructed (arity : Nat) (identifier : Identifier) : Judged Identifier (Option Shape) :=
  match setting.constructed? identifier.name arity with
  | some origin =>
    ⟨{ identifier with binding := some (.type (setting.code ⟨origin, 0⟩)) }, some ⟨origin, 0⟩, []⟩
  | none => ⟨identifier, none, [⟨.unknownType identifier.name, identifier.span⟩]⟩

/-! ## Operations -/

/-- The problem of operands of different types. -/
def operandProblems (operatorSpan : Span) (left right : Option Shape) : List (Finding SemanticProblem) :=
  match left, right with
  | some left, some right =>
    if left ≠ right then [⟨.operandsDiffer (setting.code left) (setting.code right), operatorSpan⟩] else []
  | _, _ => []

/-- The problem of an index that is no whole number. -/
def indexProblems (index : Expression) (shape : Option Shape) : List (Finding SemanticProblem) :=
  match shape with
  | some found =>
    if found = .builtin .int || found.isGeneric then []
    else [⟨.indexNotInt (setting.code found), index.root.span⟩]
  | none => []

end Analysis.Setting

/-- The shape of an operation with operands of the given shapes. -/
def operationShape (operator : BinaryOperator) (left right : Option Shape) : Option Shape :=
  match left, right with
  | some left, some right =>
    if left ≠ right then some left
    else some (if operator.isBoolean then .builtin .bool else left)
  | _, _ => if operator.isBoolean then some (.builtin .bool) else none

/-- The problem of a call that is assigned to. -/
def targetProblems : BinaryOperator → Expr → List (Finding SemanticProblem)
  | .assign, .chain path =>
    match path.links.getLast? with
    | some (.call _ _ _ close) => [⟨.assignsToCall, (path.span.combine close).toOption.getD close⟩]
    | _ => []
  | _, _ => []

/-! ## Expressions -/

section
variable (setting : Setting)

mutual

/-- The account of an expression. -/
def Expr.judged : Expr → Judged Expr (Option Shape)
  | .binary operator operatorSpan left right _ =>
    let left := left.judged
    let right := right.judged
    let shape := operationShape operator left.shape right.shape
    ⟨.binary operator operatorSpan left.node right.node (shape.map setting.code), shape,
      left.problems ++ targetProblems operator left.node ++ right.problems ++
        setting.operandProblems operatorSpan left.shape right.shape⟩
  | .unary operator operatorSpan operand _ =>
    let operand := operand.judged
    ⟨.unary operator operatorSpan operand.node (operand.shape.map setting.code), operand.shape,
      operand.problems⟩
  | .chain path =>
    let path := path.judged
    ⟨.chain path.node, path.shape, path.problems⟩
  | .literal kind span _ => ⟨.literal kind span (some (setting.code (.builtin kind.type))), some (.builtin kind.type), []⟩
  | .new keyword path =>
    let path := path.judgedNew
    ⟨.new keyword path.node, path.shape, path.problems⟩
  | .newArray keyword element =>
    let element := element.judged
    ⟨.newArray keyword element.node, element.shape.map Shape.array, element.problems⟩
  | .nothing span => ⟨.nothing span, some (.builtin .nothing), []⟩
  | .missing span => ⟨.missing span, none, []⟩

/-- The account of a whole expression. -/
def Expression.judged : Expression → Judged Expression (Option Shape)
  | ⟨root, _⟩ =>
    let root := root.judged
    ⟨⟨root.node, root.shape.map setting.code⟩, root.shape, root.problems⟩

/-- The account of a chain. -/
def Chain.judged : Chain → Judged Chain (Option Shape)
  | ⟨links, span, _⟩ =>
    let links := linksJudged none links
    ⟨⟨links.node, span, links.shape.map setting.code⟩, links.shape, links.problems⟩

/-- The account of a chain behind `new`, whose first link makes a value. -/
def Chain.judgedNew : Chain → Judged Chain (Option Shape)
  | ⟨[], span, type⟩ => ⟨⟨[], span, type⟩, none, []⟩
  | ⟨first :: rest, span, _⟩ =>
    let first := first.judgedMade
    match first.shape with
    | none => ⟨⟨first.node :: rest, span, none⟩, none, first.problems⟩
    | some owner =>
      let rest := linksJudged (some owner) rest
      ⟨⟨first.node :: rest.node, span, rest.shape.map setting.code⟩, rest.shape,
        first.problems ++ rest.problems⟩

/-- The account of links, as far as their types are known; the first is a member of the owner, if any. -/
def linksJudged (owner : Option Shape) : List Link → Judged (List Link) (Option Shape)
  | [] => ⟨[], owner, []⟩
  | link :: rest =>
    let link := link.judged owner
    match link.shape with
    | none => ⟨link.node :: rest, none, link.problems⟩
    | some owner =>
      let rest := linksJudged (some owner) rest
      ⟨link.node :: rest.node, rest.shape, link.problems ++ rest.problems⟩

/-- The account of a link. -/
def Link.judged (owner : Option Shape) : Link → Judged Link (Option Shape)
  | .name identifier =>
    let identifier := setting.judgeVariable owner identifier
    ⟨.name identifier.node, identifier.shape, identifier.problems⟩
  | .index identifier index close =>
    let index := index.judged
    let identifier := setting.judgeVariable owner identifier
    ⟨.index identifier.node index.node close, identifier.shape.map Shape.element,
      index.problems ++ setting.indexProblems index.node index.shape ++ identifier.problems⟩
  | .call identifier written arguments close =>
    let arguments := argumentsJudged arguments
    let written := setting.judgeTypeArguments written
    let identifier := setting.judgeFunction owner written.shape arguments.shape identifier
    ⟨.call identifier.node written.node arguments.node close, identifier.shape,
      arguments.problems ++ written.problems ++ identifier.problems⟩

/-- The account of the link that makes a new value. -/
def Link.judgedMade : Link → Judged Link (Option Shape)
  | .name identifier => ⟨.name identifier, none, []⟩
  | .index identifier index close =>
    let index := index.judged
    let identifier := setting.judgeConstructed 0 identifier
    ⟨.index identifier.node index.node close, identifier.shape.map Shape.array,
      index.problems ++ setting.indexProblems index.node index.shape ++ identifier.problems⟩
  | .call identifier written arguments close =>
    let arguments := argumentsJudged arguments
    let written := setting.judgeTypeArguments written
    let identifier := setting.judgeConstructed written.shape identifier
    ⟨.call identifier.node written.node arguments.node close, identifier.shape,
      arguments.problems ++ written.problems ++ identifier.problems⟩

/-- The account of some arguments, with the shapes and the spans of them. -/
def argumentsJudged : List Expression → Judged (List Expression) (List (Option Shape × Span))
  | [] => ⟨[], [], []⟩
  | argument :: rest =>
    let argument := argument.judged
    let rest := argumentsJudged rest
    ⟨argument.node :: rest.node, (argument.shape, argument.node.root.span) :: rest.shape,
      argument.problems ++ rest.problems⟩

end

end

/-! ## Statements -/

/-- The account of an expression that may be absent. -/
def optionJudged (setting : Setting) : Option Expression → Judged (Option Expression) (Option Shape)
  | none => ⟨none, none, []⟩
  | some value =>
    let value := value.judged setting
    ⟨some value.node, value.shape, value.problems⟩

/-- The account of a declaration. -/
def Declaration.visited (setting : Setting) (declaration : Declaration) : Outcome Declaration :=
  let initial := optionJudged setting declaration.initial
  match declaration.written with
  | some written =>
    let expected := setting.around.shape? written
    { node :=
        { declaration with
          written := some (written.bound setting.code setting.around)
          initial := initial.node
          type := expected.map setting.code }
      problems := initial.problems ++ initial.node.elim [] fun value =>
        setting.mismatch .initialDiffers expected initial.shape value.root.span
      inferred := [] }
  | none =>
    { node := { declaration with initial := initial.node, type := initial.shape.map setting.code }
      problems := initial.problems
      inferred := (initial.shape.map (declaration.id, ·)).toList }

/-- The account of declarations, one after the other. -/
def declarationsVisited (setting : Setting) : List Declaration → Outcome (List Declaration)
  | [] => ⟨[], [], []⟩
  | declaration :: rest =>
    let declaration := declaration.visited setting
    let rest := declarationsVisited (setting.after declaration.inferred) rest
    ⟨declaration.node :: rest.node, declaration.problems ++ rest.problems,
      rest.inferred ++ declaration.inferred⟩

/-- A parameter with its type filled in. -/
def Parameter.filled (setting : Setting) (parameter : Parameter) : Parameter :=
  { parameter with written := parameter.written.bound setting.code setting.around }

/-- The account of a returned value. -/
def returnVisited (setting : Setting) (keyword : Span) (value : Option Expression) :
    Outcome (Option Expression) :=
  let value := optionJudged setting value
  let found := if value.node.isSome then value.shape else some (.builtin .nothing)
  ⟨value.node, value.problems ++ setting.mismatch .returnDiffers setting.returned found keyword, []⟩

/-- The type that a function returns. -/
def FunctionDef.returned (layer : Layer) (definition : FunctionDef) : Option Shape :=
  definition.returns.elim (some (.builtin .nothing)) layer.shape?

mutual

/-- The account of a block. -/
def Block.visited (setting : Setting) : Block → Outcome Block
  | ⟨id, kind, statements, span⟩ =>
    let statements := statementsVisited (setting.inside (statementLayer setting.nested statements)) statements
    ⟨⟨id, kind, statements.node, span⟩, statements.problems, statements.inferred⟩

/-- The account of statements, one after the other. -/
def statementsVisited (setting : Setting) : List Statement → Outcome (List Statement)
  | [] => ⟨[], [], []⟩
  | statement :: rest =>
    let statement := statement.visited setting
    let rest := statementsVisited (setting.after statement.inferred) rest
    ⟨statement.node :: rest.node, statement.problems ++ rest.problems, rest.inferred ++ statement.inferred⟩

/-- The account of a statement. Definitions inside functions are left alone. -/
def Statement.visited (setting : Setting) : Statement → Outcome Statement
  | .type definition =>
    if setting.nested then ⟨.type definition, [], []⟩
    else
      let definition := definition.visited setting
      ⟨.type definition.node, definition.problems, definition.inferred⟩
  | .function definition =>
    if setting.nested then ⟨.function definition, [], []⟩
    else
      let definition := definition.visited setting
      ⟨.function definition.node, definition.problems, definition.inferred⟩
  | .variable declaration =>
    let declaration := declaration.visited setting
    ⟨.variable declaration.node, declaration.problems, declaration.inferred⟩
  | .returning keyword value =>
    let value := returnVisited setting keyword value
    ⟨.returning keyword value.node, value.problems, value.inferred⟩
  | .whileLoop keyword condition body =>
    let condition := condition.judged setting
    let body := body.visited setting
    ⟨.whileLoop keyword condition.node body.node, condition.problems ++ body.problems, body.inferred⟩
  | .conditional conditional =>
    let conditional := conditional.visited setting
    ⟨.conditional conditional.node, conditional.problems, conditional.inferred⟩
  | .expression expression =>
    let expression := expression.judged setting
    ⟨.expression expression.node, expression.problems, []⟩
  | .breaking keyword => ⟨.breaking keyword, [], []⟩
  | .continuing keyword => ⟨.continuing keyword, [], []⟩
  | .importing keyword target => ⟨.importing keyword target, [], []⟩
  | .path keyword target => ⟨.path keyword target, [], []⟩

/-- The account of a conditional. -/
def Conditional.visited (setting : Setting) : Conditional → Outcome Conditional
  | ⟨condition, body, otherwise, keyword⟩ =>
    let condition := condition.judged setting
    let body := body.visited setting
    let otherwise := otherwise.visited (setting.after body.inferred)
    ⟨⟨condition.node, body.node, otherwise.node, keyword⟩,
      condition.problems ++ body.problems ++ otherwise.problems, otherwise.inferred ++ body.inferred⟩

/-- The account of what is done when a condition fails. -/
def Otherwise.visited (setting : Setting) : Otherwise → Outcome Otherwise
  | .nothing => ⟨.nothing, [], []⟩
  | .conditional conditional =>
    let conditional := conditional.visited setting
    ⟨.conditional conditional.node, conditional.problems, conditional.inferred⟩
  | .block block =>
    let block := block.visited setting
    ⟨.block block.node, block.problems, block.inferred⟩

/-- The account of a function. -/
def FunctionDef.visited (setting : Setting) : FunctionDef → Outcome FunctionDef
  | ⟨id, name, typeParameters, parameters, returns, body, keyword⟩ =>
    let definition : FunctionDef := ⟨id, name, typeParameters, parameters, returns, body, keyword⟩
    let inside := setting.inside definition.layer
    let body := body.visited (inside.body (definition.returned inside.around))
    ⟨⟨id, name, typeParameters, parameters.map (Parameter.filled inside),
        returns.map (TypeRef.bound inside.code inside.around), body.node, keyword⟩,
      body.problems, body.inferred⟩

/-- The account of functions, one after the other. -/
def functionsVisited (setting : Setting) : List FunctionDef → Outcome (List FunctionDef)
  | [] => ⟨[], [], []⟩
  | definition :: rest =>
    let definition := definition.visited setting
    let rest := functionsVisited (setting.after definition.inferred) rest
    ⟨definition.node :: rest.node, definition.problems ++ rest.problems,
      rest.inferred ++ definition.inferred⟩

/-- The account of a type. -/
def TypeDef.visited (setting : Setting) : TypeDef → Outcome TypeDef
  | ⟨id, name, typeParameters, fields, methods, keyword, binding⟩ =>
    let definition : TypeDef := ⟨id, name, typeParameters, fields, methods, keyword, binding⟩
    let inside := setting.inside definition.layer
    let fields := declarationsVisited inside fields
    let methods := functionsVisited (inside.after fields.inferred) methods
    ⟨⟨id, name, typeParameters, fields.node, methods.node, keyword,
        some (setting.code ⟨.user id name.content, 0⟩)⟩,
      fields.problems ++ methods.problems, methods.inferred ++ fields.inferred⟩

end

/-! ## Programs -/

/-- The facts that are collected in some regions. -/
def Analysis.Facts.of (regions : List Region) : Facts where
  declared node := ((regions.flatMap Region.sites).lookup node).bind Site.shape?
  unknown node := ((regions.flatMap Region.sites).lookup node).elim [] Site.unknown
  members node := (regions.filterMap Region.members).lookup node
  parameters node := ((regions.filterMap Region.signature).lookup node).getD []

/-- The setting of a whole program. -/
def Block.setting (code : Shape → TypeId) (root : Block) : Setting where
  code := code
  facts := .of (root.regions false .empty)
  around := .empty
  known _ := none
  returned := none
  nested := false

/-- The account of a whole program. -/
def Block.account (code : Shape → TypeId) (root : Block) : Outcome Block :=
  root.visited (root.setting code)

/-- The problems in a whole program: what is found when it is declared, when it is visited, and in the written
types of declarations. -/
def Block.problems (code : Shape → TypeId) (root : Block) : List (Finding SemanticProblem) :=
  (root.regions false .empty).flatMap Region.problems ++ (root.account code).problems ++
    ((root.regions false .empty).flatMap Region.sites).flatMap fun site => site.2.unknown

end ArrowScript
