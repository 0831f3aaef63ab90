import ArrowScript.Proofs.Analysis.Respelling

/-!
# Names in programs

`Spelled` says that all names are of some kind: those in a program, and those in what the analysis knows. Two
changes of spelling are the same where they agree on all names (`Program.Spelled.respell_congr`).
-/

namespace ArrowScript
open Analysis

/-! ## Trees -/

section
variable (P : String → Prop)

/-- A name within a chain is of a kind. -/
def Identifier.Spelled (identifier : Identifier) : Prop :=
  P identifier.name

mutual

/-- The names in a written type are of a kind. -/
def TypeRef.Spelled : TypeRef → Prop
  | ⟨name, _, arguments, _, _⟩ => P name.content ∧ typesSpelled arguments

/-- The names in some written types are of a kind. -/
def typesSpelled : List TypeRef → Prop
  | [] => True
  | written :: rest => written.Spelled ∧ typesSpelled rest

end

mutual

/-- The names in an expression are of a kind. -/
def Expr.Spelled : Expr → Prop
  | .binary _ _ left right _ => left.Spelled ∧ right.Spelled
  | .unary _ _ operand _ => operand.Spelled
  | .chain path => path.Spelled
  | .new _ path => path.Spelled
  | .newArray _ element => element.Spelled
  | .literal .. | .nothing _ | .missing _ => True

/-- The names in a whole expression are of a kind. -/
def Expression.Spelled : Expression → Prop
  | ⟨root, _⟩ => root.Spelled

/-- The names in a chain are of a kind. -/
def Chain.Spelled : Chain → Prop
  | ⟨links, _, _⟩ => linksSpelled links

/-- The names in some links are of a kind. -/
def linksSpelled : List Link → Prop
  | [] => True
  | link :: rest => link.Spelled ∧ linksSpelled rest

/-- The names in a link are of a kind. -/
def Link.Spelled : Link → Prop
  | .name identifier => identifier.Spelled P
  | .index identifier index _ => identifier.Spelled P ∧ index.Spelled
  | .call identifier written arguments _ =>
    identifier.Spelled P ∧ (∀ types ∈ written, typesSpelled P types) ∧ argumentsSpelled arguments

/-- The names in some arguments are of a kind. -/
def argumentsSpelled : List Expression → Prop
  | [] => True
  | argument :: rest => argument.Spelled ∧ argumentsSpelled rest

end

/-- The names in a declaration are of a kind. -/
structure Declaration.Spelled (declaration : Declaration) : Prop where
  name : P declaration.name.content
  written : ∀ written ∈ declaration.written, written.Spelled P
  initial : ∀ initial ∈ declaration.initial, initial.Spelled P

/-- The names in a parameter are of a kind. -/
structure Parameter.Spelled (parameter : Parameter) : Prop where
  name : P parameter.name.content
  written : parameter.written.Spelled P

/-- The names of type parameters are of a kind. -/
def parametersSpelled (names : Option (List Span)) : Prop :=
  ∀ list ∈ names, ∀ name ∈ list, P name.content

mutual

/-- The names in a block are of a kind. -/
def Block.Spelled : Block → Prop
  | ⟨_, _, statements, _⟩ => statementsSpelled statements

/-- The names in some statements are of a kind. -/
def statementsSpelled : List Statement → Prop
  | [] => True
  | statement :: rest => statement.Spelled ∧ statementsSpelled rest

/-- The names in a statement are of a kind. -/
def Statement.Spelled : Statement → Prop
  | .type definition => definition.Spelled
  | .function definition => definition.Spelled
  | .variable declaration => declaration.Spelled P
  | .returning _ value => ∀ expression ∈ value, expression.Spelled P
  | .whileLoop _ condition body => condition.Spelled P ∧ body.Spelled
  | .conditional conditional => conditional.Spelled
  | .importing _ target | .path _ target => target.Spelled P
  | .expression expression => expression.Spelled P
  | .breaking _ | .continuing _ => True

/-- The names in a conditional are of a kind. -/
def Conditional.Spelled : Conditional → Prop
  | ⟨condition, body, otherwise, _⟩ => condition.Spelled P ∧ body.Spelled ∧ otherwise.Spelled

/-- The names in what is done when a condition fails are of a kind. -/
def Otherwise.Spelled : Otherwise → Prop
  | .nothing => True
  | .conditional conditional => conditional.Spelled
  | .block block => block.Spelled

/-- The names in a function are of a kind. -/
def FunctionDef.Spelled : FunctionDef → Prop
  | ⟨_, name, typeParameters, parameters, returns, body, _⟩ =>
    P name.content ∧ parametersSpelled P typeParameters ∧ (∀ parameter ∈ parameters, parameter.Spelled P) ∧
      (∀ written ∈ returns, written.Spelled P) ∧ body.Spelled

/-- The names in some functions are of a kind. -/
def functionsSpelled : List FunctionDef → Prop
  | [] => True
  | definition :: rest => definition.Spelled ∧ functionsSpelled rest

/-- The names in a type are of a kind. -/
def TypeDef.Spelled : TypeDef → Prop
  | ⟨_, name, typeParameters, fields, methods, _, _⟩ =>
    P name.content ∧ parametersSpelled P typeParameters ∧ (∀ field ∈ fields, field.Spelled P) ∧
      functionsSpelled methods

end

/-- The names in a program are of a kind. -/
def Program.Spelled (program : Program) : Prop :=
  program.root.Spelled P

/-! ## The state -/

/-- The names in a declared type are of a kind. -/
def TypeSymbol.Spelled (symbol : TypeSymbol) : Prop :=
  P symbol.span.content

/-- The names in a declared function are of a kind. -/
structure FunctionSymbol.Spelled (symbol : FunctionSymbol) : Prop where
  span : P symbol.span.content
  parameters : ∀ parameter ∈ symbol.parameters, parameter.2.Spelled P
  returns : ∀ written ∈ symbol.returns, written.Spelled P

/-- The names in a declared variable are of a kind. -/
structure VariableSymbol.Spelled (symbol : VariableSymbol) : Prop where
  span : P symbol.span.content
  written : ∀ written ∈ symbol.written, written.Spelled P

/-- The names in what a scope declares are of a kind. Its keys need not be. -/
structure Scope.Spelled (scope : Scope) : Prop where
  typeTable : ∀ entry ∈ scope.typeTable, entry.2.Spelled P
  functionTable : ∀ entry ∈ scope.functionTable, entry.2.Spelled P
  variableTable : ∀ entry ∈ scope.variableTable, entry.2.Spelled P

/-- The names in all scopes are of a kind. -/
def ScopeTable.Spelled (table : ScopeTable) : Prop :=
  ∀ scope ∈ table.scopes, scope.Spelled P

/-- The name of a type of a program is of a kind. -/
def TypeInfo.Spelled : TypeInfo → Prop
  | ⟨name, .user _⟩ | ⟨name, .parameter⟩ => P name
  | ⟨_, .builtin⟩ | ⟨_, .array _⟩ => True

namespace Analysis

/-- The names in a problem are of a kind. -/
def SemanticProblem.Spelled : SemanticProblem → Prop
  | .alreadyDefined _ name first => P name ∧ P first.content
  | .unknownType name | .missing _ name | .missingMember _ name _ | .argumentCount name _ _
  | .argumentDiffers _ name _ _ => P name
  | .typeInFunction | .functionInFunction | .operandsDiffer .. | .initialDiffers .. | .returnDiffers ..
  | .indexNotInt _ | .assignsToCall => True

/-- The names in a found problem are of a kind, and so is the name where it stands. -/
structure FindingSpelled (finding : Finding SemanticProblem) : Prop where
  problem : finding.problem.Spelled P
  span : finding.problem.atName → P finding.span.content

/-- The names in what the analysis knows are of a kind, and array types are named after their elements. -/
structure State.Spelled (state : State) : Prop where
  arrays : state.types.respell id = state.types
  types : ∀ info ∈ state.types.entries, info.Spelled P
  scopes : state.scopes.Spelled P
  findings : ∀ finding ∈ state.findings, FindingSpelled P finding

end Analysis

end

/-! ## Changes of spelling that agree -/

variable {P : String → Prop} {spell other : String → String}

/-- A name is spelled the same. -/
lemma Span.respell_congr (agree : ∀ name, P name → spell name = other name) {name : Span}
    (spelled : P name.content) : name.respell spell = name.respell other := by
  rw [Span.respell, Span.respell, agree _ spelled]

/-- A name within a chain is spelled the same. -/
lemma Identifier.respell_congr (agree : ∀ name, P name → spell name = other name) {identifier : Identifier}
    (spelled : P identifier.name) : identifier.respell spell = identifier.respell other := by
  rw [Identifier.respell, Identifier.respell, Span.respell_congr agree spelled]

mutual

/-- A written type is spelled the same. -/
lemma TypeRef.Spelled.respell_congr (agree : ∀ name, P name → spell name = other name) : ∀ {x : TypeRef},
    x.Spelled P → x.respell spell = x.respell other
  | ⟨name, builtin, arguments, array, binding⟩, spelled => by
    rw [TypeRef.Spelled] at spelled
    rw [TypeRef.respell, TypeRef.respell, Span.respell_congr agree spelled.1,
      typesSpelled_respell_congr agree spelled.2]

lemma typesSpelled_respell_congr (agree : ∀ name, P name → spell name = other name) : ∀ {x : List TypeRef},
    typesSpelled P x → typesRespell spell x = typesRespell other x
  | [], _ => rfl
  | written :: rest, spelled => by
    rw [typesSpelled] at spelled
    rw [typesRespell, typesRespell, spelled.1.respell_congr agree, typesSpelled_respell_congr agree spelled.2]

end

/-- What may be absent is spelled the same. -/
lemma Option.map_respell_congr {α : Type} {Q : α → Prop} {f g : α → α} (same : ∀ {x}, Q x → f x = g x)
    {x : Option α} (spelled : ∀ a ∈ x, Q a) : x.map f = x.map g := by
  cases x with
  | none => rfl
  | some a => exact congrArg some (same (spelled a rfl))

mutual

/-- An expression is spelled the same. -/
lemma Expr.Spelled.respell_congr (agree : ∀ name, P name → spell name = other name) : ∀ {x : Expr},
    x.Spelled P → x.respell spell = x.respell other
  | .binary operator operatorSpan left right type, spelled => by
    rw [Expr.Spelled] at spelled
    rw [Expr.respell, Expr.respell, spelled.1.respell_congr agree, spelled.2.respell_congr agree]
  | .unary operator operatorSpan operand type, spelled => by
    rw [Expr.Spelled] at spelled
    rw [Expr.respell, Expr.respell, spelled.respell_congr agree]
  | .chain path, spelled => by
    rw [Expr.Spelled] at spelled
    rw [Expr.respell, Expr.respell, spelled.respell_congr agree]
  | .literal .., _ => by rw [Expr.respell, Expr.respell]
  | .new keyword path, spelled => by
    rw [Expr.Spelled] at spelled
    rw [Expr.respell, Expr.respell, spelled.respell_congr agree]
  | .newArray keyword element, spelled => by
    rw [Expr.Spelled] at spelled
    rw [Expr.respell, Expr.respell, spelled.respell_congr agree]
  | .nothing _, _ => by rw [Expr.respell, Expr.respell]
  | .missing _, _ => by rw [Expr.respell, Expr.respell]

lemma Expression.Spelled.respell_congr (agree : ∀ name, P name → spell name = other name) : ∀ {x : Expression},
    x.Spelled P → x.respell spell = x.respell other
  | ⟨root, type⟩, spelled => by
    rw [Expression.Spelled] at spelled
    rw [Expression.respell, Expression.respell, spelled.respell_congr agree]

lemma Chain.Spelled.respell_congr (agree : ∀ name, P name → spell name = other name) : ∀ {x : Chain},
    x.Spelled P → x.respell spell = x.respell other
  | ⟨links, span, type⟩, spelled => by
    rw [Chain.Spelled] at spelled
    rw [Chain.respell, Chain.respell, linksSpelled_respell_congr agree spelled]

lemma linksSpelled_respell_congr (agree : ∀ name, P name → spell name = other name) : ∀ {x : List Link},
    linksSpelled P x → linksRespell spell x = linksRespell other x
  | [], _ => by rw [linksRespell, linksRespell]
  | link :: rest, spelled => by
    rw [linksSpelled] at spelled
    rw [linksRespell, linksRespell, spelled.1.respell_congr agree, linksSpelled_respell_congr agree spelled.2]

lemma Link.Spelled.respell_congr (agree : ∀ name, P name → spell name = other name) : ∀ {x : Link},
    x.Spelled P → x.respell spell = x.respell other
  | .name identifier, spelled => by
    rw [Link.Spelled] at spelled
    rw [Link.respell, Link.respell, Identifier.respell_congr agree spelled]
  | .index identifier index close, spelled => by
    rw [Link.Spelled] at spelled
    rw [Link.respell, Link.respell, Identifier.respell_congr agree spelled.1, spelled.2.respell_congr agree]
  | .call identifier written arguments close, spelled => by
    rw [Link.Spelled] at spelled
    rw [Link.respell, Link.respell, Identifier.respell_congr agree spelled.1,
      argumentsSpelled_respell_congr agree spelled.2.2]
    cases written with
    | none => rfl
    | some list =>
      rw [Option.map_some, Option.map_some, typesSpelled_respell_congr agree (spelled.2.1 list rfl)]

lemma argumentsSpelled_respell_congr (agree : ∀ name, P name → spell name = other name) : ∀ {x : List Expression},
    argumentsSpelled P x → argumentsRespell spell x = argumentsRespell other x
  | [], _ => by rw [argumentsRespell, argumentsRespell]
  | argument :: rest, spelled => by
    rw [argumentsSpelled] at spelled
    rw [argumentsRespell, argumentsRespell, spelled.1.respell_congr agree,
      argumentsSpelled_respell_congr agree spelled.2]

end

/-- A declaration is spelled the same. -/
lemma Declaration.Spelled.respell_congr (agree : ∀ name, P name → spell name = other name) {x : Declaration}
    (spelled : x.Spelled P) : x.respell spell = x.respell other := by
  rw [Declaration.respell, Declaration.respell, Span.respell_congr agree spelled.name,
    Option.map_respell_congr (TypeRef.Spelled.respell_congr agree) spelled.written,
    Option.map_respell_congr (Expression.Spelled.respell_congr agree) spelled.initial]

/-- A parameter is spelled the same. -/
lemma Parameter.Spelled.respell_congr (agree : ∀ name, P name → spell name = other name) {x : Parameter}
    (spelled : x.Spelled P) : x.respell spell = x.respell other := by
  rw [Parameter.respell, Parameter.respell, Span.respell_congr agree spelled.name,
    spelled.written.respell_congr agree]

/-- Type parameters are spelled the same. -/
lemma parametersSpelled_respell_congr (agree : ∀ name, P name → spell name = other name)
    {x : Option (List Span)} (spelled : parametersSpelled P x) :
    x.map (List.map (Span.respell spell)) = x.map (List.map (Span.respell other)) := by
  have each {list : List Span} (spelled : ∀ name ∈ list, P name.content) :
      list.map (Span.respell spell) = list.map (Span.respell other) :=
    List.map_congr_left fun name mem => Span.respell_congr agree (spelled name mem)
  exact Option.map_respell_congr each spelled

mutual

/-- A block is spelled the same. -/
lemma Block.Spelled.respell_congr (agree : ∀ name, P name → spell name = other name) : ∀ {x : Block},
    x.Spelled P → x.respell spell = x.respell other
  | ⟨id, kind, statements, span⟩, spelled => by
    rw [Block.Spelled] at spelled
    rw [Block.respell, Block.respell, statementsSpelled_respell_congr agree spelled]

lemma statementsSpelled_respell_congr (agree : ∀ name, P name → spell name = other name) : ∀ {x : List Statement},
    statementsSpelled P x → statementsRespell spell x = statementsRespell other x
  | [], _ => by rw [statementsRespell, statementsRespell]
  | statement :: rest, spelled => by
    rw [statementsSpelled] at spelled
    rw [statementsRespell, statementsRespell, spelled.1.respell_congr agree,
      statementsSpelled_respell_congr agree spelled.2]

lemma Statement.Spelled.respell_congr (agree : ∀ name, P name → spell name = other name) : ∀ {x : Statement},
    x.Spelled P → x.respell spell = x.respell other
  | .type definition, spelled => by
    rw [Statement.Spelled] at spelled
    rw [Statement.respell, Statement.respell, spelled.respell_congr agree]
  | .function definition, spelled => by
    rw [Statement.Spelled] at spelled
    rw [Statement.respell, Statement.respell, spelled.respell_congr agree]
  | .variable declaration, spelled => by
    rw [Statement.Spelled] at spelled
    rw [Statement.respell, Statement.respell, spelled.respell_congr agree]
  | .returning keyword value, spelled => by
    rw [Statement.Spelled] at spelled
    rw [Statement.respell, Statement.respell,
      Option.map_respell_congr (Expression.Spelled.respell_congr agree) spelled]
  | .whileLoop keyword condition body, spelled => by
    rw [Statement.Spelled] at spelled
    rw [Statement.respell, Statement.respell, spelled.1.respell_congr agree, spelled.2.respell_congr agree]
  | .conditional conditional, spelled => by
    rw [Statement.Spelled] at spelled
    rw [Statement.respell, Statement.respell, spelled.respell_congr agree]
  | .importing keyword target, spelled => by
    rw [Statement.Spelled] at spelled
    rw [Statement.respell, Statement.respell, spelled.respell_congr agree]
  | .path keyword target, spelled => by
    rw [Statement.Spelled] at spelled
    rw [Statement.respell, Statement.respell, spelled.respell_congr agree]
  | .expression expression, spelled => by
    rw [Statement.Spelled] at spelled
    rw [Statement.respell, Statement.respell, spelled.respell_congr agree]
  | .breaking _, _ => by rw [Statement.respell, Statement.respell]
  | .continuing _, _ => by rw [Statement.respell, Statement.respell]

lemma Conditional.Spelled.respell_congr (agree : ∀ name, P name → spell name = other name) : ∀ {x : Conditional},
    x.Spelled P → x.respell spell = x.respell other
  | ⟨condition, body, otherwise, keyword⟩, spelled => by
    rw [Conditional.Spelled] at spelled
    rw [Conditional.respell, Conditional.respell, spelled.1.respell_congr agree, spelled.2.1.respell_congr agree,
      spelled.2.2.respell_congr agree]

lemma Otherwise.Spelled.respell_congr (agree : ∀ name, P name → spell name = other name) : ∀ {x : Otherwise},
    x.Spelled P → x.respell spell = x.respell other
  | .nothing, _ => by rw [Otherwise.respell, Otherwise.respell]
  | .conditional conditional, spelled => by
    rw [Otherwise.Spelled] at spelled
    rw [Otherwise.respell, Otherwise.respell, spelled.respell_congr agree]
  | .block block, spelled => by
    rw [Otherwise.Spelled] at spelled
    rw [Otherwise.respell, Otherwise.respell, spelled.respell_congr agree]

lemma FunctionDef.Spelled.respell_congr (agree : ∀ name, P name → spell name = other name) : ∀ {x : FunctionDef},
    x.Spelled P → x.respell spell = x.respell other
  | ⟨id, name, typeParameters, parameters, returns, body, keyword⟩, spelled => by
    rw [FunctionDef.Spelled] at spelled
    obtain ⟨name, typeParameters, parameters, returns, body⟩ := spelled
    rw [FunctionDef.respell, FunctionDef.respell, Span.respell_congr agree name,
      parametersSpelled_respell_congr agree typeParameters,
      List.map_congr_left fun parameter mem => (parameters parameter mem).respell_congr agree,
      Option.map_respell_congr (TypeRef.Spelled.respell_congr agree) returns, body.respell_congr agree]

lemma functionsSpelled_respell_congr (agree : ∀ name, P name → spell name = other name) : ∀ {x : List FunctionDef},
    functionsSpelled P x → functionsRespell spell x = functionsRespell other x
  | [], _ => by rw [functionsRespell, functionsRespell]
  | definition :: rest, spelled => by
    rw [functionsSpelled] at spelled
    rw [functionsRespell, functionsRespell, spelled.1.respell_congr agree,
      functionsSpelled_respell_congr agree spelled.2]

lemma TypeDef.Spelled.respell_congr (agree : ∀ name, P name → spell name = other name) : ∀ {x : TypeDef},
    x.Spelled P → x.respell spell = x.respell other
  | ⟨id, name, typeParameters, fields, methods, keyword, binding⟩, spelled => by
    rw [TypeDef.Spelled] at spelled
    obtain ⟨name, typeParameters, fields, methods⟩ := spelled
    rw [TypeDef.respell, TypeDef.respell, Span.respell_congr agree name,
      parametersSpelled_respell_congr agree typeParameters,
      List.map_congr_left fun field mem => (fields field mem).respell_congr agree,
      functionsSpelled_respell_congr agree methods]

end

/-- A program is spelled the same. -/
lemma Program.Spelled.respell_congr (agree : ∀ name, P name → spell name = other name) {program : Program}
    (spelled : program.Spelled P) : program.respell spell = program.respell other := by
  rw [Program.respell, Program.respell, Block.Spelled.respell_congr agree spelled]

namespace Analysis

/-- A problem is spelled the same. -/
lemma SemanticProblem.Spelled.respell_congr (agree : ∀ name, P name → spell name = other name)
    {problem : SemanticProblem} (spelled : problem.Spelled P) : problem.respell spell = problem.respell other := by
  cases problem with
  | alreadyDefined what name first =>
    rw [respell, respell, agree _ spelled.1, Span.respell_congr agree spelled.2]
  | unknownType | missing | missingMember | argumentCount | argumentDiffers =>
    rw [respell, respell, agree _ spelled]
  | typeInFunction | functionInFunction | operandsDiffer | initialDiffers | returnDiffers | indexNotInt
  | assignsToCall => rfl

/-- A found problem is spelled the same. -/
lemma FindingSpelled.respell_congr (agree : ∀ name, P name → spell name = other name)
    {finding : Finding SemanticProblem} (spelled : FindingSpelled P finding) :
    findingRespell spell finding = findingRespell other finding := by
  rw [findingRespell, findingRespell, spelled.problem.respell_congr agree]
  cases e : finding.problem.atName with
  | false => rfl
  | true => rw [Span.respell_congr agree (spelled.span e)]

end Analysis

end ArrowScript
