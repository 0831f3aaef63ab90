import ArrowScript.Analysis.Problem
import ArrowScript.Proofs.Grammar.Blank

/-!
# Renamed types

Handles of types are only names for shapes. Renaming the handles in a tree or in a problem (`rename`) keeps
everything else. There are no handles in a blank tree, so it stays as it is. Nothing is asked of a renaming; it
need not even be one to one.
-/

namespace ArrowScript
open Analysis

/-! ## Renaming -/

section
variable (ξ : TypeId → TypeId)

/-- What a name stands for, with types renamed. -/
def Binding.rename : Binding → Binding
  | .variable node => .variable node
  | .function node => .function node
  | .type handle => .type (ξ handle)

/-- A name, with types renamed. -/
def Identifier.rename (identifier : Identifier) : Identifier :=
  { identifier with binding := identifier.binding.map (Binding.rename ξ) }

mutual

/-- A written type, with types renamed. -/
def TypeRef.rename : TypeRef → TypeRef
  | ⟨name, builtin, arguments, array, binding⟩ =>
    ⟨name, builtin, typesRename arguments, array, binding.map ξ⟩

/-- Some written types, with types renamed. -/
def typesRename : List TypeRef → List TypeRef
  | [] => []
  | written :: rest => written.rename :: typesRename rest

end

/-- The binding of a written type, with types renamed. -/
lemma TypeRef.binding_rename (written : TypeRef) : (written.rename ξ).binding = written.binding.map ξ := by
  obtain ⟨name, builtin, arguments, array, binding⟩ := written
  rw [rename]

mutual

/-- An expression, with types renamed. -/
def Expr.rename : Expr → Expr
  | .binary operator operatorSpan left right type =>
    .binary operator operatorSpan left.rename right.rename (type.map ξ)
  | .unary operator operatorSpan operand type => .unary operator operatorSpan operand.rename (type.map ξ)
  | .chain path => .chain path.rename
  | .literal kind span type => .literal kind span (type.map ξ)
  | .new keyword path => .new keyword path.rename
  | .newArray keyword element => .newArray keyword element.rename
  | .nothing span => .nothing span
  | .missing span => .missing span

/-- A whole expression, with types renamed. -/
def Expression.rename : Expression → Expression
  | ⟨root, type⟩ => ⟨root.rename, type.map ξ⟩

/-- A chain, with types renamed. -/
def Chain.rename : Chain → Chain
  | ⟨links, span, type⟩ => ⟨linksRename links, span, type.map ξ⟩

/-- Some links, with types renamed. -/
def linksRename : List Link → List Link
  | [] => []
  | link :: rest => link.rename :: linksRename rest

/-- A link, with types renamed. -/
def Link.rename : Link → Link
  | .name identifier => .name (identifier.rename ξ)
  | .index identifier index close => .index (identifier.rename ξ) index.rename close
  | .call identifier written arguments close =>
    .call (identifier.rename ξ) (written.map (typesRename ξ)) (argumentsRename arguments) close

/-- Some arguments, with types renamed. -/
def argumentsRename : List Expression → List Expression
  | [] => []
  | argument :: rest => argument.rename :: argumentsRename rest

end

/-- A declaration, with types renamed. -/
def Declaration.rename (declaration : Declaration) : Declaration :=
  { declaration with
    written := declaration.written.map (TypeRef.rename ξ)
    initial := declaration.initial.map (Expression.rename ξ)
    type := declaration.type.map ξ }

/-- A parameter, with types renamed. -/
def Parameter.rename (parameter : Parameter) : Parameter :=
  { parameter with written := parameter.written.rename ξ }

mutual

/-- A block, with types renamed. -/
def Block.rename : Block → Block
  | ⟨id, kind, statements, span⟩ => ⟨id, kind, statementsRename statements, span⟩

/-- Some statements, with types renamed. -/
def statementsRename : List Statement → List Statement
  | [] => []
  | statement :: rest => statement.rename :: statementsRename rest

/-- A statement, with types renamed. -/
def Statement.rename : Statement → Statement
  | .type definition => .type definition.rename
  | .function definition => .function definition.rename
  | .variable declaration => .variable (declaration.rename ξ)
  | .returning keyword value => .returning keyword (value.map (Expression.rename ξ))
  | .breaking keyword => .breaking keyword
  | .continuing keyword => .continuing keyword
  | .whileLoop keyword condition body => .whileLoop keyword (condition.rename ξ) body.rename
  | .conditional conditional => .conditional conditional.rename
  | .importing keyword target => .importing keyword (target.rename ξ)
  | .path keyword target => .path keyword (target.rename ξ)
  | .expression expression => .expression (expression.rename ξ)

/-- A conditional, with types renamed. -/
def Conditional.rename : Conditional → Conditional
  | ⟨condition, body, otherwise, keyword⟩ =>
    ⟨condition.rename ξ, body.rename, otherwise.rename, keyword⟩

/-- What is done when a condition fails, with types renamed. -/
def Otherwise.rename : Otherwise → Otherwise
  | .nothing => .nothing
  | .conditional conditional => .conditional conditional.rename
  | .block block => .block block.rename

/-- A function, with types renamed. -/
def FunctionDef.rename : FunctionDef → FunctionDef
  | ⟨id, name, typeParameters, parameters, returns, body, keyword⟩ =>
    ⟨id, name, typeParameters, parameters.map (Parameter.rename ξ), returns.map (TypeRef.rename ξ), body.rename,
      keyword⟩

/-- Some functions, with types renamed. -/
def functionsRename : List FunctionDef → List FunctionDef
  | [] => []
  | definition :: rest => definition.rename :: functionsRename rest

/-- A type, with types renamed. -/
def TypeDef.rename : TypeDef → TypeDef
  | ⟨id, name, typeParameters, fields, methods, keyword, binding⟩ =>
    ⟨id, name, typeParameters, fields.map (Declaration.rename ξ), functionsRename methods, keyword,
      binding.map ξ⟩

end

namespace Analysis

/-- A problem, with types renamed. -/
def SemanticProblem.rename : SemanticProblem → SemanticProblem
  | .alreadyDefined what name first => .alreadyDefined what name first
  | .typeInFunction => .typeInFunction
  | .functionInFunction => .functionInFunction
  | .unknownType name => .unknownType name
  | .missing what name => .missing what name
  | .missingMember what name owner => .missingMember what name (ξ owner)
  | .operandsDiffer left right => .operandsDiffer (ξ left) (ξ right)
  | .initialDiffers expected found => .initialDiffers (ξ expected) (ξ found)
  | .returnDiffers expected found => .returnDiffers (ξ expected) (ξ found)
  | .indexNotInt found => .indexNotInt (ξ found)
  | .argumentCount function expected found => .argumentCount function expected found
  | .argumentDiffers position function expected found =>
    .argumentDiffers position function (ξ expected) (ξ found)
  | .assignsToCall => .assignsToCall

/-- A found problem, with types renamed. -/
def renameFinding (finding : Finding SemanticProblem) : Finding SemanticProblem :=
  ⟨finding.problem.rename ξ, finding.span⟩

end Analysis

end

namespace Analysis.SemanticProblem

/-! ## Types in problems -/

/-- The types in a problem. -/
def types : SemanticProblem → List TypeId
  | missingMember _ _ owner => [owner]
  | operandsDiffer left right => [left, right]
  | initialDiffers expected found | returnDiffers expected found | argumentDiffers _ _ expected found =>
    [expected, found]
  | indexNotInt found => [found]
  | alreadyDefined .. | typeInFunction | functionInFunction | unknownType _ | missing .. | argumentCount ..
  | assignsToCall => []

/-- The types in a renamed problem. -/
lemma types_rename (ξ : TypeId → TypeId) (problem : SemanticProblem) :
    (problem.rename ξ).types = problem.types.map ξ := by
  cases problem <;> rfl

/-- A renamed problem reads the same if its types are called the same. -/
lemma message_rename {ξ : TypeId → TypeId} {registry other : TypeRegistry} {problem : SemanticProblem}
    (names : ∀ type ∈ problem.types, other.name (ξ type) = registry.name type) :
    (problem.rename ξ).message other = problem.message registry := by
  cases problem with
  | missingMember _ _ type | indexNotInt type =>
    rw [types] at names
    have same := names type List.mem_cons_self
    unfold rename message
    simp only [same]
  | operandsDiffer first second | initialDiffers first second | returnDiffers first second
  | argumentDiffers _ _ first second =>
    rw [types] at names
    have left := names first List.mem_cons_self
    have right := names second (List.mem_cons_of_mem _ List.mem_cons_self)
    unfold rename message
    simp only [left, right]
  | alreadyDefined | typeInFunction | functionInFunction | unknownType | missing | argumentCount
  | assignsToCall => rfl

end Analysis.SemanticProblem

/-! ## Blank trees -/

variable {ξ : TypeId → TypeId}

mutual

/-- There are no types in a blank written type. -/
lemma TypeRef.Blank.rename : ∀ {written : TypeRef}, written.Blank → written.rename ξ = written
  | ⟨name, builtin, arguments, array, binding⟩, blank => by
    rw [TypeRef.Blank] at blank
    obtain ⟨rfl, blank⟩ := blank
    rw [TypeRef.rename, typesBlank_rename blank]
    rfl

lemma typesBlank_rename : ∀ {list : List TypeRef}, typesBlank list → typesRename ξ list = list
  | [], _ => rfl
  | written :: rest, blank => by
    rw [typesBlank] at blank
    rw [typesRename, blank.1.rename, typesBlank_rename blank.2]

end

/-- There are no types in a blank name. -/
lemma Identifier.rename_of_unbound {identifier : Identifier} (unbound : identifier.binding = none) :
    identifier.rename ξ = identifier := by
  obtain ⟨span, binding⟩ := identifier
  obtain rfl : binding = none := unbound
  rfl

mutual

/-- There are no types in a blank expression. -/
lemma Expr.Blank.rename : ∀ {x : Expr}, x.Blank → x.rename ξ = x
  | .binary operator span left right type, blank => by
    rw [Expr.Blank] at blank
    obtain ⟨-, left, right, rfl⟩ := blank
    rw [Expr.rename, left.rename, right.rename]
    rfl
  | .unary operator span operand type, blank => by
    rw [Expr.Blank] at blank
    obtain ⟨operand, rfl⟩ := blank
    rw [Expr.rename, operand.rename]
    rfl
  | .chain path, blank => by
    rw [Expr.Blank] at blank
    rw [Expr.rename, blank.rename]
  | .literal kind span type, blank => by
    rw [Expr.Blank] at blank
    rw [Expr.rename, blank]
    rfl
  | .new keyword path, blank => by
    rw [Expr.Blank] at blank
    rw [Expr.rename, blank.rename]
  | .newArray keyword element, blank => by
    rw [Expr.Blank] at blank
    rw [Expr.rename, blank.rename]
  | .nothing span, _ => by rw [Expr.rename]
  | .missing span, _ => by rw [Expr.rename]

lemma Expression.Blank.rename : ∀ {x : Expression}, x.Blank → x.rename ξ = x
  | ⟨root, type⟩, blank => by
    rw [Expression.Blank] at blank
    obtain ⟨root, rfl⟩ := blank
    rw [Expression.rename, root.rename]
    rfl

lemma Chain.Blank.rename : ∀ {x : Chain}, x.Blank → x.rename ξ = x
  | ⟨links, span, type⟩, blank => by
    rw [Chain.Blank] at blank
    obtain ⟨links, rfl⟩ := blank
    rw [Chain.rename, linksBlank_rename links]
    rfl

lemma linksBlank_rename : ∀ {x : List Link}, linksBlank x → linksRename ξ x = x
  | [], _ => by rw [linksRename]
  | link :: rest, blank => by
    rw [linksBlank] at blank
    rw [linksRename, blank.1.rename, linksBlank_rename blank.2]

lemma Link.Blank.rename : ∀ {x : Link}, x.Blank → x.rename ξ = x
  | .name identifier, blank => by
    rw [Link.Blank] at blank
    rw [Link.rename, Identifier.rename_of_unbound blank]
  | .index identifier index close, blank => by
    rw [Link.Blank] at blank
    rw [Link.rename, Identifier.rename_of_unbound blank.1, blank.2.rename]
  | .call identifier written arguments close, blank => by
    rw [Link.Blank] at blank
    rw [Link.rename, Identifier.rename_of_unbound blank.1, argumentsBlank_rename blank.2.2]
    cases written with
    | none => rfl
    | some list => rw [Option.map_some, typesBlank_rename (show typesBlank list from blank.2.1)]

lemma argumentsBlank_rename : ∀ {x : List Expression}, argumentsBlank x → argumentsRename ξ x = x
  | [], _ => by rw [argumentsRename]
  | argument :: rest, blank => by
    rw [argumentsBlank] at blank
    rw [argumentsRename, blank.1.rename, argumentsBlank_rename blank.2]

end

/-- There are no types in a blank expression that is a statement. -/
lemma Expression.BlankStatement.rename {x : Expression} (blank : x.BlankStatement) : x.rename ξ = x := by
  unfold Expression.BlankStatement at blank
  split at blank
  · obtain ⟨⟨left, right, rfl⟩, rfl⟩ := blank
    rw [Expression.rename, Expr.rename, left.rename, right.rename]
    rfl
  · exact blank.rename

/-- There are no types in a blank expression that may be absent. -/
lemma map_rename_of_blank {value : Option Expression} (blank : ∀ x ∈ value, x.Blank) :
    value.map (Expression.rename ξ) = value := by
  cases value with
  | none => rfl
  | some x => rw [Option.map_some, (blank x rfl).rename]

/-- There are no types in a blank written type that may be absent. -/
lemma map_rename_of_blank_type {written : Option TypeRef} (blank : ∀ x ∈ written, x.Blank) :
    written.map (TypeRef.rename ξ) = written := by
  cases written with
  | none => rfl
  | some x => rw [Option.map_some, (blank x rfl).rename]

/-- There are no types in a blank declaration. -/
lemma Declaration.Blank.rename {declaration : Declaration} (blank : declaration.Blank) :
    declaration.rename ξ = declaration := by
  obtain ⟨written, initial, type⟩ := blank
  rw [Declaration.rename, map_rename_of_blank_type written, map_rename_of_blank initial, type, Option.map_none,
    ← type]

mutual

/-- There are no types in a blank block. -/
lemma Block.Blank.rename : ∀ {x : Block}, x.Blank → x.rename ξ = x
  | ⟨id, kind, statements, span⟩, blank => by
    rw [Block.Blank] at blank
    rw [Block.rename, statementsBlank_rename blank]

lemma statementsBlank_rename : ∀ {x : List Statement}, statementsBlank x → statementsRename ξ x = x
  | [], _ => by rw [statementsRename]
  | statement :: rest, blank => by
    rw [statementsBlank] at blank
    rw [statementsRename, blank.1.rename, statementsBlank_rename blank.2]

lemma Statement.Blank.rename : ∀ {x : Statement}, x.Blank → x.rename ξ = x
  | .type definition, blank => by
    rw [Statement.Blank] at blank
    rw [Statement.rename, blank.rename]
  | .function definition, blank => by
    rw [Statement.Blank] at blank
    rw [Statement.rename, blank.rename]
  | .variable declaration, blank => by
    rw [Statement.Blank] at blank
    rw [Statement.rename, blank.rename]
  | .returning keyword value, blank => by
    rw [Statement.Blank] at blank
    rw [Statement.rename, map_rename_of_blank blank]
  | .whileLoop keyword condition body, blank => by
    rw [Statement.Blank] at blank
    rw [Statement.rename, blank.1.rename, blank.2.rename]
  | .conditional conditional, blank => by
    rw [Statement.Blank] at blank
    rw [Statement.rename, blank.rename]
  | .expression expression, blank => by
    rw [Statement.Blank] at blank
    rw [Statement.rename, blank.rename]
  | .importing keyword target, blank => by
    rw [Statement.Blank] at blank
    rw [Statement.rename, blank.rename]
  | .path keyword target, blank => by
    rw [Statement.Blank] at blank
    rw [Statement.rename, blank.rename]
  | .breaking keyword, _ => by rw [Statement.rename]
  | .continuing keyword, _ => by rw [Statement.rename]

lemma Conditional.Blank.rename : ∀ {x : Conditional}, x.Blank → x.rename ξ = x
  | ⟨condition, body, otherwise, keyword⟩, blank => by
    rw [Conditional.Blank] at blank
    rw [Conditional.rename, blank.1.rename, blank.2.1.rename, blank.2.2.rename]

lemma Otherwise.Blank.rename : ∀ {x : Otherwise}, x.Blank → x.rename ξ = x
  | .nothing, _ => by rw [Otherwise.rename]
  | .conditional conditional, blank => by
    rw [Otherwise.Blank] at blank
    rw [Otherwise.rename, blank.rename]
  | .block block, blank => by
    rw [Otherwise.Blank] at blank
    rw [Otherwise.rename, blank.rename]

lemma FunctionDef.Blank.rename : ∀ {x : FunctionDef}, x.Blank → x.rename ξ = x
  | ⟨id, name, typeParameters, parameters, returns, body, keyword⟩, blank => by
    rw [FunctionDef.Blank] at blank
    obtain ⟨list, returns, body⟩ := blank
    have parameters : parameters.map (Parameter.rename ξ) = parameters :=
      (List.map_congr_left fun parameter mem => by
        rw [Parameter.rename, (list parameter mem).rename]
        rfl).trans (List.map_id _)
    rw [FunctionDef.rename, parameters, map_rename_of_blank_type returns, body.rename]

lemma functionsBlank_rename : ∀ {x : List FunctionDef}, functionsBlank x → functionsRename ξ x = x
  | [], _ => by rw [functionsRename]
  | definition :: rest, blank => by
    rw [functionsBlank] at blank
    rw [functionsRename, blank.1.rename, functionsBlank_rename blank.2]

lemma TypeDef.Blank.rename : ∀ {x : TypeDef}, x.Blank → x.rename ξ = x
  | ⟨id, name, typeParameters, fields, methods, keyword, binding⟩, blank => by
    rw [TypeDef.Blank] at blank
    obtain ⟨list, methods, rfl⟩ := blank
    have fields : fields.map (Declaration.rename ξ) = fields :=
      (List.map_congr_left fun field mem => (list field mem).rename).trans (List.map_id _)
    rw [TypeDef.rename, fields, functionsBlank_rename methods]
    rfl

end

end ArrowScript
