import ArrowScript.Proofs.Grammar.Blank

/-!
# Trees without what the analysis fills in

Erasing takes everything out of a tree that the analysis fills in: what names and written types stand for, and the
types of expressions, variables and definitions. A blank tree is not changed by it. `Block.untouched` lists the parts
of a program that the analysis leaves alone.
-/

namespace ArrowScript

/-! ## Written types and expressions -/

mutual

/-- A written type with nothing filled in. -/
def TypeRef.erased : TypeRef → TypeRef
  | ⟨name, builtin, arguments, array, _⟩ => ⟨name, builtin, typesErased arguments, array, none⟩

/-- Some written types with nothing filled in. -/
def typesErased : List TypeRef → List TypeRef
  | [] => []
  | written :: rest => written.erased :: typesErased rest

end

/-- Filling in the type that a written type stands for makes no difference once it is erased. -/
lemma TypeRef.erased_binding (written : TypeRef) (type : Option TypeId) :
    TypeRef.erased { written with binding := type } = written.erased := by
  obtain ⟨name, builtin, arguments, array, binding⟩ := written
  rw [TypeRef.erased, TypeRef.erased]

/-- A name that does not stand for anything. -/
def Identifier.erased (identifier : Identifier) : Identifier :=
  { identifier with binding := none }

mutual

/-- An expression with nothing filled in. -/
def Expr.erased : Expr → Expr
  | .binary operator operatorSpan left right _ => .binary operator operatorSpan left.erased right.erased none
  | .unary operator operatorSpan operand _ => .unary operator operatorSpan operand.erased none
  | .chain path => .chain path.erased
  | .literal kind span _ => .literal kind span none
  | .new keyword path => .new keyword path.erased
  | .newArray keyword element => .newArray keyword element.erased
  | .nothing span => .nothing span
  | .missing span => .missing span

/-- A whole expression with nothing filled in. -/
def Expression.erased : Expression → Expression
  | ⟨root, _⟩ => ⟨root.erased, none⟩

/-- A chain with nothing filled in. -/
def Chain.erased : Chain → Chain
  | ⟨links, span, _⟩ => ⟨linksErased links, span, none⟩

/-- Some links with nothing filled in. -/
def linksErased : List Link → List Link
  | [] => []
  | link :: rest => link.erased :: linksErased rest

/-- A link with nothing filled in. -/
def Link.erased : Link → Link
  | .name identifier => .name identifier.erased
  | .index identifier index close => .index identifier.erased index.erased close
  | .call identifier written arguments close =>
    .call identifier.erased (written.map typesErased) (argumentsErased arguments) close

/-- Some arguments with nothing filled in. -/
def argumentsErased : List Expression → List Expression
  | [] => []
  | argument :: rest => argument.erased :: argumentsErased rest

end

/-! ## Statements -/

/-- A declaration with nothing filled in. -/
def Declaration.erased : Declaration → Declaration
  | ⟨id, name, written, initial, _⟩ => ⟨id, name, written.map TypeRef.erased, initial.map Expression.erased, none⟩

/-- A parameter with nothing filled in. -/
def Parameter.erased : Parameter → Parameter
  | ⟨id, name, written⟩ => ⟨id, name, written.erased⟩

mutual

/-- A block with nothing filled in. -/
def Block.erased : Block → Block
  | ⟨id, kind, statements, span⟩ => ⟨id, kind, statementsErased statements, span⟩

/-- Some statements with nothing filled in. -/
def statementsErased : List Statement → List Statement
  | [] => []
  | statement :: rest => statement.erased :: statementsErased rest

/-- A statement with nothing filled in. -/
def Statement.erased : Statement → Statement
  | .type definition => .type definition.erased
  | .function definition => .function definition.erased
  | .variable declaration => .variable declaration.erased
  | .returning keyword value => .returning keyword (value.map Expression.erased)
  | .whileLoop keyword condition body => .whileLoop keyword condition.erased body.erased
  | .conditional conditional => .conditional conditional.erased
  | .expression expression => .expression expression.erased
  | .importing keyword target => .importing keyword target.erased
  | .path keyword target => .path keyword target.erased
  | .breaking keyword => .breaking keyword
  | .continuing keyword => .continuing keyword

/-- A conditional with nothing filled in. -/
def Conditional.erased : Conditional → Conditional
  | ⟨condition, body, otherwise, keyword⟩ => ⟨condition.erased, body.erased, otherwise.erased, keyword⟩

/-- What is done when a condition fails, with nothing filled in. -/
def Otherwise.erased : Otherwise → Otherwise
  | .nothing => .nothing
  | .conditional conditional => .conditional conditional.erased
  | .block block => .block block.erased

/-- A function with nothing filled in. -/
def FunctionDef.erased : FunctionDef → FunctionDef
  | ⟨id, name, typeParameters, parameters, returns, body, keyword⟩ =>
    ⟨id, name, typeParameters, parameters.map Parameter.erased, returns.map TypeRef.erased, body.erased, keyword⟩

/-- Some functions with nothing filled in. -/
def functionsErased : List FunctionDef → List FunctionDef
  | [] => []
  | definition :: rest => definition.erased :: functionsErased rest

/-- A type with nothing filled in. -/
def TypeDef.erased : TypeDef → TypeDef
  | ⟨id, name, typeParameters, fields, methods, keyword, _⟩ =>
    ⟨id, name, typeParameters, fields.map Declaration.erased, functionsErased methods, keyword, none⟩

end

/-- A program with nothing filled in. -/
def Program.erased (program : Program) : Program :=
  { program with root := program.root.erased }

/-! ## Blank trees -/

mutual

/-- A blank written type is not changed. -/
lemma TypeRef.Blank.erased : ∀ {written : TypeRef}, written.Blank → written.erased = written
  | ⟨_, _, _, _, _⟩, blank => by
    obtain ⟨rfl, blank⟩ := blank
    rw [TypeRef.erased, typesBlank.erased blank]

lemma typesBlank.erased : ∀ {list : List TypeRef}, typesBlank list → typesErased list = list
  | [], _ => rfl
  | _ :: _, blank => by
    rw [typesErased, blank.1.erased, typesBlank.erased blank.2]

end

/-- A name that does not stand for anything stays as it is. -/
lemma Identifier.erased_of_unbound {identifier : Identifier} (unbound : identifier.binding = none) :
    identifier.erased = identifier := by
  obtain ⟨span, binding⟩ := identifier
  obtain rfl : binding = none := unbound
  rfl

mutual

/-- A blank expression is not changed. -/
lemma Expr.Blank.erased : ∀ {expr : Expr}, expr.Blank → expr.erased = expr
  | .binary .., blank => by
    obtain ⟨-, left, right, rfl⟩ := blank
    rw [Expr.erased, left.erased, right.erased]
  | .unary .., blank => by
    obtain ⟨operand, rfl⟩ := blank
    rw [Expr.erased, operand.erased]
  | .chain path, blank => by rw [Expr.erased, Chain.Blank.erased blank]
  | .literal .., blank => by
    obtain rfl := blank
    rfl
  | .new _ path, blank => by rw [Expr.erased, Chain.Blank.erased blank]
  | .newArray _ element, blank => by rw [Expr.erased, Expression.Blank.erased blank]
  | .nothing _, _ | .missing _, _ => rfl

lemma Expression.Blank.erased : ∀ {expression : Expression}, expression.Blank → expression.erased = expression
  | ⟨_, _⟩, blank => by
    obtain ⟨root, rfl⟩ := blank
    rw [Expression.erased, root.erased]

lemma Chain.Blank.erased : ∀ {chain : Chain}, chain.Blank → chain.erased = chain
  | ⟨_, _, _⟩, blank => by
    obtain ⟨links, rfl⟩ := blank
    rw [Chain.erased, linksBlank.erased links]

lemma linksBlank.erased : ∀ {links : List Link}, linksBlank links → linksErased links = links
  | [], _ => rfl
  | _ :: _, blank => by rw [linksErased, blank.1.erased, linksBlank.erased blank.2]

lemma Link.Blank.erased : ∀ {link : Link}, link.Blank → link.erased = link
  | .name _, blank => by rw [Link.erased, Identifier.erased_of_unbound blank]
  | .index .., blank => by rw [Link.erased, Identifier.erased_of_unbound blank.1, blank.2.erased]
  | .call _ written _ _, blank => by
    obtain ⟨unbound, types, arguments⟩ := blank
    rw [Link.erased, Identifier.erased_of_unbound unbound, argumentsBlank.erased arguments]
    cases written with
    | none => rfl
    | some written =>
      have same : typesErased written = written := typesBlank.erased types
      rw [Option.map_some, same]

lemma argumentsBlank.erased : ∀ {arguments : List Expression}, argumentsBlank arguments →
    argumentsErased arguments = arguments
  | [], _ => rfl
  | _ :: _, blank => by rw [argumentsErased, blank.1.erased, argumentsBlank.erased blank.2]

end

/-- Neither is one that is a statement. -/
lemma Expression.BlankStatement.erased {expression : Expression} (blank : expression.BlankStatement) :
    expression.erased = expression := by
  unfold Expression.BlankStatement at blank
  split at blank
  · obtain ⟨⟨left, right, rfl⟩, rfl⟩ := blank
    rw [Expression.erased, Expr.erased, left.erased, right.erased]
  · exact Expression.Blank.erased blank

/-- A list whose elements are not changed is not changed. -/
lemma map_eq_self {α : Type} {f : α → α} {list : List α} (same : ∀ a ∈ list, f a = a) : list.map f = list :=
  (List.map_congr_left same).trans (List.map_id list)

/-- An optional part that is not changed. -/
lemma optionMap_eq_self {α : Type} {f : α → α} {part : Option α} (same : ∀ a ∈ part, f a = a) : part.map f = part :=
  (Option.map_congr same).trans (congrFun Option.map_id part)

/-- A blank declaration is not changed. -/
lemma Declaration.Blank.erased {declaration : Declaration} (blank : declaration.Blank) :
    declaration.erased = declaration := by
  obtain ⟨id, name, written, initial, type⟩ := declaration
  obtain ⟨types, initials, rfl⟩ := blank
  rw [Declaration.erased, optionMap_eq_self fun written mem => (types written mem).erased,
    optionMap_eq_self fun value mem => (initials value mem).erased]

mutual

/-- A blank block is not changed. -/
lemma Block.Blank.erased : ∀ {block : Block}, block.Blank → block.erased = block
  | ⟨_, _, _, _⟩, blank => by rw [Block.erased, statementsBlank.erased blank]

lemma statementsBlank.erased : ∀ {list : List Statement}, statementsBlank list → statementsErased list = list
  | [], _ => rfl
  | _ :: _, blank => by rw [statementsErased, blank.1.erased, statementsBlank.erased blank.2]

lemma Statement.Blank.erased : ∀ {statement : Statement}, statement.Blank → statement.erased = statement
  | .type _, blank => by rw [Statement.erased, TypeDef.Blank.erased blank]
  | .function _, blank => by rw [Statement.erased, FunctionDef.Blank.erased blank]
  | .variable _, blank => by rw [Statement.erased, Declaration.Blank.erased blank]
  | .returning .., blank => by
    rw [Statement.erased, optionMap_eq_self fun value mem => Expression.Blank.erased (blank value mem)]
  | .whileLoop .., blank => by rw [Statement.erased, blank.1.erased, blank.2.erased]
  | .conditional _, blank => by rw [Statement.erased, Conditional.Blank.erased blank]
  | .expression _, blank => by rw [Statement.erased, Expression.BlankStatement.erased blank]
  | .importing .., blank | .path .., blank => by rw [Statement.erased, Chain.Blank.erased blank]
  | .breaking _, _ | .continuing _, _ => rfl

lemma Conditional.Blank.erased : ∀ {conditional : Conditional}, conditional.Blank → conditional.erased = conditional
  | ⟨_, _, _, _⟩, blank => by rw [Conditional.erased, blank.1.erased, blank.2.1.erased, blank.2.2.erased]

lemma Otherwise.Blank.erased : ∀ {otherwise : Otherwise}, otherwise.Blank → otherwise.erased = otherwise
  | .nothing, _ => rfl
  | .conditional _, blank => by rw [Otherwise.erased, Conditional.Blank.erased blank]
  | .block _, blank => by rw [Otherwise.erased, Block.Blank.erased blank]

lemma FunctionDef.Blank.erased : ∀ {definition : FunctionDef}, definition.Blank → definition.erased = definition
  | ⟨_, _, _, parameters, _, _, _⟩, blank => by
    obtain ⟨types, returned, body⟩ := blank
    have same : parameters.map Parameter.erased = parameters := map_eq_self fun parameter mem => by
      rw [Parameter.erased, (types parameter mem).erased]
    rw [FunctionDef.erased, same, optionMap_eq_self fun written mem => (returned written mem).erased, body.erased]

lemma functionsBlank.erased : ∀ {list : List FunctionDef}, functionsBlank list → functionsErased list = list
  | [], _ => rfl
  | _ :: _, blank => by rw [functionsErased, blank.1.erased, functionsBlank.erased blank.2]

lemma TypeDef.Blank.erased : ∀ {definition : TypeDef}, definition.Blank → definition.erased = definition
  | ⟨_, _, _, _, _, _, _⟩, blank => by
    obtain ⟨fields, methods, rfl⟩ := blank
    rw [TypeDef.erased, map_eq_self fun field mem => (fields field mem).erased, functionsBlank.erased methods]

end

/-! ## What the analysis leaves alone -/

mutual

/-- The statements in a block that the analysis leaves alone: imports, paths and the definitions inside functions. -/
def Block.untouched (nested : Bool) : Block → List Statement
  | ⟨_, _, statements, _⟩ => statementsUntouched nested statements

/-- The statements that the analysis leaves alone, in or among some statements. -/
def statementsUntouched (nested : Bool) : List Statement → List Statement
  | [] => []
  | statement :: rest => statement.untouched nested ++ statementsUntouched nested rest

/-- The statements that the analysis leaves alone, in a statement or all of it. -/
def Statement.untouched (nested : Bool) : Statement → List Statement
  | .type definition => if nested then [.type definition] else definition.untouched
  | .function definition => if nested then [.function definition] else definition.untouched
  | .whileLoop _ _ body => body.untouched nested
  | .conditional conditional => conditional.untouched nested
  | .importing keyword target => [.importing keyword target]
  | .path keyword target => [.path keyword target]
  | .variable _ | .returning .. | .breaking _ | .continuing _ | .expression _ => []

/-- The statements in a conditional that the analysis leaves alone. -/
def Conditional.untouched (nested : Bool) : Conditional → List Statement
  | ⟨_, body, otherwise, _⟩ => body.untouched nested ++ otherwise.untouched nested

/-- The statements that the analysis leaves alone in what is done when a condition fails. -/
def Otherwise.untouched (nested : Bool) : Otherwise → List Statement
  | .nothing => []
  | .conditional conditional => conditional.untouched nested
  | .block block => block.untouched nested

/-- The statements in a function that the analysis leaves alone. -/
def FunctionDef.untouched : FunctionDef → List Statement
  | ⟨_, _, _, _, _, body, _⟩ => body.untouched true

/-- The statements in some functions that the analysis leaves alone. -/
def functionsUntouched : List FunctionDef → List Statement
  | [] => []
  | definition :: rest => definition.untouched ++ functionsUntouched rest

/-- The statements in the methods of a type that the analysis leaves alone. -/
def TypeDef.untouched : TypeDef → List Statement
  | ⟨_, _, _, _, methods, _, _⟩ => functionsUntouched methods

end

mutual

/-- What is left alone of a blank block is blank. -/
lemma Block.Blank.untouched (nested : Bool) : ∀ {block : Block}, block.Blank →
    ∀ statement ∈ block.untouched nested, statement.Blank
  | ⟨_, _, _, _⟩, blank => by
    rw [Block.untouched]
    exact statementsBlank.untouched nested blank

lemma statementsBlank.untouched (nested : Bool) : ∀ {list : List Statement}, statementsBlank list →
    ∀ statement ∈ statementsUntouched nested list, statement.Blank
  | [], _ => nofun
  | _ :: _, blank => by
    rw [statementsUntouched, List.forall_mem_append]
    exact ⟨blank.1.untouched nested, statementsBlank.untouched nested blank.2⟩

lemma Statement.Blank.untouched (nested : Bool) : ∀ {statement : Statement}, statement.Blank →
    ∀ inner ∈ statement.untouched nested, inner.Blank
  | .type definition, blank => by
    rw [Statement.untouched]
    split
    · exact List.forall_mem_singleton.mpr blank
    · exact TypeDef.Blank.untouched blank
  | .function definition, blank => by
    rw [Statement.untouched]
    split
    · exact List.forall_mem_singleton.mpr blank
    · exact FunctionDef.Blank.untouched blank
  | .whileLoop .., blank => by
    rw [Statement.untouched]
    exact blank.2.untouched nested
  | .conditional _, blank => by
    rw [Statement.untouched]
    exact Conditional.Blank.untouched nested blank
  | .importing .., blank | .path .., blank => by
    rw [Statement.untouched]
    exact List.forall_mem_singleton.mpr blank
  | .variable _, _ | .returning .., _ | .breaking _, _ | .continuing _, _ | .expression _, _ => nofun

lemma Conditional.Blank.untouched (nested : Bool) : ∀ {conditional : Conditional}, conditional.Blank →
    ∀ statement ∈ conditional.untouched nested, statement.Blank
  | ⟨_, _, _, _⟩, blank => by
    rw [Conditional.untouched, List.forall_mem_append]
    exact ⟨blank.2.1.untouched nested, blank.2.2.untouched nested⟩

lemma Otherwise.Blank.untouched (nested : Bool) : ∀ {otherwise : Otherwise}, otherwise.Blank →
    ∀ statement ∈ otherwise.untouched nested, statement.Blank
  | .nothing, _ => nofun
  | .conditional _, blank => by
    rw [Otherwise.untouched]
    exact Conditional.Blank.untouched nested blank
  | .block _, blank => by
    rw [Otherwise.untouched]
    exact Block.Blank.untouched nested blank

lemma FunctionDef.Blank.untouched : ∀ {definition : FunctionDef}, definition.Blank →
    ∀ statement ∈ definition.untouched, statement.Blank
  | ⟨_, _, _, _, _, _, _⟩, blank => by
    rw [FunctionDef.untouched]
    exact blank.2.2.untouched true

lemma functionsBlank.untouched : ∀ {list : List FunctionDef}, functionsBlank list →
    ∀ statement ∈ functionsUntouched list, statement.Blank
  | [], _ => nofun
  | _ :: _, blank => by
    rw [functionsUntouched, List.forall_mem_append]
    exact ⟨blank.1.untouched, functionsBlank.untouched blank.2⟩

lemma TypeDef.Blank.untouched : ∀ {definition : TypeDef}, definition.Blank →
    ∀ statement ∈ definition.untouched, statement.Blank
  | ⟨_, _, _, _, _, _, _⟩, blank => by
    rw [TypeDef.untouched]
    exact functionsBlank.untouched blank.2.1

end

end ArrowScript
