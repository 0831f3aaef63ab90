import ArrowScript.Proofs.Grammar.Kinds

/-!
# Blank trees

Parsing leaves everything empty that the analysis fills in later, and it makes assignments only of whole
statements. Trees of this kind are called blank.
-/

namespace ArrowScript

/-! ## Written types and expressions -/

mutual

/-- Nothing is filled in in a written type. -/
def TypeRef.Blank : TypeRef → Prop
  | ⟨_, _, arguments, _, binding⟩ => binding = none ∧ typesBlank arguments

/-- Nothing is filled in in some written types. -/
def typesBlank : List TypeRef → Prop
  | [] => True
  | written :: rest => written.Blank ∧ typesBlank rest

end

mutual

/-- Nothing is filled in in an expression, and it assigns nothing. -/
def Expr.Blank : Expr → Prop
  | .binary operator _ left right type => operator ≠ .assign ∧ left.Blank ∧ right.Blank ∧ type = none
  | .unary _ _ operand type => operand.Blank ∧ type = none
  | .chain path => path.Blank
  | .literal _ _ type => type = none
  | .new _ path => path.Blank
  | .newArray _ element => element.Blank
  | .nothing _ | .missing _ => True

/-- Nothing is filled in in a whole expression, and it assigns nothing. -/
def Expression.Blank : Expression → Prop
  | ⟨root, type⟩ => root.Blank ∧ type = none

/-- Nothing is filled in in a chain. -/
def Chain.Blank : Chain → Prop
  | ⟨links, _, type⟩ => linksBlank links ∧ type = none

/-- Nothing is filled in in some links. -/
def linksBlank : List Link → Prop
  | [] => True
  | link :: rest => link.Blank ∧ linksBlank rest

/-- Nothing is filled in in a link. -/
def Link.Blank : Link → Prop
  | .name identifier => identifier.binding = none
  | .index identifier index _ => identifier.binding = none ∧ index.Blank
  | .call identifier written arguments _ =>
    identifier.binding = none ∧ typesBlank (written.getD []) ∧ argumentsBlank arguments

/-- Nothing is filled in in some arguments. -/
def argumentsBlank : List Expression → Prop
  | [] => True
  | argument :: rest => argument.Blank ∧ argumentsBlank rest

end

/-! ## Statements -/

/-- Nothing is filled in in an expression that is a statement; it may be an assignment. -/
def Expression.BlankStatement : Expression → Prop
  | ⟨.binary .assign _ left right type, whole⟩ => (left.Blank ∧ right.Blank ∧ type = none) ∧ whole = none
  | other => other.Blank

/-- Nothing is filled in in a declaration. -/
structure Declaration.Blank (declaration : Declaration) : Prop where
  written : ∀ written ∈ declaration.written, written.Blank
  initial : ∀ value ∈ declaration.initial, value.Blank
  type : declaration.type = none

mutual

/-- Nothing is filled in in a block. -/
def Block.Blank : Block → Prop
  | ⟨_, _, statements, _⟩ => statementsBlank statements

/-- Nothing is filled in in some statements. -/
def statementsBlank : List Statement → Prop
  | [] => True
  | statement :: rest => statement.Blank ∧ statementsBlank rest

/-- Nothing is filled in in a statement. -/
def Statement.Blank : Statement → Prop
  | .type definition => definition.Blank
  | .function definition => definition.Blank
  | .variable declaration => declaration.Blank
  | .returning _ value? => ∀ value ∈ value?, Expression.Blank value
  | .whileLoop _ condition body => condition.Blank ∧ body.Blank
  | .conditional conditional => conditional.Blank
  | .expression expression => expression.BlankStatement
  | .importing _ target | .path _ target => target.Blank
  | .breaking _ | .continuing _ => True

/-- Nothing is filled in in a conditional. -/
def Conditional.Blank : Conditional → Prop
  | ⟨condition, body, otherwise, _⟩ => condition.Blank ∧ body.Blank ∧ otherwise.Blank

/-- Nothing is filled in in what is done when a condition fails. -/
def Otherwise.Blank : Otherwise → Prop
  | .nothing => True
  | .conditional conditional => conditional.Blank
  | .block block => block.Blank

/-- Nothing is filled in in a function. -/
def FunctionDef.Blank : FunctionDef → Prop
  | ⟨_, _, _, parameters, returns, body, _⟩ =>
    (∀ parameter ∈ parameters, parameter.written.Blank) ∧ (∀ written ∈ returns, written.Blank) ∧ body.Blank

/-- Nothing is filled in in some functions. -/
def functionsBlank : List FunctionDef → Prop
  | [] => True
  | definition :: rest => definition.Blank ∧ functionsBlank rest

/-- Nothing is filled in in a type. -/
def TypeDef.Blank : TypeDef → Prop
  | ⟨_, _, _, fields, methods, _, binding⟩ =>
    (∀ field ∈ fields, field.Blank) ∧ functionsBlank methods ∧ binding = none

end

/-! ## Parsing -/

/-- Written types are blank if each of them is. -/
lemma typesBlank_iff {list : List TypeRef} : typesBlank list ↔ ∀ written ∈ list, written.Blank := by
  induction list with
  | nil => simp [typesBlank]
  | cons written rest ih => simp [typesBlank, ih]

/-- Links are blank if each of them is. -/
lemma linksBlank_iff {list : List Link} : linksBlank list ↔ ∀ link ∈ list, link.Blank := by
  induction list with
  | nil => simp [linksBlank]
  | cons link rest ih => simp [linksBlank, ih]

/-- Arguments are blank if each of them is. -/
lemma argumentsBlank_iff {list : List Expression} : argumentsBlank list ↔ ∀ argument ∈ list, argument.Blank := by
  induction list with
  | nil => simp [argumentsBlank]
  | cons argument rest ih => simp [argumentsBlank, ih]

/-- Statements are blank if each of them is. -/
lemma statementsBlank_iff {list : List Statement} :
    statementsBlank list ↔ ∀ statement ∈ list, statement.Blank := by
  induction list with
  | nil => simp [statementsBlank]
  | cons statement rest ih => simp [statementsBlank, ih]

/-- Functions are blank if each of them is. -/
lemma functionsBlank_iff {list : List FunctionDef} :
    functionsBlank list ↔ ∀ definition ∈ list, definition.Blank := by
  induction list with
  | nil => simp [functionsBlank]
  | cons definition rest ih => simp [functionsBlank, ih]

namespace Grammar

/-- Trees in which nothing is filled in. -/
def blank : Kinds where
  written := TypeRef.Blank
  expr := Expr.Blank
  link := Link.Blank
  path := Chain.Blank
  declaration := Declaration.Blank
  statement := Statement.Blank
  block := Block.Blank
  conditional := Conditional.Blank
  otherwise := Otherwise.Blank
  function := FunctionDef.Blank
  type := TypeDef.Blank

/-- A whole expression is blank if its root is and it has no type. -/
lemma expression_blank {x : Expression} : blank.expression x ↔ x.Blank := by
  cases x
  rw [Expression.Blank]
  rfl

/-- Blank trees are put together from blank trees. -/
lemma blank_closed : blank.Closed where
  written _ _ _ _ arguments := by
    simp only [blank, TypeRef.Blank, typesBlank_iff]
    exact ⟨trivial, arguments⟩
  binary _ _ _ operator left right := by
    simp only [blank, Expr.Blank]
    exact ⟨operator, left, right, trivial⟩
  unary _ _ _ operand := by
    simp only [blank, Expr.Blank]
    exact ⟨operand, trivial⟩
  chain path := path
  literal _ _ := by
    simp only [blank, Expr.Blank]
  new _ _ _ path := path
  newArray _ _ element := by
    simp only [blank, Expr.Blank]
    exact expression_blank.mp element
  nothing _ := trivial
  missing _ := trivial
  name _ := rfl
  index _ _ _ index := by
    simp only [blank, Link.Blank]
    exact ⟨rfl, expression_blank.mp index⟩
  call _ _ _ _ types arguments := by
    simp only [blank, Link.Blank, typesBlank_iff, argumentsBlank_iff]
    exact ⟨rfl, types, fun argument mem => expression_blank.mp (arguments argument mem)⟩
  path _ _ links := by
    simp only [blank, Chain.Blank, linksBlank_iff]
    exact ⟨links, trivial⟩
  declaration _ _ _ _ written initial := ⟨written, fun value mem => expression_blank.mp (initial value mem), rfl⟩
  definesType definition := definition
  definesFunction definition := definition
  declares declaration := declaration
  returning _ _ value := by
    simp only [blank, Statement.Blank]
    exact fun x mem => expression_blank.mp (value x mem)
  whileLoop _ _ _ condition body := by
    simp only [blank, Statement.Blank]
    exact ⟨expression_blank.mp condition, body⟩
  decides conditional := conditional
  assigns _ _ _ target value := by
    simp only [blank, Statement.Blank, Expression.untyped, Expression.BlankStatement, Expr.Blank]
    exact ⟨⟨target, value, trivial⟩, trivial⟩
  calls target := by
    simpa [blank, Statement.Blank, Expression.untyped, Expression.BlankStatement, Expression.Blank, Expr.Blank]
      using target
  importing _ _ target := target
  locates _ _ target := target
  breaking _ := trivial
  continuing _ := trivial
  block _ _ _ _ statements := by
    simp only [blank, Block.Blank, statementsBlank_iff]
    exact statements
  conditional _ _ _ _ condition body otherwise := by
    simp only [blank, Conditional.Blank]
    exact ⟨expression_blank.mp condition, body, otherwise⟩
  otherwiseNothing := trivial
  otherwiseConditional conditional := conditional
  otherwiseBlock block := block
  function _ _ _ _ _ _ _ parameters returns body := by
    simp only [blank, FunctionDef.Blank]
    exact ⟨parameters, returns, body⟩
  type _ _ _ _ _ _ fields methods := by
    simp only [blank, TypeDef.Blank, functionsBlank_iff]
    exact ⟨fields, methods, trivial⟩

/-- A program is parsed blank. -/
theorem parse_blank (tokens : List Token) : (parse tokens).program.root.Blank :=
  parse_always blank_closed tokens

end Grammar

end ArrowScript
