import ArrowScript.Proofs.Grammar.Kinds

/-!
# New values

Every chain that is parsed behind `new` starts with a call or an index, whatever else is wrong with the program.
-/

namespace ArrowScript

/-! ## Expressions -/

mutual

/-- The chains behind `new` in an expression start with brackets. -/
def Expr.Bracketed : Expr → Prop
  | .binary _ _ left right _ => left.Bracketed ∧ right.Bracketed
  | .unary _ _ operand _ => operand.Bracketed
  | .chain path => path.Bracketed
  | .new _ path => path.startsWithBrackets ∧ path.Bracketed
  | .newArray _ element => element.Bracketed
  | .literal .. | .nothing _ | .missing _ => True

/-- The chains behind `new` in a whole expression start with brackets. -/
def Expression.Bracketed : Expression → Prop
  | ⟨root, _⟩ => root.Bracketed

/-- The chains behind `new` in a chain start with brackets. -/
def Chain.Bracketed : Chain → Prop
  | ⟨links, _, _⟩ => linksBracketed links

/-- The chains behind `new` in some links start with brackets. -/
def linksBracketed : List Link → Prop
  | [] => True
  | link :: rest => link.Bracketed ∧ linksBracketed rest

/-- The chains behind `new` in a link start with brackets. -/
def Link.Bracketed : Link → Prop
  | .name _ => True
  | .index _ index _ => index.Bracketed
  | .call _ _ arguments _ => argumentsBracketed arguments

/-- The chains behind `new` in some arguments start with brackets. -/
def argumentsBracketed : List Expression → Prop
  | [] => True
  | argument :: rest => argument.Bracketed ∧ argumentsBracketed rest

end

/-! ## Statements -/

mutual

/-- The chains behind `new` in a block start with brackets. -/
def Block.Bracketed : Block → Prop
  | ⟨_, _, statements, _⟩ => statementsBracketed statements

/-- The chains behind `new` in some statements start with brackets. -/
def statementsBracketed : List Statement → Prop
  | [] => True
  | statement :: rest => statement.Bracketed ∧ statementsBracketed rest

/-- The chains behind `new` in a statement start with brackets. -/
def Statement.Bracketed : Statement → Prop
  | .type definition => definition.Bracketed
  | .function definition => definition.Bracketed
  | .variable declaration => ∀ value ∈ declaration.initial, value.Bracketed
  | .returning _ value? => ∀ value ∈ value?, Expression.Bracketed value
  | .whileLoop _ condition body => condition.Bracketed ∧ body.Bracketed
  | .conditional conditional => conditional.Bracketed
  | .expression expression => expression.Bracketed
  | .importing _ target | .path _ target => target.Bracketed
  | .breaking _ | .continuing _ => True

/-- The chains behind `new` in a conditional start with brackets. -/
def Conditional.Bracketed : Conditional → Prop
  | ⟨condition, body, otherwise, _⟩ => condition.Bracketed ∧ body.Bracketed ∧ otherwise.Bracketed

/-- The chains behind `new` in what is done when a condition fails start with brackets. -/
def Otherwise.Bracketed : Otherwise → Prop
  | .nothing => True
  | .conditional conditional => conditional.Bracketed
  | .block block => block.Bracketed

/-- The chains behind `new` in a function start with brackets. -/
def FunctionDef.Bracketed : FunctionDef → Prop
  | ⟨_, _, _, _, _, body, _⟩ => body.Bracketed

/-- The chains behind `new` in some functions start with brackets. -/
def functionsBracketed : List FunctionDef → Prop
  | [] => True
  | definition :: rest => definition.Bracketed ∧ functionsBracketed rest

/-- The chains behind `new` in a type start with brackets. -/
def TypeDef.Bracketed : TypeDef → Prop
  | ⟨_, _, _, fields, methods, _, _⟩ =>
    (∀ field ∈ fields, ∀ value ∈ Declaration.initial field, value.Bracketed) ∧ functionsBracketed methods

end

/-! ## Parsing -/

/-- Links have chains behind `new` that start with brackets if each of them does. -/
lemma linksBracketed_iff {list : List Link} : linksBracketed list ↔ ∀ link ∈ list, link.Bracketed := by
  induction list with
  | nil => simp [linksBracketed]
  | cons link rest ih => simp [linksBracketed, ih]

/-- Arguments have chains behind `new` that start with brackets if each of them does. -/
lemma argumentsBracketed_iff {list : List Expression} :
    argumentsBracketed list ↔ ∀ argument ∈ list, argument.Bracketed := by
  induction list with
  | nil => simp [argumentsBracketed]
  | cons argument rest ih => simp [argumentsBracketed, ih]

/-- Statements have chains behind `new` that start with brackets if each of them does. -/
lemma statementsBracketed_iff {list : List Statement} :
    statementsBracketed list ↔ ∀ statement ∈ list, statement.Bracketed := by
  induction list with
  | nil => simp [statementsBracketed]
  | cons statement rest ih => simp [statementsBracketed, ih]

/-- Functions have chains behind `new` that start with brackets if each of them does. -/
lemma functionsBracketed_iff {list : List FunctionDef} :
    functionsBracketed list ↔ ∀ definition ∈ list, definition.Bracketed := by
  induction list with
  | nil => simp [functionsBracketed]
  | cons definition rest ih => simp [functionsBracketed, ih]

namespace Grammar

/-- Trees in which the chains behind `new` start with brackets. -/
def bracketed : Kinds where
  written _ := True
  expr := Expr.Bracketed
  link := Link.Bracketed
  path := Chain.Bracketed
  declaration declaration := ∀ value ∈ declaration.initial, value.Bracketed
  statement := Statement.Bracketed
  block := Block.Bracketed
  conditional := Conditional.Bracketed
  otherwise := Otherwise.Bracketed
  function := FunctionDef.Bracketed
  type := TypeDef.Bracketed

/-- In a whole expression the chains behind `new` start with brackets if they do in its root. -/
lemma expression_bracketed {x : Expression} (h : bracketed.expression x) : x.Bracketed := by
  cases x
  rw [Expression.Bracketed]
  exact h.1

/-- The parser checks that a chain behind `new` starts with brackets. -/
lemma bracketed_closed : bracketed.Closed where
  written _ _ _ _ _ := trivial
  binary _ _ _ _ left right := by
    simp only [bracketed, Expr.Bracketed]
    exact ⟨left, right⟩
  unary _ _ _ operand := operand
  chain path := path
  literal _ _ := trivial
  new _ _ starts path := by
    simp only [bracketed, Expr.Bracketed]
    exact ⟨starts, path⟩
  newArray _ _ element := expression_bracketed element
  nothing _ := trivial
  missing _ := trivial
  name _ := trivial
  index _ _ _ index := expression_bracketed index
  call _ _ _ _ _ arguments := by
    simp only [bracketed, Link.Bracketed, argumentsBracketed_iff]
    exact fun argument mem => expression_bracketed (arguments argument mem)
  path _ _ links := by
    simp only [bracketed, Chain.Bracketed, linksBracketed_iff]
    exact links
  declaration _ _ _ _ _ initial value mem := expression_bracketed (initial value mem)
  definesType definition := definition
  definesFunction definition := definition
  declares declaration := declaration
  returning _ _ value := by
    simp only [bracketed, Statement.Bracketed]
    exact fun x mem => expression_bracketed (value x mem)
  whileLoop _ _ _ condition body := by
    simp only [bracketed, Statement.Bracketed]
    exact ⟨expression_bracketed condition, body⟩
  decides conditional := conditional
  assigns _ _ _ target value := by
    simp only [bracketed, Statement.Bracketed, Expression.untyped, Expression.Bracketed, Expr.Bracketed]
    exact ⟨target, value⟩
  calls target := target
  importing _ _ target := target
  locates _ _ target := target
  breaking _ := trivial
  continuing _ := trivial
  block _ _ _ _ statements := by
    simp only [bracketed, Block.Bracketed, statementsBracketed_iff]
    exact statements
  conditional _ _ _ _ condition body otherwise := by
    simp only [bracketed, Conditional.Bracketed]
    exact ⟨expression_bracketed condition, body, otherwise⟩
  otherwiseNothing := trivial
  otherwiseConditional conditional := conditional
  otherwiseBlock block := block
  function _ _ _ _ _ _ _ _ _ body := body
  type _ _ _ _ _ _ fields methods := by
    simp only [bracketed, TypeDef.Bracketed, functionsBracketed_iff]
    exact ⟨fields, methods⟩

/-- In a parsed program the chains behind `new` start with brackets. -/
theorem parse_bracketed (tokens : List Token) : (parse tokens).program.root.Bracketed :=
  parse_always bracketed_closed tokens

end Grammar

end ArrowScript
