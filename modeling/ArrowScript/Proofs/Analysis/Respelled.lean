import ArrowScript.Proofs.Analysis.RecastStatements
import ArrowScript.Proofs.Analysis.Respelling

/-!
# Spelling does not matter

Spelling names differently is to recast them and to leave all else as it is (`Recast.respelling`). A change of spelling
that goes unnoticed (`Respelling`) thereby goes unnoticed by the analysis: spelling the names of a program differently
and then analyzing it is the same as analyzing it and then spelling everything differently that comes of it
(`analyze_respell`), in every state of the analysis.
-/

namespace ArrowScript
open Analysis

/-- New spellings of names, and nothing else. -/
def Recast.respelling (spell : String → String) : Recast :=
  ⟨Span.respell spell, id, spell, TypeRegistry.respell spell⟩

variable {spell : String → String}

/-- Combined spans stay where spans stay. -/
lemma combine_id (first second : Span) : (id first).combine (id second) = (first.combine second).map id := by
  show first.combine second = _
  cases first.combine second <;> rfl

/-- A change of spelling that goes unnoticed recasts programs unnoticed. -/
lemma Respelling.unnoticed (respelling : Respelling spell) : (Recast.respelling spell).Unnoticed where
  content _ := rfl
  injective := respelling.injective
  builtin := respelling.builtin
  mangle := respelling.mangle
  combine := combine_id
  userNode? := TypeRegistry.userNode?_respell
  element? := TypeRegistry.element?_respell
  isGeneric := TypeRegistry.isGeneric_respell
  arrayOf := TypeRegistry.arrayOf_respell
  registerUser := TypeRegistry.registerUser_respell
  registerParameter := TypeRegistry.registerParameter_respell

/-! ## Trees -/

mutual

/-- A written type gets other names. -/
lemma TypeRef.respell_eq : ∀ x : TypeRef, x.respell spell = x.respan (Span.respell spell)
  | ⟨name, builtin, arguments, array, binding⟩ => by rw [TypeRef.respell, TypeRef.respan, typesRespell_eq arguments]

lemma typesRespell_eq : ∀ x : List TypeRef, typesRespell spell x = typesRespan (Span.respell spell) x
  | [] => rfl
  | written :: rest => by rw [typesRespell, typesRespan, written.respell_eq, typesRespell_eq rest]

end

mutual

/-- An expression gets other names. -/
lemma Expr.respell_eq : ∀ x : Expr, x.respell spell = x.respan (Span.respell spell) id
  | .binary operator operatorSpan left right type => by
    rw [Expr.respell, Expr.respan, left.respell_eq, right.respell_eq, id]
  | .unary operator operatorSpan operand type => by rw [Expr.respell, Expr.respan, operand.respell_eq, id]
  | .chain path => by rw [Expr.respell, Expr.respan, path.respell_eq]
  | .literal kind span type => by rw [Expr.respell, Expr.respan, id]
  | .new keyword path => by rw [Expr.respell, Expr.respan, path.respell_eq, id]
  | .newArray keyword element => by rw [Expr.respell, Expr.respan, element.respell_eq, id]
  | .nothing span => by rw [Expr.respell, Expr.respan, id]
  | .missing span => by rw [Expr.respell, Expr.respan, id]

lemma Expression.respell_eq : ∀ x : Expression, x.respell spell = x.respan (Span.respell spell) id
  | ⟨root, type⟩ => by rw [Expression.respell, Expression.respan, root.respell_eq]

lemma Chain.respell_eq : ∀ x : Chain, x.respell spell = x.respan (Span.respell spell) id
  | ⟨links, span, type⟩ => by rw [Chain.respell, Chain.respan, linksRespell_eq links, id]

lemma linksRespell_eq : ∀ x : List Link, linksRespell spell x = linksRespan (Span.respell spell) id x
  | [] => by rw [linksRespell, linksRespan]
  | link :: rest => by rw [linksRespell, linksRespan, link.respell_eq, linksRespell_eq rest]

lemma Link.respell_eq : ∀ x : Link, x.respell spell = x.respan (Span.respell spell) id
  | .name identifier => by
    rw [Link.respell, Link.respan]
    rfl
  | .index identifier index close => by
    rw [Link.respell, Link.respan, index.respell_eq]
    rfl
  | .call identifier written arguments close => by
    rw [Link.respell, Link.respan, argumentsRespell_eq arguments, funext typesRespell_eq]
    rfl

lemma argumentsRespell_eq :
    ∀ x : List Expression, argumentsRespell spell x = argumentsRespan (Span.respell spell) id x
  | [] => by rw [argumentsRespell, argumentsRespan]
  | argument :: rest => by rw [argumentsRespell, argumentsRespan, argument.respell_eq, argumentsRespell_eq rest]

end

/-- A declaration gets other names. -/
lemma declarationRespell_eq (x : Declaration) : x.respell spell = x.respan (Span.respell spell) id := by
  rw [Declaration.respell, Declaration.respan, funext TypeRef.respell_eq, funext Expression.respell_eq]

/-- A parameter gets other names. -/
lemma Parameter.respell_eq (x : Parameter) : x.respell spell = x.respan (Span.respell spell) := by
  rw [Parameter.respell, Parameter.respan, TypeRef.respell_eq]

mutual

/-- A block gets other names. -/
lemma Block.respell_eq : ∀ x : Block, x.respell spell = x.respan (Span.respell spell) id
  | ⟨id, kind, statements, span⟩ => by
    rw [Block.respell, Block.respan, statementsRespell_eq statements]
    rfl

lemma statementsRespell_eq :
    ∀ x : List Statement, statementsRespell spell x = statementsRespan (Span.respell spell) id x
  | [] => by rw [statementsRespell, statementsRespan]
  | statement :: rest => by rw [statementsRespell, statementsRespan, statement.respell_eq, statementsRespell_eq rest]

lemma Statement.respell_eq : ∀ x : Statement, x.respell spell = x.respan (Span.respell spell) id
  | .type definition => by rw [Statement.respell, Statement.respan, definition.respell_eq]
  | .function definition => by rw [Statement.respell, Statement.respan, definition.respell_eq]
  | .variable declaration => by rw [Statement.respell, Statement.respan, declarationRespell_eq]
  | .returning keyword value => by rw [Statement.respell, Statement.respan, funext Expression.respell_eq, id]
  | .breaking keyword => by rw [Statement.respell, Statement.respan, id]
  | .continuing keyword => by rw [Statement.respell, Statement.respan, id]
  | .whileLoop keyword condition body => by
    rw [Statement.respell, Statement.respan, condition.respell_eq, body.respell_eq, id]
  | .conditional conditional => by rw [Statement.respell, Statement.respan, conditional.respell_eq]
  | .importing keyword target => by rw [Statement.respell, Statement.respan, target.respell_eq, id]
  | .path keyword target => by rw [Statement.respell, Statement.respan, target.respell_eq, id]
  | .expression expression => by rw [Statement.respell, Statement.respan, expression.respell_eq]

lemma Conditional.respell_eq : ∀ x : Conditional, x.respell spell = x.respan (Span.respell spell) id
  | ⟨condition, body, otherwise, keyword⟩ => by
    rw [Conditional.respell, Conditional.respan, condition.respell_eq, body.respell_eq, otherwise.respell_eq, id]

lemma Otherwise.respell_eq : ∀ x : Otherwise, x.respell spell = x.respan (Span.respell spell) id
  | .nothing => by rw [Otherwise.respell, Otherwise.respan]
  | .conditional conditional => by rw [Otherwise.respell, Otherwise.respan, conditional.respell_eq]
  | .block block => by rw [Otherwise.respell, Otherwise.respan, block.respell_eq]

lemma FunctionDef.respell_eq : ∀ x : FunctionDef, x.respell spell = x.respan (Span.respell spell) id
  | ⟨id, name, typeParameters, parameters, returns, body, keyword⟩ => by
    rw [FunctionDef.respell, FunctionDef.respan, body.respell_eq, funext Parameter.respell_eq,
      funext TypeRef.respell_eq]
    rfl

lemma functionsRespell_eq :
    ∀ x : List FunctionDef, functionsRespell spell x = functionsRespan (Span.respell spell) id x
  | [] => by rw [functionsRespell, functionsRespan]
  | definition :: rest => by rw [functionsRespell, functionsRespan, definition.respell_eq, functionsRespell_eq rest]

lemma TypeDef.respell_eq : ∀ x : TypeDef, x.respell spell = x.respan (Span.respell spell) id
  | ⟨id, name, typeParameters, fields, methods, keyword, binding⟩ => by
    rw [TypeDef.respell, TypeDef.respan, functionsRespell_eq methods, funext declarationRespell_eq]
    rfl

end

/-- A program gets other names. -/
lemma Program.respell_eq (x : Program) : x.respell spell = x.respan (Span.respell spell) id := by
  rw [Program.respell, Program.respan, x.root.respell_eq]

/-! ## The state -/

/-- A declared function is respelled along with its signature. -/
lemma FunctionSymbol.respell_eq (symbol : FunctionSymbol) :
    symbol.respell spell = (Recast.respelling spell).functionSymbol symbol := by
  rw [FunctionSymbol.respell, funext TypeRef.respell_eq]
  rfl

/-- A declared variable is respelled along with its written type. -/
lemma VariableSymbol.respell_eq (symbol : VariableSymbol) :
    symbol.respell spell = (Recast.respelling spell).variableSymbol symbol := by
  rw [VariableSymbol.respell, funext TypeRef.respell_eq]
  rfl

/-- A scope gets other names. -/
lemma Scope.respell_eq (scope : Scope) : scope.respell spell = (Recast.respelling spell).scope scope := by
  rw [Scope.respell, funext FunctionSymbol.respell_eq, funext VariableSymbol.respell_eq]
  rfl

namespace Analysis

/-- A found problem gets other names. -/
lemma findingRespell_eq (finding : Finding SemanticProblem) :
    findingRespell spell finding = (Recast.respelling spell).finding finding := by
  obtain ⟨problem, span⟩ := finding
  cases problem <;> rfl

/-- What the analysis knows gets other names. -/
lemma State.respell_eq (s : State) : s.respell spell = (Recast.respelling spell).state s := by
  rw [State.respell, ScopeTable.respell, funext Scope.respell_eq, funext findingRespell_eq]
  rfl

/-- An analyzed program gets other names. -/
lemma Analyzed.respell_eq (analyzed : Analyzed) :
    analyzed.respell spell = (Recast.respelling spell).analyzed analyzed := by
  rw [Analyzed.respell, Program.respell_eq, State.respell_eq, funext findingRespell_eq]
  rfl

/-- A respelled program is analyzed in a respelled state to what the program is analyzed to, respelled. -/
lemma analyze_respell (unnoticed : Respelling spell) (s : State) (program : Program) :
    analyze (s.respell spell) (program.respell spell) = (analyze s program).respell spell := by
  rw [State.respell_eq, Program.respell_eq, Analyzed.respell_eq]
  exact analyze_recast unnoticed.unnoticed s program

end Analysis

end ArrowScript
