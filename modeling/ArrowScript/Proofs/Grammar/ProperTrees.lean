import ArrowScript.Grammar.Expression
import Mathlib.Tactic.Common

/-!
# Proper trees

A tree is proper for some tokens if it has all the parts that the grammar asks for and its names are those of
tokens of the right kind: definitions, parameters, type parameters and plain links are named by identifiers,
written types by names of types. Where a term could not be made out a tree has a gap; a proper tree has none.
-/

namespace ArrowScript

/-- A span is that of an identifier among some tokens. -/
def IsName (tokens : List Token) (span : Span) : Prop :=
  ∃ token ∈ tokens, token.kind = .identifier ∧ token.span = span

/-- A span is that of a token which may name a call or an index. -/
def IsBracketName (tokens : List Token) (span : Span) : Prop :=
  ∃ token ∈ tokens, Grammar.isLinkName token.kind ∧ token.span = span

/-- A span is that of a token which names a type; it is marked as built-in exactly if the token is. -/
def IsTypeName (tokens : List Token) (span : Span) (builtin : Bool) : Prop :=
  ∃ token ∈ tokens, token.kind.isTypeName ∧ builtin = token.kind.isBuiltinName ∧ token.span = span

/-! ## Gaps -/

mutual

/-- The number of missing terms in an expression. -/
def Expr.gaps : Expr → Nat
  | .binary _ _ left right _ => left.gaps + right.gaps
  | .unary _ _ operand _ => operand.gaps
  | .chain path | .new _ path => path.gaps
  | .newArray _ element => element.gaps
  | .literal .. | .nothing _ => 0
  | .missing _ => 1

/-- The number of missing terms in a whole expression. -/
def Expression.gaps : Expression → Nat
  | ⟨root, _⟩ => root.gaps

/-- The number of missing terms in a chain. -/
def Chain.gaps : Chain → Nat
  | ⟨links, _, _⟩ => linkGaps links

/-- The number of missing terms in some links. -/
def linkGaps : List Link → Nat
  | [] => 0
  | link :: rest => link.gaps + linkGaps rest

/-- The number of missing terms in a link. -/
def Link.gaps : Link → Nat
  | .name _ => 0
  | .index _ index _ => index.gaps
  | .call _ _ arguments _ => argumentGaps arguments

/-- The number of missing terms in some arguments. -/
def argumentGaps : List Expression → Nat
  | [] => 0
  | argument :: rest => argument.gaps + argumentGaps rest

end

/-- The number of missing terms in a declaration. -/
def Declaration.gaps (declaration : Declaration) : Nat :=
  declaration.initial.elim 0 Expression.gaps

/-- The number of missing terms in some declarations. -/
def declarationGaps : List Declaration → Nat
  | [] => 0
  | declaration :: rest => declaration.gaps + declarationGaps rest

mutual

/-- The number of missing terms in a block. -/
def Block.gaps : Block → Nat
  | ⟨_, _, statements, _⟩ => statementGaps statements

/-- The number of missing terms in some statements. -/
def statementGaps : List Statement → Nat
  | [] => 0
  | statement :: rest => statement.gaps + statementGaps rest

/-- The number of missing terms in a statement. -/
def Statement.gaps : Statement → Nat
  | .type definition => definition.gaps
  | .function definition => definition.gaps
  | .variable declaration => declaration.gaps
  | .returning _ value => value.elim 0 Expression.gaps
  | .whileLoop _ condition body => condition.gaps + body.gaps
  | .conditional conditional => conditional.gaps
  | .importing _ target | .path _ target => target.gaps
  | .expression expression => expression.gaps
  | .breaking _ | .continuing _ => 0

/-- The number of missing terms in a conditional. -/
def Conditional.gaps : Conditional → Nat
  | ⟨condition, body, otherwise, _⟩ => condition.gaps + body.gaps + otherwise.gaps

/-- The number of missing terms in what is done when a condition fails. -/
def Otherwise.gaps : Otherwise → Nat
  | .nothing => 0
  | .conditional conditional => conditional.gaps
  | .block block => block.gaps

/-- The number of missing terms in a function. -/
def FunctionDef.gaps : FunctionDef → Nat
  | ⟨_, _, _, _, _, body, _⟩ => body.gaps

/-- The number of missing terms in some functions. -/
def functionGaps : List FunctionDef → Nat
  | [] => 0
  | definition :: rest => definition.gaps + functionGaps rest

/-- The number of missing terms in a type. -/
def TypeDef.gaps : TypeDef → Nat
  | ⟨_, _, _, fields, methods, _, _⟩ => declarationGaps fields + functionGaps methods

end

/-! ## Written types -/

mutual

/-- A written type is named by the name of a type, and so are its arguments. -/
def TypeRef.Proper (tokens : List Token) : TypeRef → Prop
  | ⟨name, builtin, arguments, _, _⟩ => IsTypeName tokens name builtin ∧ typesProper tokens arguments

/-- All of some written types are proper. -/
def typesProper (tokens : List Token) : List TypeRef → Prop
  | [] => True
  | type :: rest => type.Proper tokens ∧ typesProper tokens rest

end

/-- Written types are proper if each of them is. -/
lemma typesProper_iff {tokens : List Token} {types : List TypeRef} :
    typesProper tokens types ↔ ∀ type ∈ types, type.Proper tokens := by
  induction types with
  | nil => simp [typesProper]
  | cons type rest ih => simp [typesProper, ih]

/-- The type parameters of a definition, if there are any, are at least one and named by identifiers. -/
def typeParametersProper (tokens : List Token) (names : Option (List Span)) : Prop :=
  ∀ list ∈ names, list ≠ [] ∧ ∀ name ∈ list, IsName tokens name

/-! ## Expressions -/

mutual

/-- An expression has all its parts, assigns nothing, and gives brackets to what it makes new. -/
def Expr.Proper (tokens : List Token) : Expr → Prop
  | .binary operator _ left right _ => operator ≠ .assign ∧ left.Proper tokens ∧ right.Proper tokens
  | .unary _ _ operand _ => operand.Proper tokens
  | .chain path => path.Proper tokens
  | .new _ path => path.startsWithBrackets ∧ path.Proper tokens
  | .newArray _ element => element.Proper tokens
  | .literal .. | .nothing _ => True
  | .missing _ => False

/-- A whole expression is proper. -/
def Expression.Proper (tokens : List Token) : Expression → Prop
  | ⟨root, _⟩ => root.Proper tokens

/-- A chain has links, and they are proper. -/
def Chain.Proper (tokens : List Token) : Chain → Prop
  | ⟨links, _, _⟩ => links ≠ [] ∧ linksProper tokens links

/-- All of some links are proper. -/
def linksProper (tokens : List Token) : List Link → Prop
  | [] => True
  | link :: rest => link.Proper tokens ∧ linksProper tokens rest

/-- A plain link is named by an identifier. Calls and indices may have the name of a built-in type; the type
arguments of a call, if there are any, are at least one. -/
def Link.Proper (tokens : List Token) : Link → Prop
  | .name identifier => IsName tokens identifier.span
  | .index identifier index _ => IsBracketName tokens identifier.span ∧ index.Proper tokens
  | .call identifier types arguments _ =>
    IsBracketName tokens identifier.span ∧ (∀ list ∈ types, list ≠ [] ∧ typesProper tokens list) ∧
      argumentsProper tokens arguments

/-- All of some arguments are proper. -/
def argumentsProper (tokens : List Token) : List Expression → Prop
  | [] => True
  | argument :: rest => argument.Proper tokens ∧ argumentsProper tokens rest

end

/-- An expression that is a statement assigns to a chain, or is a chain that ends in a call. -/
def Expression.ProperStatement (tokens : List Token) : Expression → Prop
  | ⟨.binary .assign _ (.chain target) value _, _⟩ => target.Proper tokens ∧ value.Proper tokens
  | ⟨.chain path, _⟩ => path.Proper tokens ∧ path.endsInCall
  | _ => False

/-! ## Statements -/

/-- A declaration is named by an identifier and has a type, an initial value or both. -/
structure Declaration.Proper (tokens : List Token) (declaration : Declaration) : Prop where
  name : IsName tokens declaration.name
  typed : declaration.written.isSome ∨ declaration.initial.isSome
  written : ∀ written ∈ declaration.written, written.Proper tokens
  initial : ∀ value ∈ declaration.initial, value.Proper tokens

/-- A parameter is named by an identifier and has a type. -/
structure Parameter.Proper (tokens : List Token) (parameter : Parameter) : Prop where
  name : IsName tokens parameter.name
  written : parameter.written.Proper tokens

mutual

/-- The statements of a block are proper. -/
def Block.Proper (tokens : List Token) : Block → Prop
  | ⟨_, _, statements, _⟩ => statementsProper tokens statements

/-- All of some statements are proper. -/
def statementsProper (tokens : List Token) : List Statement → Prop
  | [] => True
  | statement :: rest => statement.Proper tokens ∧ statementsProper tokens rest

/-- A statement is proper; what it imports or refers to is a chain of plain names. -/
def Statement.Proper (tokens : List Token) : Statement → Prop
  | .type definition => definition.Proper tokens
  | .function definition => definition.Proper tokens
  | .variable declaration => declaration.Proper tokens
  | .returning _ value? => ∀ value ∈ value?, Expression.Proper tokens value
  | .whileLoop _ condition body => condition.Proper tokens ∧ body.Proper tokens
  | .conditional conditional => conditional.Proper tokens
  | .importing _ target | .path _ target => target.isPlain ∧ target.Proper tokens
  | .expression expression => expression.ProperStatement tokens
  | .breaking _ | .continuing _ => True

/-- The parts of a conditional are proper. -/
def Conditional.Proper (tokens : List Token) : Conditional → Prop
  | ⟨condition, body, otherwise, _⟩ =>
    condition.Proper tokens ∧ body.Proper tokens ∧ otherwise.Proper tokens

/-- What is done when a condition fails is proper. -/
def Otherwise.Proper (tokens : List Token) : Otherwise → Prop
  | .nothing => True
  | .conditional conditional => conditional.Proper tokens
  | .block block => block.Proper tokens

/-- A function is named by an identifier, and its head and body are proper. -/
def FunctionDef.Proper (tokens : List Token) : FunctionDef → Prop
  | ⟨_, name, typeParameters, parameters, returns, body, _⟩ =>
    IsName tokens name ∧ typeParametersProper tokens typeParameters ∧
      (∀ parameter ∈ parameters, parameter.Proper tokens) ∧
      (∀ written ∈ returns, written.Proper tokens) ∧ body.Proper tokens

/-- All of some functions are proper. -/
def functionsProper (tokens : List Token) : List FunctionDef → Prop
  | [] => True
  | definition :: rest => definition.Proper tokens ∧ functionsProper tokens rest

/-- A type is named by an identifier, and its members are proper. -/
def TypeDef.Proper (tokens : List Token) : TypeDef → Prop
  | ⟨_, name, typeParameters, fields, methods, _, _⟩ =>
    IsName tokens name ∧ typeParametersProper tokens typeParameters ∧
      (∀ field ∈ fields, field.Proper tokens) ∧ functionsProper tokens methods

end

end ArrowScript
