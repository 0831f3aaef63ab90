import ArrowScript.Proofs.Grammar.Reading
import ArrowScript.Token.Pattern

/-!
# Printing

`lexemes` prints a program as the lexemes of its tokens: every statement and every member of a type is
followed by a line end, fields stand before methods, and operations between two operands stand in
parentheses unless they are assignments. A program may be printed if it is well-formed, that is, if it
keeps to the forms that the grammar has. What printing leaves out of a program is where its tokens stood,
its handles and what the analysis has found; `bare` is the program without these.
-/

namespace ArrowScript

/-! ## Lexemes -/

/-- What the grammar sees of a token: its kind and, of a name or literal, the text. -/
structure Lexeme where
  kind : Token.Kind
  text : String

/-- A token has a lexeme: its kind and, if it is a name or literal, its text. -/
structure Token.Spells (token : Token) (x : Lexeme) : Prop where
  kind : token.kind = x.kind
  text : x.kind.isLeaf → token.span.content = x.text

/-- Some tokens have some lexemes, one by one. -/
abbrev Spelled : List Token → List Lexeme → Prop :=
  List.Forall₂ Token.Spells

/-- A token that has a lexeme. -/
def Lexeme.token (x : Lexeme) : Token :=
  ⟨x.kind, { (default : Span) with text := some x.text }⟩

/-- Every text is that of some tokens. -/
lemma spelled_tokens (text : List Lexeme) : Spelled (text.map Lexeme.token) text := by
  induction text with
  | nil => exact .nil
  | cons x rest ih => exact .cons ⟨rfl, fun _ => rfl⟩ ih

/-- Tokens have the kinds of their lexemes. -/
lemma Spelled.map_kind {tokens : List Token} {text : List Lexeme} (h : Spelled tokens text) :
    tokens.map Token.kind = text.map Lexeme.kind := by
  induction h with
  | nil => rfl
  | cons spells _ ih => rw [List.map_cons, spells.kind, ih, List.map_cons]

/-- Dropping from the front what is of certain kinds. -/
lemma Spelled.dropWhile {tokens : List Token} {text : List Lexeme} (h : Spelled tokens text)
    (kinds : Token.Kind → Bool) :
    Spelled (tokens.dropWhile (kinds ·.kind)) (text.dropWhile (kinds ·.kind)) := by
  induction h with
  | nil => exact .nil
  | @cons token x _ _ spells rest ih =>
    rw [List.dropWhile_cons, List.dropWhile_cons, spells.kind]
    split
    · exact ih
    · exact .cons spells rest

/-- The kind of the token that a name is, end of file when it is not exactly one token. -/
@[irreducible]
def nameKind (name : String) : Token.Kind :=
  match Token.munch? name.toList with
  | some (kind, length) => if length = name.length then kind else .endOfFile
  | none => .endOfFile

namespace Lexeme

/-- A keyword, operator or other sign. -/
def sign (kind : Token.Kind) : Lexeme :=
  ⟨kind, ""⟩

/-- A name. -/
def name (span : Span) : Lexeme :=
  ⟨nameKind span.content, span.content⟩

@[simp] lemma sign_kind (kind : Token.Kind) : (sign kind).kind = kind := rfl

@[simp] lemma name_kind (span : Span) : (name span).kind = nameKind span.content := rfl

@[simp] lemma name_text (span : Span) : (name span).text = span.content := rfl

/-- Pieces of text with a sign between every two of them. -/
def separated (kind : Token.Kind) : List (List Lexeme) → List Lexeme
  | [] => []
  | [form] => form
  | form :: rest => form ++ sign kind :: separated kind rest

lemma separated_cons_cons (kind : Token.Kind) (first second : List Lexeme) (rest : List (List Lexeme)) :
    separated kind (first :: second :: rest) =
      first ++ sign kind :: separated kind (second :: rest) := rfl

/-- A list in angle brackets, which are left out around an empty one. -/
def angled : List (List Lexeme) → List Lexeme
  | [] => []
  | forms => sign .less :: (separated .comma forms ++ [sign .greater])

lemma angled_of_ne_nil (forms : List (List Lexeme)) (h : forms ≠ []) :
    angled forms = sign .less :: (separated .comma forms ++ [sign .greater]) := by
  cases forms with
  | nil => exact absurd rfl h
  | cons => rfl

/-- Lines, each with its end. -/
def lines : List (List Lexeme) → List Lexeme
  | [] => []
  | line :: rest => line ++ sign .endOfLine :: lines rest

section Lengths

variable {α : Type} (form : α → List Lexeme) {item : α} {items : List α}

/-- A piece of a separated text is at most as long as the text. -/
lemma length_form_le_separated (kind : Token.Kind) (mem : item ∈ items) :
    (form item).length ≤ (separated kind (items.map form)).length := by
  induction items with
  | nil => cases mem
  | cons first rest ih =>
    cases rest with
    | nil => exact List.mem_singleton.mp mem ▸ Nat.le_refl _
    | cons second rest =>
      rw [List.map_cons, List.map_cons, separated_cons_cons, ← List.map_cons, List.length_append,
        List.length_cons]
      rcases List.mem_cons.mp mem with rfl | mem
      · omega
      · have := ih mem
        omega

/-- There are at most as many pieces as a separated text has lexemes. -/
lemma length_le_separated (kind : Token.Kind) (nonempty : ∀ item ∈ items, form item ≠ []) :
    items.length ≤ (separated kind (items.map form)).length := by
  induction items with
  | nil => exact Nat.le_refl 0
  | cons first rest ih =>
    cases rest with
    | nil => exact List.length_pos_of_ne_nil (nonempty first List.mem_cons_self)
    | cons second rest =>
      have fewer := ih fun item mem => nonempty item (.tail _ mem)
      simp only [List.map_cons, separated_cons_cons, List.length_append, List.length_cons] at fewer ⊢
      omega

/-- A line is shorter than the text that it is one of the lines of. -/
lemma length_form_lt_lines (mem : item ∈ items) :
    (form item).length < (lines (items.map form)).length := by
  induction items with
  | nil => cases mem
  | cons first rest ih =>
    rw [List.map_cons, lines, List.length_append, List.length_cons]
    rcases List.mem_cons.mp mem with rfl | mem
    · omega
    · have := ih mem
      omega

/-- There are at most as many lines as a text has lexemes. -/
lemma length_le_lines (items : List α) : items.length ≤ (lines (items.map form)).length := by
  induction items with
  | nil => exact Nat.le_refl 0
  | cons first rest ih =>
    rw [List.map_cons, lines, List.length_append, List.length_cons, List.length_cons]
    omega

end Lengths

end Lexeme

/-- The sign of an operator between two operands. -/
def BinaryOperator.sign : BinaryOperator → Token.Kind
  | add => .plus
  | subtract => .minus
  | multiply => .star
  | divide => .slash
  | modulo => .percent
  | equal => .equal
  | notEqual => .notEqual
  | greater => .greater
  | less => .less
  | greaterEqual => .greaterEqual
  | lessEqual => .lessEqual
  | and => .kwAnd
  | or => .kwOr
  | assign => .arrow

/-- The sign of an operator before one operand. -/
def UnaryOperator.sign : UnaryOperator → Token.Kind
  | negate => .minus
  | not => .kwNot

/-- The kind of token that a literal is. -/
def LiteralKind.sign : LiteralKind → Token.Kind
  | integer => .integer
  | decimal => .decimal
  | boolean => .boolean
  | string => .string

open Lexeme

/-! ## Printing -/

mutual

/-- A written type as lexemes. -/
def TypeRef.lexemes : TypeRef → List Lexeme
  | ⟨typeName, _, arguments, array, _⟩ =>
    .name typeName ::
      (angled (typeForms arguments) ++ if array then [sign .leftBracket, sign .rightBracket] else [])

/-- Written types, each as lexemes. -/
def typeForms : List TypeRef → List (List Lexeme)
  | [] => []
  | type :: rest => type.lexemes :: typeForms rest

end

mutual

/-- An expression as lexemes. -/
def Expr.lexemes : Expr → List Lexeme
  | .binary .assign _ left right _ => left.lexemes ++ sign .arrow :: right.lexemes
  | .binary operator _ left right _ =>
    sign .leftParen ::
      (left.lexemes ++ sign operator.sign :: (right.lexemes ++ [sign .rightParen]))
  | .unary operator _ operand _ => sign operator.sign :: operand.lexemes
  | .chain path => path.lexemes
  | .literal kind span _ => [⟨kind.sign, span.content⟩]
  | .new _ path => sign .kwNew :: path.lexemes
  | .newArray _ element =>
    sign .kwNew :: sign .leftBracket :: (element.lexemes ++ [sign .rightBracket])
  | .nothing span => [⟨.nothing, span.content⟩]
  | .missing _ => []

/-- A whole expression as lexemes. -/
def Expression.lexemes : Expression → List Lexeme
  | ⟨root, _⟩ => root.lexemes

/-- A chain as lexemes. -/
def Chain.lexemes : Chain → List Lexeme
  | ⟨links, _, _⟩ => separated .dot (linkForms links)

/-- Links, each as lexemes. -/
def linkForms : List Link → List (List Lexeme)
  | [] => []
  | link :: rest => link.lexemes :: linkForms rest

/-- A link as lexemes. -/
def Link.lexemes : Link → List Lexeme
  | .name identifier => [.name identifier.span]
  | .index identifier index _ =>
    .name identifier.span :: sign .leftBracket :: (index.lexemes ++ [sign .rightBracket])
  | .call identifier types arguments _ =>
    .name identifier.span ::
      (angled (types.elim [] typeForms) ++
        sign .leftParen :: (separated .comma (argumentForms arguments) ++ [sign .rightParen]))

/-- Arguments of a call, each as lexemes. -/
def argumentForms : List Expression → List (List Lexeme)
  | [] => []
  | argument :: rest => argument.lexemes :: argumentForms rest

end

/-- Whether an expression is printed as a term, that is, without an operator before it. -/
def Expr.isTerm : Expr → Bool
  | .unary .. => false
  | _ => true

/-- A declaration as lexemes. -/
def Declaration.lexemes (declaration : Declaration) : List Lexeme :=
  .name declaration.name :: sign .colon ::
    (declaration.written.elim [] TypeRef.lexemes ++
      declaration.initial.elim [] fun value => sign .arrow :: value.lexemes)

/-- A parameter as lexemes. -/
def Parameter.lexemes (parameter : Parameter) : List Lexeme :=
  .name parameter.name :: sign .colon :: parameter.written.lexemes

/-- The type parameters of a definition as lexemes. -/
def typeParameterLexemes (names : Option (List Span)) : List Lexeme :=
  angled ((names.getD []).map fun span => [.name span])

/-- The type that a function returns as lexemes. -/
def returnLexemes (returns : Option TypeRef) : List Lexeme :=
  returns.elim [] fun type => sign .colon :: type.lexemes

mutual

/-- A block as lexemes; a whole program has no braces. -/
def Block.lexemes : Block → List Lexeme
  | ⟨_, .program, statements, _⟩ => lines (statementForms statements)
  | ⟨_, .braced, statements, _⟩ =>
    sign .leftBrace :: (lines (statementForms statements) ++ [sign .rightBrace])

/-- Statements, each as lexemes. -/
def statementForms : List Statement → List (List Lexeme)
  | [] => []
  | statement :: rest => statement.lexemes :: statementForms rest

/-- A statement as lexemes. -/
def Statement.lexemes : Statement → List Lexeme
  | .type definition => definition.lexemes
  | .function definition => definition.lexemes
  | .variable declaration => declaration.lexemes
  | .returning _ value => sign .kwReturn :: value.elim [] Expression.lexemes
  | .breaking _ => [sign .kwBreak]
  | .continuing _ => [sign .kwContinue]
  | .whileLoop _ condition body => sign .kwWhile :: (condition.lexemes ++ body.lexemes)
  | .conditional conditional => conditional.lexemes
  | .importing _ target => sign .kwImport :: target.lexemes
  | .path _ target => sign .kwPath :: target.lexemes
  | .expression expression => expression.lexemes

/-- A function as lexemes. -/
def FunctionDef.lexemes : FunctionDef → List Lexeme
  | ⟨_, name, typeParameters, parameters, returns, body, _⟩ =>
    sign .kwFunction :: .name name ::
      (typeParameterLexemes typeParameters ++
        sign .leftParen :: (separated .comma (parameters.map Parameter.lexemes) ++
          sign .rightParen :: (returnLexemes returns ++ body.lexemes)))

/-- Methods, each as lexemes. -/
def methodForms : List FunctionDef → List (List Lexeme)
  | [] => []
  | method :: rest => method.lexemes :: methodForms rest

/-- A type as lexemes. -/
def TypeDef.lexemes : TypeDef → List Lexeme
  | ⟨_, name, typeParameters, fields, methods, _, _⟩ =>
    sign .kwType :: .name name ::
      (typeParameterLexemes typeParameters ++
        sign .leftBrace :: (lines (fields.map Declaration.lexemes) ++
          (lines (methodForms methods) ++ [sign .rightBrace])))

/-- A condition with its blocks as lexemes. -/
def Conditional.lexemes : Conditional → List Lexeme
  | ⟨condition, body, otherwise, _⟩ =>
    sign .kwIf :: (condition.lexemes ++ (body.lexemes ++ otherwise.lexemes))

/-- What is done when a condition fails, as lexemes. -/
def Otherwise.lexemes : Otherwise → List Lexeme
  | .nothing => []
  | .conditional conditional => sign .kwElse :: conditional.lexemes
  | .block block => sign .kwElse :: block.lexemes

end

/-! ## Well-formed programs -/

/-- Whether a name is one that a definition may have. -/
def isDefinable (name : Span) : Bool :=
  nameKind name.content = .identifier

mutual

/-- Whether the names of a written type are those of types, with the built-in ones marked. -/
def TypeRef.wellFormed : TypeRef → Bool
  | ⟨name, builtin, arguments, _, _⟩ =>
    (nameKind name.content).isTypeName && builtin = (nameKind name.content).isBuiltinName &&
      typesWellFormed arguments

/-- Whether all of some written types are well-formed. -/
def typesWellFormed : List TypeRef → Bool
  | [] => true
  | type :: rest => type.wellFormed && typesWellFormed rest

end

/-- Whether type arguments, if there are any, are well-formed and not an empty list. -/
def typeArgumentsWellFormed (types : Option (List TypeRef)) : Bool :=
  types.all fun types => !types.isEmpty && typesWellFormed types

/-- Whether type parameters, if there are any, are well-formed and not an empty list. -/
def typeParametersWellFormed (names : Option (List Span)) : Bool :=
  names.all fun names => !names.isEmpty && names.all isDefinable

mutual

/-- Whether an expression has all its parts and assigns nothing. -/
def Expr.wellFormed : Expr → Bool
  | .binary operator _ left right _ => operator ≠ .assign && left.wellFormed && right.wellFormed
  | .unary _ _ operand _ => operand.wellFormed
  | .chain path => path.wellFormed
  | .literal .. => true
  | .new _ path => path.startsWithBrackets && path.wellFormed
  | .newArray _ element => element.wellFormed
  | .nothing _ => true
  | .missing _ => false

/-- Whether a whole expression is well-formed. -/
def Expression.wellFormed : Expression → Bool
  | ⟨root, _⟩ => root.wellFormed

/-- Whether a chain has links and they are well-formed. -/
def Chain.wellFormed : Chain → Bool
  | ⟨links, _, _⟩ => !links.isEmpty && linksWellFormed links

/-- Whether all of some links are well-formed. -/
def linksWellFormed : List Link → Bool
  | [] => true
  | link :: rest => link.wellFormed && linksWellFormed rest

/-- Whether a link is well-formed; calls and indices may have the name of a built-in type. -/
def Link.wellFormed : Link → Bool
  | .name identifier => isDefinable identifier.span
  | .index identifier index _ =>
    Grammar.isLinkName (nameKind identifier.span.content) && index.wellFormed
  | .call identifier types arguments _ =>
    Grammar.isLinkName (nameKind identifier.span.content) && typeArgumentsWellFormed types &&
      argumentsWellFormed arguments

/-- Whether all of some arguments are well-formed. -/
def argumentsWellFormed : List Expression → Bool
  | [] => true
  | argument :: rest => argument.wellFormed && argumentsWellFormed rest

end

/-- Whether a chain starts with a name that is not that of a built-in type. -/
def Chain.startsWithIdentifier (chain : Chain) : Bool :=
  chain.links.head?.any fun link => isDefinable link.identifier.span

/-- Whether an expression is an assignment to a chain or a call, as it may stand for a statement. -/
def Expr.actsWellFormed : Expr → Bool
  | .binary .assign _ (.chain target) value _ =>
    target.startsWithIdentifier && target.wellFormed && value.wellFormed
  | .chain path => path.startsWithIdentifier && path.wellFormed && path.endsInCall
  | _ => false

/-- Whether a declaration has a type or a value, and what it has is well-formed. -/
def Declaration.wellFormed (declaration : Declaration) : Bool :=
  isDefinable declaration.name && (declaration.written.isSome || declaration.initial.isSome) &&
    declaration.written.all TypeRef.wellFormed && declaration.initial.all Expression.wellFormed

/-- Whether a parameter is well-formed. -/
def Parameter.wellFormed (parameter : Parameter) : Bool :=
  isDefinable parameter.name && parameter.written.wellFormed

mutual

/-- Whether a block is of the given kind and its statements are well-formed. -/
def Block.wellFormed (expected : BlockKind) : Block → Bool
  | ⟨_, kind, statements, _⟩ => kind = expected && statementsWellFormed statements

/-- Whether all of some statements are well-formed. -/
def statementsWellFormed : List Statement → Bool
  | [] => true
  | statement :: rest => statement.wellFormed && statementsWellFormed rest

/-- Whether a statement is well-formed; what it imports or refers to is a chain of plain names. -/
def Statement.wellFormed : Statement → Bool
  | .type definition => definition.wellFormed
  | .function definition => definition.wellFormed
  | .variable declaration => declaration.wellFormed
  | .returning _ value => value.all Expression.wellFormed
  | .breaking _ | .continuing _ => true
  | .whileLoop _ condition body => condition.wellFormed && body.wellFormed .braced
  | .conditional conditional => conditional.wellFormed
  | .importing _ target | .path _ target => target.isPlain && target.wellFormed
  | .expression ⟨root, _⟩ => root.actsWellFormed

/-- Whether a function is well-formed. -/
def FunctionDef.wellFormed : FunctionDef → Bool
  | ⟨_, name, typeParameters, parameters, returns, body, _⟩ =>
    isDefinable name && typeParametersWellFormed typeParameters &&
      parameters.all Parameter.wellFormed && returns.all TypeRef.wellFormed && body.wellFormed .braced

/-- Whether all of some methods are well-formed. -/
def methodsWellFormed : List FunctionDef → Bool
  | [] => true
  | method :: rest => method.wellFormed && methodsWellFormed rest

/-- Whether a type is well-formed. -/
def TypeDef.wellFormed : TypeDef → Bool
  | ⟨_, name, typeParameters, fields, methods, _, _⟩ =>
    isDefinable name && typeParametersWellFormed typeParameters &&
      fields.all Declaration.wellFormed && methodsWellFormed methods

/-- Whether a condition and its blocks are well-formed. -/
def Conditional.wellFormed : Conditional → Bool
  | ⟨condition, body, otherwise, _⟩ =>
    condition.wellFormed && body.wellFormed .braced && otherwise.wellFormed

/-- Whether what is done when a condition fails is well-formed. -/
def Otherwise.wellFormed : Otherwise → Bool
  | .nothing => true
  | .conditional conditional => conditional.wellFormed
  | .block block => block.wellFormed .braced

end

/-! ## Bare programs -/

/-- A span of which only the text is kept. -/
def Span.bare (span : Span) : Span :=
  { (default : Span) with text := some span.content }

mutual

/-- A written type of which only the names are kept. -/
def TypeRef.bare : TypeRef → TypeRef
  | ⟨name, builtin, arguments, array, _⟩ => ⟨name.bare, builtin, bareTypes arguments, array, none⟩

/-- Bare written types. -/
def bareTypes : List TypeRef → List TypeRef
  | [] => []
  | type :: rest => type.bare :: bareTypes rest

end

/-- An identifier of which only the name is kept. -/
def Identifier.bare (identifier : Identifier) : Identifier :=
  .unbound identifier.span.bare

mutual

/-- An expression of which only operators, names and literals are kept. -/
def Expr.bare : Expr → Expr
  | .binary operator _ left right _ => .binary operator default left.bare right.bare none
  | .unary operator _ operand _ => .unary operator default operand.bare none
  | .chain path => .chain path.bare
  | .literal kind span _ => .literal kind span.bare none
  | .new _ path => .new default path.bare
  | .newArray _ element => .newArray default element.bare
  | .nothing span => .nothing span.bare
  | .missing _ => .missing default

/-- A bare whole expression. -/
def Expression.bare : Expression → Expression
  | ⟨root, _⟩ => .untyped root.bare

/-- A bare chain. -/
def Chain.bare : Chain → Chain
  | ⟨links, _, _⟩ => ⟨bareLinks links, default, none⟩

/-- Bare links. -/
def bareLinks : List Link → List Link
  | [] => []
  | link :: rest => link.bare :: bareLinks rest

/-- A bare link. -/
def Link.bare : Link → Link
  | .name identifier => .name identifier.bare
  | .index identifier index _ => .index identifier.bare index.bare default
  | .call identifier types arguments _ =>
    .call identifier.bare (types.map bareTypes) (bareArguments arguments) default

/-- Bare arguments. -/
def bareArguments : List Expression → List Expression
  | [] => []
  | argument :: rest => argument.bare :: bareArguments rest

end

/-- A bare declaration. -/
def Declaration.bare (declaration : Declaration) : Declaration where
  id := default
  name := declaration.name.bare
  written := declaration.written.map TypeRef.bare
  initial := declaration.initial.map Expression.bare
  type := none

/-- A bare parameter. -/
def Parameter.bare (parameter : Parameter) : Parameter :=
  ⟨default, parameter.name.bare, parameter.written.bare⟩

/-- Bare type parameters. -/
def bareTypeParameters (names : Option (List Span)) : Option (List Span) :=
  names.map (List.map Span.bare)

mutual

/-- A bare block. -/
def Block.bare : Block → Block
  | ⟨_, kind, statements, _⟩ => ⟨default, kind, bareStatements statements, default⟩

/-- Bare statements. -/
def bareStatements : List Statement → List Statement
  | [] => []
  | statement :: rest => statement.bare :: bareStatements rest

/-- A bare statement. -/
def Statement.bare : Statement → Statement
  | .type definition => .type definition.bare
  | .function definition => .function definition.bare
  | .variable declaration => .variable declaration.bare
  | .returning _ value => .returning default (value.map Expression.bare)
  | .breaking _ => .breaking default
  | .continuing _ => .continuing default
  | .whileLoop _ condition body => .whileLoop default condition.bare body.bare
  | .conditional conditional => .conditional conditional.bare
  | .importing _ target => .importing default target.bare
  | .path _ target => .path default target.bare
  | .expression expression => .expression expression.bare

/-- A bare function. -/
def FunctionDef.bare : FunctionDef → FunctionDef
  | ⟨_, name, typeParameters, parameters, returns, body, _⟩ =>
    ⟨default, name.bare, bareTypeParameters typeParameters, parameters.map Parameter.bare,
      returns.map TypeRef.bare, body.bare, default⟩

/-- Bare methods. -/
def bareMethods : List FunctionDef → List FunctionDef
  | [] => []
  | method :: rest => method.bare :: bareMethods rest

/-- A bare type. -/
def TypeDef.bare : TypeDef → TypeDef
  | ⟨_, name, typeParameters, fields, methods, _, _⟩ =>
    ⟨default, name.bare, bareTypeParameters typeParameters, fields.map Declaration.bare,
      bareMethods methods, default, none⟩

/-- A bare condition with its blocks. -/
def Conditional.bare : Conditional → Conditional
  | ⟨condition, body, otherwise, _⟩ => ⟨condition.bare, body.bare, otherwise.bare, default⟩

/-- What is done when a condition fails, bare. -/
def Otherwise.bare : Otherwise → Otherwise
  | .nothing => .nothing
  | .conditional conditional => .conditional conditional.bare
  | .block block => .block block.bare

end

/-! ## Lists of parts -/

lemma typeForms_eq_map (types : List TypeRef) : typeForms types = types.map TypeRef.lexemes := by
  induction types with
  | nil => rfl
  | cons type rest ih => rw [typeForms, ih, List.map_cons]

lemma typesWellFormed_eq_all (types : List TypeRef) : typesWellFormed types = types.all TypeRef.wellFormed := by
  induction types with
  | nil => rfl
  | cons type rest ih => rw [typesWellFormed, ih, List.all_cons]

lemma bareTypes_eq_map (types : List TypeRef) : bareTypes types = types.map TypeRef.bare := by
  induction types with
  | nil => rfl
  | cons type rest ih => rw [bareTypes, ih, List.map_cons]

lemma linkForms_eq_map (links : List Link) : linkForms links = links.map Link.lexemes := by
  induction links with
  | nil => rfl
  | cons link rest ih => rw [linkForms, ih, List.map_cons]

lemma linksWellFormed_eq_all (links : List Link) : linksWellFormed links = links.all Link.wellFormed := by
  induction links with
  | nil => rfl
  | cons link rest ih => rw [linksWellFormed, ih, List.all_cons]

lemma bareLinks_eq_map (links : List Link) : bareLinks links = links.map Link.bare := by
  induction links with
  | nil => rfl
  | cons link rest ih => rw [bareLinks, ih, List.map_cons]

lemma argumentForms_eq_map (arguments : List Expression) : argumentForms arguments = arguments.map Expression.lexemes := by
  induction arguments with
  | nil => rfl
  | cons argument rest ih => rw [argumentForms, ih, List.map_cons]

lemma argumentsWellFormed_eq_all (arguments : List Expression) : argumentsWellFormed arguments = arguments.all Expression.wellFormed := by
  induction arguments with
  | nil => rfl
  | cons argument rest ih => rw [argumentsWellFormed, ih, List.all_cons]

lemma bareArguments_eq_map (arguments : List Expression) : bareArguments arguments = arguments.map Expression.bare := by
  induction arguments with
  | nil => rfl
  | cons argument rest ih => rw [bareArguments, ih, List.map_cons]

lemma statementForms_eq_map (statements : List Statement) : statementForms statements = statements.map Statement.lexemes := by
  induction statements with
  | nil => rfl
  | cons statement rest ih => rw [statementForms, ih, List.map_cons]

lemma statementsWellFormed_eq_all (statements : List Statement) : statementsWellFormed statements = statements.all Statement.wellFormed := by
  induction statements with
  | nil => rfl
  | cons statement rest ih => rw [statementsWellFormed, ih, List.all_cons]

lemma bareStatements_eq_map (statements : List Statement) : bareStatements statements = statements.map Statement.bare := by
  induction statements with
  | nil => rfl
  | cons statement rest ih => rw [bareStatements, ih, List.map_cons]

lemma methodForms_eq_map (methods : List FunctionDef) : methodForms methods = methods.map FunctionDef.lexemes := by
  induction methods with
  | nil => rfl
  | cons method rest ih => rw [methodForms, ih, List.map_cons]

lemma methodsWellFormed_eq_all (methods : List FunctionDef) : methodsWellFormed methods = methods.all FunctionDef.wellFormed := by
  induction methods with
  | nil => rfl
  | cons method rest ih => rw [methodsWellFormed, ih, List.all_cons]

lemma bareMethods_eq_map (methods : List FunctionDef) : bareMethods methods = methods.map FunctionDef.bare := by
  induction methods with
  | nil => rfl
  | cons method rest ih => rw [bareMethods, ih, List.map_cons]

/-- An operation that is no assignment is in parentheses. -/
lemma lexemes_binary {operator : BinaryOperator} (h : operator ≠ .assign) (span : Span)
    (left right : Expr) (type : Option TypeId) :
    (Expr.binary operator span left right type).lexemes =
      sign .leftParen :: (left.lexemes ++
        sign operator.sign :: (right.lexemes ++ [sign .rightParen])) := by
  cases operator <;> first | rfl | exact absurd rfl h

end ArrowScript
