import ArrowScript.Syntax.Statement
import Mathlib.Data.List.Perm.Basic
import Mathlib.Tactic.Common

/-!
# Pieces of a program

A program keeps the spans of the tokens that it was read from. Spans of names and literals are its leaves;
the others only mark where something stands. `pieces` lists the spans of a node as the node keeps them.
The members of a type are kept as fields and methods, whatever order they are written in, so the order in
which pieces were written is a relation: `Written`. Both list the same pieces (`Written.perm`). Beside
them `ids` lists the handles that nodes carry.
-/

namespace ArrowScript

/-- A span that a node keeps. -/
inductive Piece
  /-- A declared name, the name of a written type, a literal or the absent value. -/
  | leaf (span : Span)
  /-- The name of a link. -/
  | link (identifier : Identifier)
  /-- Any other token that the node remembers the place of. -/
  | mark (span : Span)

namespace Piece

/-- The span of a piece. -/
def span : Piece → Span
  | leaf span | mark span => span
  | link identifier => identifier.span

/-- The span of a name or literal. -/
def leaf? : Piece → Option Span
  | leaf span => some span
  | link identifier => some identifier.span
  | mark _ => none

end Piece

/-- The names and literals among some pieces. -/
def leavesOf (pieces : List Piece) : List Span :=
  pieces.filterMap Piece.leaf?

@[simp] lemma leavesOf_nil : leavesOf [] = [] := rfl

@[simp] lemma leavesOf_append (first second : List Piece) :
    leavesOf (first ++ second) = leavesOf first ++ leavesOf second :=
  List.filterMap_append

@[simp] lemma leavesOf_leaf (span : Span) (rest : List Piece) :
    leavesOf (.leaf span :: rest) = span :: leavesOf rest := rfl

@[simp] lemma leavesOf_link (identifier : Identifier) (rest : List Piece) :
    leavesOf (.link identifier :: rest) = identifier.span :: leavesOf rest := rfl

@[simp] lemma leavesOf_mark (span : Span) (rest : List Piece) :
    leavesOf (.mark span :: rest) = leavesOf rest := rfl

/-! ## Written types -/

mutual

/-- The pieces of a written type. -/
def TypeRef.pieces : TypeRef → List Piece
  | ⟨name, _, arguments, _, _⟩ => .leaf name :: typePieces arguments

/-- The pieces of some written types. -/
def typePieces : List TypeRef → List Piece
  | [] => []
  | type :: rest => type.pieces ++ typePieces rest

end

/-- Written types one after the other. -/
lemma typePieces_eq_flatMap (types : List TypeRef) :
    typePieces types = types.flatMap TypeRef.pieces := by
  induction types with
  | nil => rw [typePieces, List.flatMap_nil]
  | cons type rest ih => rw [typePieces, ih, List.flatMap_cons]

/-! ## Expressions -/

mutual

/-- The pieces of an expression. -/
def Expr.pieces : Expr → List Piece
  | .binary _ operatorSpan left right _ => left.pieces ++ .mark operatorSpan :: right.pieces
  | .unary _ operatorSpan operand _ => .mark operatorSpan :: operand.pieces
  | .chain path => path.pieces
  | .literal _ span _ => [.leaf span]
  | .new keyword path => .mark keyword :: path.pieces
  | .newArray keyword element => .mark keyword :: element.pieces
  | .nothing span => [.leaf span]
  | .missing span => [.mark span]

/-- The pieces of a whole expression. -/
def Expression.pieces : Expression → List Piece
  | ⟨root, _⟩ => root.pieces

/-- The pieces of a chain. -/
def Chain.pieces : Chain → List Piece
  | ⟨links, span, _⟩ => .mark span :: linkPieces links

/-- The pieces of some links. -/
def linkPieces : List Link → List Piece
  | [] => []
  | link :: rest => link.pieces ++ linkPieces rest

/-- The pieces of a link. -/
def Link.pieces : Link → List Piece
  | .name identifier => [.link identifier]
  | .index identifier index close => .link identifier :: (index.pieces ++ [.mark close])
  | .call identifier types arguments close =>
    .link identifier ::
      (types.elim [] typePieces ++ (argumentPieces arguments ++ [.mark close]))

/-- The pieces of some arguments. -/
def argumentPieces : List Expression → List Piece
  | [] => []
  | argument :: rest => argument.pieces ++ argumentPieces rest

end

/-! ## Statements -/

/-- The pieces of a declaration. -/
def Declaration.pieces (declaration : Declaration) : List Piece :=
  .leaf declaration.name ::
    (declaration.written.elim [] TypeRef.pieces ++ declaration.initial.elim [] Expression.pieces)

/-- The pieces of a parameter. -/
def Parameter.pieces (parameter : Parameter) : List Piece :=
  .leaf parameter.name :: parameter.written.pieces

/-- The pieces of a list of type parameters. -/
def typeParameterPieces (names : Option (List Span)) : List Piece :=
  (names.getD []).map .leaf

mutual

/-- The pieces of a block. -/
def Block.pieces : Block → List Piece
  | ⟨_, _, statements, span⟩ => .mark span :: statementPieces statements

/-- The pieces of some statements. -/
def statementPieces : List Statement → List Piece
  | [] => []
  | statement :: rest => statement.pieces ++ statementPieces rest

/-- The pieces of a statement. -/
def Statement.pieces : Statement → List Piece
  | .type definition => definition.pieces
  | .function definition => definition.pieces
  | .variable declaration => declaration.pieces
  | .returning keyword value => .mark keyword :: value.elim [] Expression.pieces
  | .breaking keyword | .continuing keyword => [.mark keyword]
  | .whileLoop keyword condition body => .mark keyword :: (condition.pieces ++ body.pieces)
  | .conditional conditional => conditional.pieces
  | .importing keyword target | .path keyword target => .mark keyword :: target.pieces
  | .expression expression => expression.pieces

/-- The pieces of a conditional. -/
def Conditional.pieces : Conditional → List Piece
  | ⟨condition, body, otherwise, keyword⟩ =>
    .mark keyword :: (condition.pieces ++ (body.pieces ++ otherwise.pieces))

/-- The pieces of what is done when a condition fails. -/
def Otherwise.pieces : Otherwise → List Piece
  | .nothing => []
  | .conditional conditional => conditional.pieces
  | .block block => block.pieces

/-- The pieces of a function. -/
def FunctionDef.pieces : FunctionDef → List Piece
  | ⟨_, name, typeParameters, parameters, returns, body, keyword⟩ =>
    .mark keyword :: .leaf name :: (typeParameterPieces typeParameters ++
      (parameters.flatMap Parameter.pieces ++ (returns.elim [] TypeRef.pieces ++ body.pieces)))

/-- The pieces of some functions. -/
def functionPieces : List FunctionDef → List Piece
  | [] => []
  | definition :: rest => definition.pieces ++ functionPieces rest

/-- The pieces of a type, fields first. -/
def TypeDef.pieces : TypeDef → List Piece
  | ⟨_, name, typeParameters, fields, methods, keyword, _⟩ =>
    .mark keyword :: .leaf name :: (typeParameterPieces typeParameters ++
      (fields.flatMap Declaration.pieces ++ functionPieces methods))

end

/-- The pieces of some statements are those of each of them. -/
lemma statementPieces_eq_flatMap (statements : List Statement) :
    statementPieces statements = statements.flatMap Statement.pieces := by
  induction statements with
  | nil => rw [statementPieces, List.flatMap_nil]
  | cons statement rest ih => rw [statementPieces, ih, List.flatMap_cons]

/-- The pieces of some functions are those of each of them. -/
lemma functionPieces_eq_flatMap (definitions : List FunctionDef) :
    functionPieces definitions = definitions.flatMap FunctionDef.pieces := by
  induction definitions with
  | nil => rw [functionPieces, List.flatMap_nil]
  | cons definition rest ih => rw [functionPieces, ih, List.flatMap_cons]

/-! ## Handles -/

mutual

/-- The handles in a block. -/
def Block.ids : Block → List NodeId
  | ⟨id, _, statements, _⟩ => id :: statementIds statements

/-- The handles in some statements. -/
def statementIds : List Statement → List NodeId
  | [] => []
  | statement :: rest => statement.ids ++ statementIds rest

/-- The handles in a statement. -/
def Statement.ids : Statement → List NodeId
  | .type definition => definition.ids
  | .function definition => definition.ids
  | .variable declaration => [declaration.id]
  | .whileLoop _ _ body => body.ids
  | .conditional conditional => conditional.ids
  | .returning .. | .breaking _ | .continuing _ | .importing .. | .path .. | .expression _ => []

/-- The handles in a conditional. -/
def Conditional.ids : Conditional → List NodeId
  | ⟨_, body, otherwise, _⟩ => body.ids ++ otherwise.ids

/-- The handles in what is done when a condition fails. -/
def Otherwise.ids : Otherwise → List NodeId
  | .nothing => []
  | .conditional conditional => conditional.ids
  | .block block => block.ids

/-- The handles in a function. -/
def FunctionDef.ids : FunctionDef → List NodeId
  | ⟨id, _, _, parameters, _, body, _⟩ => id :: (parameters.map Parameter.id ++ body.ids)

/-- The handles in some functions. -/
def functionIds : List FunctionDef → List NodeId
  | [] => []
  | definition :: rest => definition.ids ++ functionIds rest

/-- The handles in a type. -/
def TypeDef.ids : TypeDef → List NodeId
  | ⟨id, _, _, fields, methods, _, _⟩ => id :: (fields.map Declaration.id ++ functionIds methods)

end

/-! ## Written order -/

/-- One list is made of two others, each in its own order. -/
inductive Interleaves {α : Type} : List α → List α → List α → Prop where
  | nil : Interleaves [] [] []
  | left {x xs ys zs} : Interleaves xs ys zs → Interleaves (x :: xs) ys (x :: zs)
  | right {xs y ys zs} : Interleaves xs ys zs → Interleaves xs (y :: ys) (y :: zs)

/-- Interleaving keeps the elements. -/
lemma Interleaves.perm {α : Type} {xs ys zs : List α} (h : Interleaves xs ys zs) :
    zs.Perm (xs ++ ys) := by
  induction h with
  | nil => exact .refl _
  | left _ ih => exact ih.cons _
  | right _ ih => exact (ih.cons _).trans List.perm_middle.symm

mutual

/-- Some pieces are those of a block in the order they are written in. -/
def Block.Written : Block → List Piece → Prop
  | ⟨_, _, statements, span⟩, pieces =>
    ∃ inner, statementsWritten statements inner ∧ pieces = .mark span :: inner

/-- Some pieces are those of statements in the order they are written in. -/
def statementsWritten : List Statement → List Piece → Prop
  | [], pieces => pieces = []
  | statement :: rest, pieces =>
    ∃ first others, statement.Written first ∧ statementsWritten rest others ∧
      pieces = first ++ others

/-- Some pieces are those of a statement in the order they are written in. -/
def Statement.Written : Statement → List Piece → Prop
  | .type definition, pieces => definition.Written pieces
  | .function definition, pieces => definition.Written pieces
  | .whileLoop keyword condition body, pieces =>
    ∃ inner, body.Written inner ∧ pieces = .mark keyword :: (condition.pieces ++ inner)
  | .conditional conditional, pieces => conditional.Written pieces
  | .variable declaration, pieces => pieces = declaration.pieces
  | .returning keyword value, pieces =>
    pieces = .mark keyword :: value.elim [] Expression.pieces
  | .breaking keyword, pieces | .continuing keyword, pieces => pieces = [.mark keyword]
  | .importing keyword target, pieces | .path keyword target, pieces =>
    pieces = .mark keyword :: target.pieces
  | .expression expression, pieces => pieces = expression.pieces

/-- Some pieces are those of a conditional in the order they are written in. -/
def Conditional.Written : Conditional → List Piece → Prop
  | ⟨condition, body, otherwise, keyword⟩, pieces =>
    ∃ inner rest, body.Written inner ∧ otherwise.Written rest ∧
      pieces = .mark keyword :: (condition.pieces ++ (inner ++ rest))

/-- Some pieces are those of what is done when a condition fails, in the order they are written in. -/
def Otherwise.Written : Otherwise → List Piece → Prop
  | .nothing, pieces => pieces = []
  | .conditional conditional, pieces => conditional.Written pieces
  | .block block, pieces => block.Written pieces

/-- Some pieces are those of a function in the order they are written in. -/
def FunctionDef.Written : FunctionDef → List Piece → Prop
  | ⟨_, name, typeParameters, parameters, returns, body, keyword⟩, pieces =>
    ∃ inner, body.Written inner ∧
      pieces = .mark keyword :: .leaf name :: (typeParameterPieces typeParameters ++
        (parameters.flatMap Parameter.pieces ++ (returns.elim [] TypeRef.pieces ++ inner)))

/-- Some lists of pieces are those of functions, each in the order it is written in. -/
def functionsWritten : List FunctionDef → List (List Piece) → Prop
  | [], lists => lists = []
  | definition :: rest, lists =>
    ∃ first others, definition.Written first ∧ functionsWritten rest others ∧
      lists = first :: others

/-- Some pieces are those of a type in the order they are written in: fields and methods may alternate. -/
def TypeDef.Written : TypeDef → List Piece → Prop
  | ⟨_, name, typeParameters, fields, methods, keyword, _⟩, pieces =>
    ∃ bodies members, functionsWritten methods bodies ∧
      Interleaves (fields.map Declaration.pieces) bodies members ∧
      pieces = .mark keyword :: .leaf name ::
        (typeParameterPieces typeParameters ++ members.flatten)

end

mutual

/-- The written order of a block lists its pieces. -/
lemma Block.Written.perm : ∀ {block : Block} {pieces : List Piece},
    block.Written pieces → pieces.Perm block.pieces
  | ⟨_, _, statements, span⟩, pieces, h => by
    rw [Block.Written] at h
    obtain ⟨inner, h, rfl⟩ := h
    rw [Block.pieces]
    exact (statementsWritten_perm h).cons _

lemma statementsWritten_perm : ∀ {statements : List Statement} {pieces : List Piece},
    statementsWritten statements pieces → pieces.Perm (statementPieces statements)
  | [], pieces, h => by
    rw [statementsWritten] at h
    rw [h, statementPieces]
  | statement :: rest, pieces, h => by
    rw [statementsWritten] at h
    obtain ⟨first, others, hf, ho, rfl⟩ := h
    rw [statementPieces]
    exact hf.perm.append (statementsWritten_perm ho)

lemma Statement.Written.perm : ∀ {statement : Statement} {pieces : List Piece},
    statement.Written pieces → pieces.Perm statement.pieces
  | .type definition, pieces, h => by
    rw [Statement.Written] at h
    rw [Statement.pieces]
    exact h.perm
  | .function definition, pieces, h => by
    rw [Statement.Written] at h
    rw [Statement.pieces]
    exact h.perm
  | .whileLoop keyword condition body, pieces, h => by
    rw [Statement.Written] at h
    obtain ⟨inner, h, rfl⟩ := h
    rw [Statement.pieces]
    exact (h.perm.append_left _).cons _
  | .conditional conditional, pieces, h => by
    rw [Statement.Written] at h
    rw [Statement.pieces]
    exact h.perm
  | .variable declaration, pieces, h
  | .returning keyword value, pieces, h
  | .breaking keyword, pieces, h
  | .continuing keyword, pieces, h
  | .importing keyword target, pieces, h
  | .path keyword target, pieces, h
  | .expression expression, pieces, h => by
    rw [Statement.Written] at h
    rw [h, Statement.pieces]

lemma Conditional.Written.perm : ∀ {conditional : Conditional} {pieces : List Piece},
    conditional.Written pieces → pieces.Perm conditional.pieces
  | ⟨condition, body, otherwise, keyword⟩, pieces, h => by
    rw [Conditional.Written] at h
    obtain ⟨inner, rest, hb, ho, rfl⟩ := h
    rw [Conditional.pieces]
    exact ((hb.perm.append ho.perm).append_left _).cons _

lemma Otherwise.Written.perm : ∀ {otherwise : Otherwise} {pieces : List Piece},
    otherwise.Written pieces → pieces.Perm otherwise.pieces
  | .nothing, pieces, h => by
    rw [Otherwise.Written] at h
    rw [h, Otherwise.pieces]
  | .conditional conditional, pieces, h => by
    rw [Otherwise.Written] at h
    rw [Otherwise.pieces]
    exact h.perm
  | .block block, pieces, h => by
    rw [Otherwise.Written] at h
    rw [Otherwise.pieces]
    exact h.perm

lemma FunctionDef.Written.perm : ∀ {definition : FunctionDef} {pieces : List Piece},
    definition.Written pieces → pieces.Perm definition.pieces
  | ⟨_, name, typeParameters, parameters, returns, body, keyword⟩, pieces, h => by
    rw [FunctionDef.Written] at h
    obtain ⟨inner, h, rfl⟩ := h
    rw [FunctionDef.pieces]
    exact ((((h.perm.append_left _).append_left _).append_left _).cons _).cons _

lemma functionsWritten_perm : ∀ {definitions : List FunctionDef} {lists : List (List Piece)},
    functionsWritten definitions lists → lists.flatten.Perm (functionPieces definitions)
  | [], lists, h => by
    rw [functionsWritten] at h
    rw [h, functionPieces, List.flatten_nil]
  | definition :: rest, lists, h => by
    rw [functionsWritten] at h
    obtain ⟨first, others, hf, ho, rfl⟩ := h
    rw [functionPieces, List.flatten_cons]
    exact hf.perm.append (functionsWritten_perm ho)

lemma TypeDef.Written.perm : ∀ {definition : TypeDef} {pieces : List Piece},
    definition.Written pieces → pieces.Perm definition.pieces
  | ⟨_, name, typeParameters, fields, methods, keyword, _⟩, pieces, h => by
    rw [TypeDef.Written] at h
    obtain ⟨bodies, members, hb, hm, rfl⟩ := h
    have h : members.flatten.Perm (fields.flatMap Declaration.pieces ++ functionPieces methods) := by
      refine hm.perm.flatten.trans ?_
      rw [List.flatten_append, ← List.flatMap_def]
      exact (functionsWritten_perm hb).append_left _
    rw [TypeDef.pieces]
    exact ((h.append_left _).cons _).cons _

end

end ArrowScript
