import ArrowScript.Proofs.Grammar.PrintedTerms

/-!
# Terse printing

Expressions written with no more parentheses than they need. Each operator has a place among the levels; an
operation stands bare where operators of its place or looser ones are taken, and in parentheses elsewhere. To the
left of an operator those of its own place are taken, to the right only tighter ones, and behind an operator before
an operand none at all. An expression inside of a term is written bare.
-/

namespace ArrowScript
open Lexeme

/-- The level of an operator, counted from the loosest. -/
def BinaryOperator.place : BinaryOperator → Nat
  | and | or | assign => 0
  | equal | notEqual => 1
  | greater | less | greaterEqual | lessEqual => 2
  | add | subtract => 3
  | multiply | divide | modulo => 4

/-- The sign of an operator between texts of its operands. -/
def between (operator : BinaryOperator) (left right : List Lexeme) : List Lexeme :=
  left ++ sign operator.sign :: right

/-- A text in parentheses. -/
def inParentheses (text : List Lexeme) : List Lexeme :=
  sign .leftParen :: (text ++ [sign .rightParen])

mutual

/-- An expression as lexemes where operators from a place on may stand bare. -/
def Expr.terse (least : Nat) : Expr → List Lexeme
  | .binary operator _ left right _ =>
    let bare := between operator (left.terse operator.place) (right.terse (operator.place + 1))
    if least ≤ operator.place then bare else inParentheses bare
  | .unary operator _ operand _ => sign operator.sign :: operand.terse Grammar.Level.all.length
  | .chain path => path.terse
  | .literal kind span _ => [⟨kind.sign, span.content⟩]
  | .new _ path => sign .kwNew :: path.terse
  | .newArray _ element => sign .kwNew :: sign .leftBracket :: (element.terse ++ [sign .rightBracket])
  | .nothing span => [⟨.nothing, span.content⟩]
  | .missing _ => []

/-- A whole expression as lexemes. -/
def Expression.terse : Expression → List Lexeme
  | ⟨root, _⟩ => root.terse 0

/-- A chain as lexemes. -/
def Chain.terse : Chain → List Lexeme
  | ⟨links, _, _⟩ => separated .dot (terseLinks links)

/-- Links, each as lexemes. -/
def terseLinks : List Link → List (List Lexeme)
  | [] => []
  | link :: rest => link.terse :: terseLinks rest

/-- A link as lexemes. -/
def Link.terse : Link → List Lexeme
  | .name identifier => [.name identifier.span]
  | .index identifier index _ =>
    .name identifier.span :: sign .leftBracket :: (index.terse ++ [sign .rightBracket])
  | .call identifier types arguments _ =>
    .name identifier.span ::
      (angled (types.elim [] typeForms) ++
        sign .leftParen :: (separated .comma (terseArguments arguments) ++ [sign .rightParen]))

/-- Arguments of a call, each as lexemes. -/
def terseArguments : List Expression → List (List Lexeme)
  | [] => []
  | argument :: rest => argument.terse :: terseArguments rest

end

lemma terseLinks_eq_map (links : List Link) : terseLinks links = links.map Link.terse := by
  induction links with
  | nil => rfl
  | cons link rest ih => rw [terseLinks, ih, List.map_cons]

lemma terseArguments_eq_map (arguments : List Expression) :
    terseArguments arguments = arguments.map Expression.terse := by
  induction arguments with
  | nil => rfl
  | cons argument rest ih => rw [terseArguments, ih, List.map_cons]

namespace Grammar

/-! ## Terse terms -/

/-- Links are written as their texts. -/
lemma terse_link (link : Link) : link.terse = linkText Expression.terse link := by
  cases link with
  | name identifier => rfl
  | index identifier index close => rw [Link.terse, linkText]
  | call identifier types arguments close => rw [Link.terse, linkText, terseArguments_eq_map]

/-- Chains are written as their texts. -/
lemma terse_chain (path : Chain) : path.terse = chainText Expression.terse path := by
  obtain ⟨links, span, type⟩ := path
  rw [Chain.terse, chainText, terseLinks_eq_map, List.map_congr_left fun link _ => terse_link link]

/-- Terms without operators are written as their texts. -/
lemma terse_primary {e : Expr} {least : Nat} (primary : e.isPrimary) :
    e.terse least = termText Expression.terse e := by
  cases e with
  | chain path => rw [Expr.terse, termText, terse_chain]
  | literal kind span type => rw [Expr.terse, termText]
  | new keyword path => rw [Expr.terse, termText, terse_chain]
  | newArray keyword element => rw [Expr.terse, termText]
  | nothing span => rw [Expr.terse, termText]
  | binary | unary | missing => cases primary

/-- No operator has a place behind the last level. -/
lemma place_lt (operator : BinaryOperator) : operator.place < Level.all.length := by
  cases operator <;> decide

/-- An operation whose operator has a place is written bare up to there. -/
lemma terse_bare {operator : BinaryOperator} {span : Span} {left right : Expr} {type : Option TypeId} {least : Nat}
    (le : least ≤ operator.place) : (Expr.binary operator span left right type).terse least =
      between operator (left.terse operator.place) (right.terse (operator.place + 1)) := by
  rw [Expr.terse, if_pos le]

/-- Behind its place an operation is written in parentheses. -/
lemma terse_tight {operator : BinaryOperator} {span : Span} {left right : Expr} {type : Option TypeId}
    {least : Nat} (lt : operator.place < least) : (Expr.binary operator span left right type).terse least =
      inParentheses ((Expr.binary operator span left right type).terse 0) := by
  rw [terse_bare (Nat.zero_le _), Expr.terse, if_neg (Nat.not_le.mpr lt)]

/-- The place makes a difference for an operator of that place only. -/
lemma terse_succ {e : Expr} {least : Nat}
    (other : ∀ operator span left right type, e = .binary operator span left right type → operator.place ≠ least) :
    e.terse (least + 1) = e.terse least := by
  cases e with
  | binary operator span left right type =>
    have ne := other operator span left right type rfl
    rcases Nat.lt_or_gt_of_ne ne with lt | gt
    · rw [terse_tight lt, terse_tight (Nat.lt_succ_of_lt lt)]
    · rw [terse_bare gt, terse_bare (Nat.le_of_lt gt)]
  | unary | chain | literal | new | newArray | nothing | missing => rw [Expr.terse, Expr.terse]

/-- An expression starts with an operator or a term. -/
lemma opens_terse (e : Expr) : ∀ least, e.wellFormed → Opens startsExpression (e.terse least) := by
  refine Expr.Hereditary.all (P := fun e => ∀ least, e.wellFormed → Opens startsExpression (e.terse least))
    ⟨?_, ?_, ?_, ?_⟩ e
  · intro operator span left right type opensLeft _ least wf
    simp only [Expr.wellFormed, Bool.and_eq_true] at wf
    rw [Expr.terse]
    split
    · exact (opensLeft operator.place wf.1.2).append _
    · exact ⟨_, _, rfl, rfl⟩
  · intro operator span operand type _ least _
    refine ⟨_, _, rfl, ?_⟩
    rw [sign_kind, startsExpression, unaryOperator?_sign, Option.isSome_some, Bool.or_true]
  · intro e primary _ least wf
    rw [terse_primary primary]
    exact (opens_termText primary wf).mono startsExpression_of_startsTerm
  · intro span least wf
    cases wf

/-- Where no operator is taken, an expression without an operator in front starts with a term. -/
lemma opens_terse_term {e : Expr} (wf : e.wellFormed) (term : e.isTerm) :
    Opens startsTerm (e.terse Level.all.length) := by
  rcases Expr.cases_of_wellFormed wf with ⟨operator, span, left, right, type, rfl⟩ |
    ⟨operator, span, operand, type, rfl⟩ | primary
  · rw [terse_tight (place_lt operator)]
    exact ⟨_, _, rfl, rfl⟩
  · cases term
  · rw [terse_primary primary]
    exact opens_termText primary wf

/-- Signs of operators other than a `>` are passed over by the search or stop it. -/
lemma defers_operator {operator : BinaryOperator} (other : operator ≠ .greater) :
    Defers [sign operator.sign] := by
  by_cases less : operator = .less
  · subst less
    intro depth rest closes
    exact ⟨depth + 1, closes⟩
  · refine defers_of_stops ⟨_, _, rfl, ?_⟩
    cases operator <;> first | rfl | exact absurd rfl other | exact absurd rfl less

/-- The search for the end of type arguments is not decided in an expression in which nothing is found to be
greater. -/
lemma defers_terse (e : Expr) : ∀ least, e.wellFormed → .greater ∉ e.operators → Defers (e.terse least) := by
  refine Expr.Hereditary.all
    (P := fun e => ∀ least, e.wellFormed → .greater ∉ e.operators → Defers (e.terse least)) ⟨?_, ?_, ?_, ?_⟩ e
  · intro operator span left right type defersLeft defersRight least wf absent
    simp only [Expr.wellFormed, Bool.and_eq_true] at wf
    simp only [Expr.operators, List.mem_cons, List.mem_append, not_or] at absent
    rw [Expr.terse]
    split
    · apply (defersLeft _ wf.1.2 absent.2.1).append
      apply (defers_operator (Ne.symm absent.1)).append
      exact defersRight _ wf.2 absent.2.2
    · exact defers_of_stops ⟨_, _, rfl, rfl⟩
  · intro operator span operand type _ least _ _
    refine defers_of_stops ⟨_, _, rfl, ?_⟩
    cases operator <;> rfl
  · intro e primary inner least wf absent
    rw [terse_primary primary]
    refine defers_termText primary wf fun part mem => ?_
    obtain ⟨root, type⟩ := part
    exact inner ⟨root, type⟩ mem 0 (Expr.wellFormed_inner wf _ mem) (Expr.not_mem_inner primary absent _ mem)
  · intro span least wf
    cases wf

end Grammar

end ArrowScript
