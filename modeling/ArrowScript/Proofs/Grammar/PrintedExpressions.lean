import ArrowScript.Proofs.Grammar.PrintedTerms

/-!
# Parsing printed expressions

Printed operations stand in parentheses, so that a printed operand is a term with operators before it. Such
operands are parsed from their text in front of anything that does not continue them, and an operation in front
of its closing parenthesis. Routines that call each other through the whole expression take as a hypothesis that
shorter expressions are parsed (`UndoesExpressions`); the induction is on the bound.
-/

namespace ArrowScript.Grammar
open Lexeme

variable {s : State} {rest : List Lexeme} {expression : Parser Expression} {bound : Nat}

/-! ## Printed terms -/

/-- Links are printed as their texts. -/
lemma lexemes_link (link : Link) : link.lexemes = linkText Expression.lexemes link := by
  cases link with
  | name identifier => rfl
  | index identifier index close => rw [Link.lexemes, linkText]
  | call identifier types arguments close => rw [Link.lexemes, linkText, argumentForms_eq_map]

/-- Chains are printed as their texts. -/
lemma lexemes_chain (path : Chain) : path.lexemes = chainText Expression.lexemes path := by
  obtain ⟨links, span, type⟩ := path
  rw [Chain.lexemes, chainText, linkForms_eq_map, List.map_congr_left fun link _ => lexemes_link link]

/-- Terms without operators are printed as their texts. -/
lemma lexemes_primary {e : Expr} (primary : e.isPrimary) : e.lexemes = termText Expression.lexemes e := by
  cases e with
  | chain path => rw [Expr.lexemes, termText, lexemes_chain]
  | literal kind span type => rw [Expr.lexemes, termText]
  | new keyword path => rw [Expr.lexemes, termText, lexemes_chain]
  | newArray keyword element => rw [Expr.lexemes, termText]
  | nothing span => rw [Expr.lexemes, termText]
  | binary | unary | missing => cases primary

/-- A term is an operation in parentheses or has no operator. -/
lemma binary_or_isPrimary {e : Expr} (wf : e.wellFormed) (term : e.isTerm) :
    (∃ operator span left right type, e = .binary operator span left right type) ∨ e.isPrimary := by
  refine (Expr.cases_of_wellFormed wf).imp_right (Or.resolve_left · ?_)
  rintro ⟨operator, span, operand, type, rfl⟩
  cases term

/-- A chain starts with the name of its first link. -/
lemma opens_chain {path : Chain} (wf : path.wellFormed) : Opens isLinkName path.lexemes := by
  rw [lexemes_chain]
  exact opens_chainText wf

/-- A term starts with a lexeme that is not trivia, closes nothing and is no operator. -/
lemma opens_term {e : Expr} (wf : e.wellFormed) (term : e.isTerm) : Opens startsTerm e.lexemes := by
  rcases binary_or_isPrimary wf term with ⟨operator, span, left, right, type, rfl⟩ | primary
  · simp only [Expr.wellFormed, Bool.and_eq_true, decide_eq_true_eq] at wf
    rw [lexemes_binary wf.1.1]
    exact ⟨_, _, rfl, rfl⟩
  · rw [lexemes_primary primary]
    exact opens_termText primary wf

/-- An expression starts with an operator or a term. -/
lemma opens_expr {e : Expr} (wf : e.wellFormed) : Opens startsExpression e.lexemes := by
  cases term : e.isTerm with
  | true => exact (opens_term wf term).mono startsExpression_of_startsTerm
  | false =>
    cases e with
    | unary operator span operand type =>
      refine ⟨_, _, rfl, ?_⟩
      rw [sign_kind, startsExpression, unaryOperator?_sign, Option.isSome_some, Bool.or_true]
    | _ => cases term

/-- A whole expression starts like its form. -/
lemma opens_expression {e : Expression} (wf : e.wellFormed) : Opens startsExpression e.lexemes := by
  cases e with
  | mk root type => exact opens_expr wf

/-- A move in front of an expression stops on its first lexeme. -/
lemma firm_expr {e : Expr} (wf : e.wellFormed) : Opens isFirm e.lexemes :=
  (opens_expr wf).mono isFirm_of_startsExpression

/-- A move in front of a whole expression stops on its first lexeme. -/
lemma firm_expression {e : Expression} (wf : e.wellFormed) : Opens isFirm e.lexemes :=
  (opens_expression wf).mono isFirm_of_startsExpression

/-- A move in front of a chain stops on the name of its first link. -/
lemma firm_chain {chain : Chain} (wf : chain.wellFormed) : Opens isFirm chain.lexemes :=
  firm_of_isLinkName (opens_chain wf)

/-- The search for the end of type arguments is not decided in a printed expression. -/
lemma defers_expr (e : Expr) : e.wellFormed → Defers e.lexemes := by
  refine Expr.Hereditary.all (P := fun e => e.wellFormed → Defers e.lexemes) ⟨?_, ?_, ?_, ?_⟩ e
  · intro operator span left right type _ _ wf
    simp only [Expr.wellFormed, Bool.and_eq_true, decide_eq_true_eq] at wf
    rw [lexemes_binary wf.1.1]
    exact defers_of_stops ⟨_, _, rfl, rfl⟩
  · intro operator span operand type _ _
    refine defers_of_stops ⟨_, _, rfl, ?_⟩
    cases operator <;> rfl
  · intro e primary inner wf
    rw [lexemes_primary primary]
    refine defers_termText primary wf fun part mem => ?_
    obtain ⟨root, type⟩ := part
    exact inner ⟨root, type⟩ mem (Expr.wellFormed_inner wf _ mem)
  · intro span wf
    cases wf

/-- Expressions inside of links are printed like all others. -/
def parenthesized : Style where
  Fits e := e.wellFormed
  text := Expression.lexemes
  settled := False
  opens _ := opens_expression
  defers := False.elim

/-- Printed operations are in parentheses, so that nothing has to be known of what follows. -/
lemma settles_parenthesized (rest : List Lexeme) : parenthesized.Settles rest :=
  False.elim

/-- A routine parses the text of every expression that is shorter than a bound, in front of what does not
continue it, and that of two operands with an operator between them in front of a closing parenthesis. -/
structure UndoesExpressions (expression : Parser Expression) (bound : Nat) : Prop where
  single : ∀ (e : Expr) (rest : List Lexeme) (s : State), e.wellFormed → e.lexemes.length < bound →
    EndsExpression rest → s.Shows (e.lexemes ++ rest) →
      Gives expression s fun r t => r.root.bare = e.bare ∧ t.Behind rest
  operation : ∀ (operator : BinaryOperator) (left right : Expr) (rest : List Lexeme) (s : State),
    operator ≠ .assign → left.wellFormed → right.wellFormed →
    (left.lexemes ++ sign operator.sign :: right.lexemes).length < bound →
    s.Shows (left.lexemes ++ sign operator.sign :: (right.lexemes ++ sign .rightParen :: rest)) →
      Gives expression s fun r t =>
        r.root.bare = .binary operator default left.bare right.bare none ∧
          t.Behind (sign .rightParen :: rest)

/-- Whole expressions are parsed as their forms are. -/
lemma UndoesExpressions.whole (undoes : UndoesExpressions expression bound) {e : Expression}
    (wf : e.wellFormed) (enough : e.lexemes.length < bound) (ends : EndsExpression rest)
    (h : s.Shows (e.lexemes ++ rest)) :
    Gives expression s fun r t => r.bare = e.bare ∧ t.Behind rest := by
  obtain ⟨root, type⟩ := e
  refine (undoes.single root rest s wf enough ends h).mono ?_
  rintro ⟨r, _⟩ t ⟨same, behind⟩
  exact ⟨congrArg Expression.untyped same, behind⟩

/-- Whole expressions are parsed inside of links, too. -/
lemma UndoesExpressions.inside (undoes : UndoesExpressions expression bound) :
    parenthesized.Undoes expression bound :=
  fun _ _ _ wf enough ends _ h => undoes.whole wf enough ends h

/-- A chain is parsed from its text; it keeps the span of its first token. -/
lemma chain?_gives (undoes : UndoesExpressions expression bound) {chain : Chain} (wf : chain.wellFormed)
    (enough : chain.lexemes.length ≤ bound) (ends : EndsChain rest)
    (h : s.Shows (chain.lexemes ++ rest)) :
    Gives (chain? expression bound) s fun r t =>
      (∃ c, r = some c ∧ c.bare = chain.bare ∧ c.span = s.token.span) ∧ t.Behind rest := by
  rw [lexemes_chain] at h enough
  exact Style.chain?_gives undoes.inside wf (Chain.wellFormed_inner wf) enough ends (settles_parenthesized rest) h

/-- A term is parsed from its text. -/
lemma term_gives (undoes : UndoesExpressions expression bound) {e : Expr} (term : e.isTerm)
    (wf : e.wellFormed) (enough : e.lexemes.length ≤ bound) (ends : EndsChain rest)
    (h : s.Shows (e.lexemes ++ rest)) :
    Gives (Grammar.term expression bound) s fun r t => r.bare = e.bare ∧ t.Behind rest := by
  rcases binary_or_isPrimary wf term with ⟨operator, span, left, right, type, rfl⟩ | primary
  · simp only [Expr.wellFormed, Bool.and_eq_true, decide_eq_true_eq] at wf
    obtain ⟨⟨other, wfLeft⟩, wfRight⟩ := wf
    simp only [lexemes_binary other, List.length_cons, List.length_append, List.length_nil] at enough
    have shows : s.Shows (sign .leftParen ::
        ((left.lexemes ++ sign operator.sign :: right.lexemes) ++ sign .rightParen :: rest)) := by
      simpa [lexemes_binary other] using h
    -- A printed operation stands in parentheses, so it is read as a term.
    refine term_gives_of_parentheses ((firm_expr wfLeft).append _) (fun s shows => ?_) shows
    rw [List.append_assoc, List.cons_append] at shows
    refine (undoes.operation operator left right rest s other wfLeft wfRight ?_ shows).mono ?_
    · simp only [List.length_append, List.length_cons]
      omega
    · rintro r t ⟨same, behind⟩
      rw [same, Expr.bare]
      exact ⟨rfl, behind⟩
  · rw [lexemes_primary primary] at h enough
    exact Style.term_gives undoes.inside primary wf (Expr.wellFormed_inner wf) enough ends
      (settles_parenthesized rest) h

/-! ## Operations -/

/-- A routine parses the text of every operand up to a length. -/
def UndoesOperands (operand : Parser Expr) (bound : Nat) : Prop :=
  ∀ (e : Expr) (rest : List Lexeme) (s : State), e.wellFormed → e.lexemes.length ≤ bound →
    EndsChain rest → s.Shows (e.lexemes ++ rest) →
      Gives operand s fun r t => r.bare = e.bare ∧ t.Behind rest

/-- Operators before a term are parsed from their text if the term is. -/
lemma unaryOperations_gives (undoes : UndoesExpressions expression bound) :
    UndoesOperands (unaryOperations (term expression bound) (bound + 1)) bound := by
  have terms : parenthesized.UndoesForms (fun e => e.isTerm ∧ e.wellFormed) Expr.lexemes
      (term expression bound) bound :=
    fun _ _ _ fits enough ends _ h => term_gives undoes fits.1 fits.2 enough ends h
  intro e rest s wf enough ends h
  refine Style.unaryOperations_gives ?_ (fun _ => opens_expr) (fun _ => opens_term) terms (Nat.le_refl bound) e
    rest s wf enough ends (settles_parenthesized rest) h
  intro operator span operand type wf
  rw [Expr.wellFormed] at wf
  exact ⟨wf, by rw [Expr.lexemes]⟩

/-- A single operand is parsed where no operator follows. -/
lemma operations_single {operand : Parser Expr} (undoes : UndoesOperands operand bound)
    {levels : List Level} {rounds : Nat} {e : Expr} (wf : e.wellFormed)
    (enough : e.lexemes.length ≤ bound) (ends : EndsChain rest)
    (done : ∀ level ∈ levels, level (follow rest) = none) (h : s.Shows (e.lexemes ++ rest)) :
    Gives (operations operand rounds levels) s fun r t => r.bare = e.bare ∧ t.Behind rest := by
  induction levels generalizing s with
  | nil => exact undoes e rest s wf enough ends h
  | cons level tighter ih =>
    simp only [operations, gives_bind]
    refine (ih (fun level mem => done level (.tail _ mem)) h).mono ?_
    rintro r t ⟨same, behind⟩
    rw [operationsFrom_done behind (done level List.mem_cons_self)]
    exact ⟨same, behind⟩

/-- Whether an operator belongs to one of some levels and to no tighter one. -/
def Level.decides (operator : BinaryOperator) : List Level → Bool
  | [] => false
  | level :: tighter =>
    (level operator.sign = some operator && tighter.all fun level => level operator.sign = none) ||
      decides operator tighter

/-- Every operator but assignment belongs to exactly one level. -/
lemma decides_all {operator : BinaryOperator} (h : operator ≠ .assign) :
    Level.decides operator Level.all := by
  cases operator <;> first | rfl | exact absurd rfl h

/-- An operator in front of an operand in parentheses ends the operand before it. -/
lemma endsChain_operator {operator : BinaryOperator} {right : Expr} (wf : right.wellFormed) :
    EndsChain (sign operator.sign :: (right.lexemes ++ sign .rightParen :: rest)) := by
  have firm : isFirm operator.sign := by cases operator <;> rfl
  have following : follow (sign operator.sign :: (right.lexemes ++ sign .rightParen :: rest)) =
      operator.sign := follow_sign firm
  refine ⟨⟨?_, ?_, ?_⟩, ?_⟩
  · rw [following]
    cases operator <;> decide
  · rw [following]
    cases operator <;> decide
  · by_cases less : operator = .less
    · subst less
      exact typeArgumentsBeforeCall_less (defers_expr right wf) (settled_of_stops ⟨_, _, rfl, rfl⟩)
    · apply typeArgumentsBeforeCall_of_follow
      rw [following]
      cases operator <;> first | decide | exact absurd rfl less
  · rw [following]
    cases operator <;> decide

/-- An operation is parsed in front of a closing parenthesis, whatever level its operator is of. -/
lemma operations_operation {operand : Parser Expr} (undoes : UndoesOperands operand bound)
    {levels : List Level} {rounds : Nat} {operator : BinaryOperator} {left right : Expr}
    (closed : ∀ level ∈ levels, level .rightParen = none) (decides : Level.decides operator levels)
    (wfLeft : left.wellFormed) (wfRight : right.wellFormed)
    (enough : (left.lexemes ++ sign operator.sign :: right.lexemes).length ≤ bound)
    (h : s.Shows (left.lexemes ++ sign operator.sign :: (right.lexemes ++ sign .rightParen :: rest))) :
    Gives (operations operand (rounds + 1) levels) s fun r t =>
      r.bare = .binary operator default left.bare right.bare none ∧
        t.Behind (sign .rightParen :: rest) := by
  induction levels generalizing s with
  | nil => cases decides
  | cons level tighter ih =>
    simp only [List.length_append, List.length_cons] at enough
    simp only [operations, gives_bind]
    rw [Level.decides, Bool.or_eq_true] at decides
    rcases decides with here | tighterDecides
    · -- the operator is of this level: each operand is a single one of the tighter levels
      simp only [Bool.and_eq_true, decide_eq_true_eq, List.all_eq_true] at here
      obtain ⟨found, absent⟩ := here
      have firm : isFirm operator.sign := by cases operator <;> rfl
      refine (operations_single undoes wfLeft (by omega) (endsChain_operator wfRight) ?_ h).mono ?_
      · rw [follow_sign firm]
        exact absent
      · rintro l t ⟨sameLeft, behind⟩
        simp only [operationsFrom, gives_bind, gives_peek]
        rw [behind.peek, follow_sign firm, found]
        simp only [gives_bind, gives_advance, gives_span]
        have ends : EndsExpression (sign .rightParen :: rest) := endsExpression_sign rfl rfl
        refine (operations_single undoes wfRight (by omega) ends.endsChain ?_
          ((behind.onto firm).behind.advanced ((firm_expr wfRight).append _))).mono ?_
        · rw [follow_sign rfl]
          exact fun level mem => closed level (.tail _ mem)
        · rintro r u ⟨sameRight, behind⟩
          rw [operationsFrom_done behind]
          · rw [Expr.bare, sameLeft, sameRight]
            exact ⟨rfl, behind⟩
          · rw [follow_sign rfl]
            exact closed level List.mem_cons_self
    · -- the whole operation is one operand of this level, and no operator follows it
      refine (ih (fun level mem => closed level (.tail _ mem)) tighterDecides h).mono ?_
      rintro r t ⟨same, behind⟩
      rw [operationsFrom_done behind]
      · exact ⟨same, behind⟩
      · rw [follow_sign rfl]
        exact closed level List.mem_cons_self

/-- Expressions are parsed from their text. -/
lemma undoesExpressions_expression (bound : Nat) : UndoesExpressions (Grammar.expression bound) bound := by
  induction bound with
  | zero =>
    constructor
    · intro e rest s wf enough
      cases enough
    · intro operator left right rest s other wfLeft wfRight enough
      cases enough
  | succ bound ih =>
    have operand := unaryOperations_gives ih
    constructor
    · intro e rest s wf enough ends h
      simp only [Grammar.expression, gives_bind]
      exact operations_single operand wf (by omega) ends.endsChain ends.operators h
    · intro operator left right rest s other wfLeft wfRight enough h
      simp only [Grammar.expression, gives_bind]
      refine operations_operation operand ?_ (decides_all other) wfLeft wfRight (by omega) h
      simp [Level.all, Level.logical, Level.equality, Level.relational, Level.additive,
        Level.multiplicative]

end ArrowScript.Grammar