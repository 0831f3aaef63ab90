import Mathlib.Data.Nat.Init
import ArrowScript.Proofs.Grammar.RoundTrip
import ArrowScript.Proofs.Grammar.Terse
import ArrowScript.Proofs.Grammar.Thinning

/-!
# Terse printing and parsing

Parsing undoes terse printing, so operators bind and group as their places say. The levels of operations are gone
through from the tightest to the loosest; the operations of one level are taken along the left operands, behind
which the text goes on with the next operator. A `<` and a `>` may not both occur among the operators, as what stands
between them could be taken for type arguments.
-/

namespace ArrowScript.Grammar
open Lexeme

variable {s : State} {rest : List Lexeme} {expression : Parser Expression} {bound : Nat}

/-! ## Expressions without one of the brackets of types -/

/-- Well-formed expressions in which an operator does not occur. -/
def Avoids (avoided : BinaryOperator) (e : Expr) : Prop :=
  e.wellFormed ∧ avoided ∉ e.operators

variable {avoided : BinaryOperator}

/-- The operands of an operation avoid what it avoids. -/
lemma Avoids.operands {operator : BinaryOperator} {span : Span} {left right : Expr} {type : Option TypeId}
    (h : Avoids avoided (.binary operator span left right type)) :
    operator ≠ .assign ∧ operator ≠ avoided ∧ Avoids avoided left ∧ Avoids avoided right := by
  obtain ⟨wf, absent⟩ := h
  simp only [Expr.wellFormed, Bool.and_eq_true, decide_eq_true_eq] at wf
  simp only [Expr.operators, List.mem_cons, List.mem_append, not_or] at absent
  exact ⟨wf.1.1, Ne.symm absent.1, ⟨wf.1.2, absent.2.1⟩, ⟨wf.2, absent.2.2⟩⟩

/-- What is inside of a term avoids what it avoids. -/
lemma Avoids.inner {e : Expr} (h : Avoids avoided e) (primary : e.isPrimary) :
    ∀ x ∈ e.inner, Avoids avoided x.root
  | ⟨root, type⟩, mem =>
    ⟨Expr.wellFormed_inner h.1 ⟨root, type⟩ mem, Expr.not_mem_inner primary h.2 ⟨root, type⟩ mem⟩

/-- Expressions in which an operator does not occur, written tersely. -/
def terse (avoided : BinaryOperator) : Style where
  Fits e := Avoids avoided e.root
  text := Expression.terse
  settled := avoided = .greater
  opens := fun ⟨root, _⟩ fits => opens_terse root 0 fits.1
  defers := by
    rintro rfl ⟨root, type⟩ fits
    exact defers_terse root 0 fits.1 fits.2

/-- Signs of operators are not trivia. -/
lemma isFirm_operator (operator : BinaryOperator) : isFirm operator.sign := by
  cases operator <;> rfl

/-- An operator is found at its place, and not behind. -/
lemma level_at_place {operator : BinaryOperator} (h : operator ≠ .assign) :
    ∃ level, Level.all.drop operator.place = level :: Level.all.drop (operator.place + 1) ∧
      level operator.sign = some operator ∧
      ∀ tighter ∈ Level.all.drop (operator.place + 1), tighter operator.sign = none := by
  cases operator with
  | assign => exact absurd rfl h
  | _ => exact ⟨_, rfl, rfl, by decide⟩

/-- A text that continues no chain and has no operator in front whose place is the given one or behind. -/
structure EndsFrom (avoided : BinaryOperator) (least : Nat) (rest : List Lexeme) : Prop extends
    EndsChain rest where
  levels : ∀ level ∈ Level.all.drop least, level (follow rest) = none
  settles : (terse avoided).Settles rest

/-- What ends operations of a place ends those of the next one. -/
lemma EndsFrom.tighter {least : Nat} (h : EndsFrom avoided least rest) : EndsFrom avoided (least + 1) rest where
  toEndsChain := h.toEndsChain
  levels level mem := h.levels level (List.mem_of_mem_tail (List.tail_drop ▸ mem))
  settles := h.settles

/-- An operator with its right operand ends the left one. -/
lemma endsFrom_operator (bracket : avoided = .less ∨ avoided = .greater) {operator : BinaryOperator}
    {right : Expr} {least : Nat} (assigns : operator ≠ .assign) (other : operator ≠ avoided)
    (fits : Avoids avoided right) (settles : (terse avoided).Settles rest) :
    EndsFrom avoided (operator.place + 1) (sign operator.sign :: (right.terse least ++ rest)) := by
  have following : follow (sign operator.sign :: (right.terse least ++ rest)) = operator.sign :=
    follow_sign (isFirm_operator operator)
  refine ⟨⟨⟨?_, ?_, ?_⟩, ?_⟩, ?_, ?_⟩
  · rw [following]
    cases operator <;> decide
  · rw [following]
    cases operator <;> decide
  · by_cases less : operator = .less
    · -- A `<` is compared with, as no `>` among the operators closes type arguments.
      subst less
      have greater := bracket.resolve_left other.symm
      subst greater
      exact typeArgumentsBeforeCall_less (defers_terse right least fits.1 fits.2) (settles rfl)
    · apply typeArgumentsBeforeCall_of_follow
      rw [following]
      cases operator <;> first | decide | exact absurd rfl less
  · rw [following]
    cases operator <;> decide
  · obtain ⟨level, -, -, absent⟩ := level_at_place assigns
    rw [following]
    exact absent
  · rintro rfl
    have text := (defers_operator other).append (defers_terse right least fits.1 fits.2)
    exact text.settled (settles rfl)

/-! ## Levels -/

/-- A routine parses expressions in which an operator does not occur from how they are written where operators from a
place on may stand bare. -/
def UndoesFrom (avoided : BinaryOperator) (least : Nat) (routine : Parser Expr) (bound : Nat) : Prop :=
  ∀ (e : Expr) (rest : List Lexeme) (s : State), Avoids avoided e → (e.terse least).length ≤ bound →
    EndsFrom avoided least rest → s.Shows (e.terse least ++ rest) →
      Gives routine s fun r t => r.bare = e.bare ∧ t.Behind rest

/-- An expression is parsed operand by operand if what is done behind the whole of it may be done behind its first
operand and the operators of the level that follow, with rounds left over. -/
def GoesAlong (avoided : BinaryOperator) (level : Level) (least : Nat) (tighter : Parser Expr) (bound : Nat)
    (e : Expr) : Prop :=
  ∀ (rest : List Lexeme) (s : State) (rounds left : Nat) (post : Expr → State → Prop), Avoids avoided e →
    (e.terse least).length ≤ bound → (e.terse least).length + left ≤ rounds →
    EndsFrom avoided (least + 1) rest → s.Shows (e.terse least ++ rest) →
    (∀ r t others, left ≤ others → r.bare = e.bare → t.Behind rest →
      Gives (operationsFrom tighter level others r) t post) →
    Gives tighter s fun r t => Gives (operationsFrom tighter level rounds r) t post

variable {level : Level} {least : Nat} {tighter : Parser Expr}

/-- An expression that is no operation of a level is a single operand of it. -/
lemma goesAlong_single (undoes : UndoesFrom avoided (least + 1) tighter bound) {e : Expr}
    (other : ∀ operator span left right type, e = .binary operator span left right type → operator.place ≠ least) :
    GoesAlong avoided level least tighter bound e := by
  intro rest s rounds left post fits enough few ends h goes
  rw [← terse_succ other] at h enough
  refine (undoes e rest s fits enough ends h).mono fun r t read => ?_
  exact goes r t rounds (by omega) read.1 read.2

/-- An operation of a level is parsed operand by operand if its left operand is. -/
lemma goesAlong_operation (bracket : avoided = .less ∨ avoided = .greater)
    (undoes : UndoesFrom avoided (least + 1) tighter bound) {operator : BinaryOperator} {span : Span}
    {left right : Expr} {type : Option TypeId} (found : level operator.sign = some operator)
    (place : operator.place = least) (along : GoesAlong avoided level least tighter bound left) :
    GoesAlong avoided level least tighter bound (.binary operator span left right type) := by
  intro rest s rounds more post fits enough few ends h goes
  obtain ⟨assigns, other, fitsLeft, fitsRight⟩ := fits.operands
  rw [terse_bare (Nat.le_of_eq place.symm), place, between] at h enough few
  rw [List.append_assoc, List.cons_append] at h
  rw [List.length_append, List.length_cons] at enough few
  have operand : EndsFrom avoided (operator.place + 1) (sign operator.sign :: (right.terse (least + 1) ++ rest)) :=
    endsFrom_operator bracket assigns other fitsRight ends.settles
  rw [place] at operand
  refine along _ s rounds ((right.terse (least + 1)).length + 1 + more) post fitsLeft (by omega) (by omega)
    operand h ?_
  intro l t others rounds sameLeft behind
  obtain ⟨others, rfl⟩ := Nat.exists_eq_succ_of_ne_zero (n := others) (by omega)
  have firm := (opens_terse right (least + 1) fitsRight.1).mono isFirm_of_startsExpression
  simp only [operationsFrom, gives_bind, gives_peek]
  rw [behind.peek, follow_sign (isFirm_operator operator), found]
  simp only [gives_bind, gives_advance, gives_span]
  refine (undoes right rest _ fitsRight (by omega) ends
    ((behind.onto (isFirm_operator operator)).behind.advanced (firm.append rest))).mono ?_
  rintro r u ⟨sameRight, behind⟩
  refine goes _ u others (by omega) ?_ behind
  rw [Expr.bare, Expr.bare, sameLeft, sameRight]

/-- All expressions are parsed operand by operand. -/
lemma goesAlong (bracket : avoided = .less ∨ avoided = .greater)
    (here : Level.all.drop least = level :: Level.all.drop (least + 1))
    (undoes : UndoesFrom avoided (least + 1) tighter bound) (e : Expr) :
    GoesAlong avoided level least tighter bound e := by
  refine Expr.Hereditary.all (P := GoesAlong avoided level least tighter bound) ⟨?_, ?_, ?_, ?_⟩ e
  · intro operator span left right type along _
    by_cases place : operator.place = least
    · intro rest s rounds more post fits
      obtain ⟨own, same, found, -⟩ := level_at_place fits.operands.1
      rw [place, here] at same
      rw [← (List.cons.inj same).1] at found
      exact goesAlong_operation bracket undoes found place along rest s rounds more post fits
    · refine goesAlong_single undoes ?_
      rintro _ _ _ _ _ ⟨⟩
      exact place
  · exact fun _ _ _ _ _ => goesAlong_single undoes nofun
  · intro e primary _
    refine goesAlong_single undoes ?_
    rintro _ _ _ _ _ rfl
    cases primary
  · exact fun _ => goesAlong_single undoes nofun

/-- The operations of all levels from a place on are parsed if the operands of the last level are. -/
lemma undoesFrom_operations (bracket : avoided = .less ∨ avoided = .greater) {operand : Parser Expr} {rounds : Nat}
    (enough : bound ≤ rounds) (undoes : UndoesFrom avoided Level.all.length operand bound)
    (le : least ≤ Level.all.length) :
    UndoesFrom avoided least (operations operand rounds (Level.all.drop least)) bound := by
  -- The induction goes from the tightest level to the loosest.
  induction le using Nat.decreasingInduction with
  | self =>
    rw [List.drop_length]
    exact undoes
  | of_succ least lt ih =>
    intro e rest s fits short ends h
    have here := List.drop_eq_getElem_cons lt
    rw [here]
    simp only [operations, gives_bind]
    refine goesAlong bracket here ih e rest s rounds 0 _ fits short (by omega) ends.tighter h ?_
    intro r t others _ same behind
    rw [operationsFrom_done behind (ends.levels _ (here ▸ List.mem_cons_self))]
    exact ⟨same, behind⟩

/-! ## Expressions -/

/-- A term is parsed from how it is written where no operator is taken. -/
lemma term_gives_terse (undoes : (terse avoided).Undoes expression bound) :
    (terse avoided).UndoesForms (fun e => e.isTerm ∧ Avoids avoided e) (Expr.terse Level.all.length)
      (term expression bound) bound := by
  rintro e rest s ⟨term, fits⟩ enough ends settles h
  rcases Expr.cases_of_wellFormed fits.1 with ⟨operator, span, left, right, type, rfl⟩ |
    ⟨operator, span, operand, type, rfl⟩ | primary
  · rw [terse_tight (place_lt operator), inParentheses] at h enough
    simp only [List.length_cons, List.length_append, List.length_nil] at enough
    rw [List.cons_append, List.append_assoc] at h
    have firm := (opens_terse _ 0 fits.1).mono isFirm_of_startsExpression
    refine term_gives_of_parentheses firm (fun s shows => ?_) h
    have closing : EndsExpression (sign .rightParen :: rest) := endsExpression_sign rfl rfl
    refine (undoes ⟨_, none⟩ _ s fits (by exact Nat.lt_of_succ_lt enough) closing (Style.settles_sign rfl)
      shows).mono ?_
    rintro ⟨r, _⟩ t ⟨same, behind⟩
    exact ⟨congrArg Expression.root same, behind⟩
  · cases term
  · rw [terse_primary primary] at h enough
    exact Style.term_gives undoes primary fits.1 (fits.inner primary) enough ends settles h

/-- Operators in front of a term are parsed with it. -/
lemma undoesFrom_unaryOperations (undoes : (terse avoided).Undoes expression bound) :
    UndoesFrom avoided Level.all.length (unaryOperations (term expression bound) (bound + 1)) bound := by
  intro e rest s fits enough ends h
  refine Style.unaryOperations_gives ?_ (fun e fits => opens_terse e _ fits.1)
    (fun e fits => opens_terse_term fits.1) (term_gives_terse undoes) (Nat.le_refl bound) e rest s fits enough
    ends.toEndsChain ends.settles h
  intro operator span operand type fits
  refine ⟨fits, ?_⟩
  rw [Expr.terse]

/-- Expressions are parsed from how they are written tersely. -/
lemma undoes_expression_terse (bracket : avoided = .less ∨ avoided = .greater) (bound : Nat) :
    (terse avoided).Undoes (Grammar.expression bound) bound := by
  induction bound with
  | zero => exact fun _ _ _ _ enough => nomatch enough
  | succ bound ih =>
    rintro ⟨root, type⟩ rest s fits enough ends settles h
    have operations := undoesFrom_operations bracket (Nat.le_succ bound) (undoesFrom_unaryOperations ih)
      (Nat.zero_le _)
    simp only [Grammar.expression, gives_bind]
    refine (operations root rest s fits (Nat.le_of_lt_succ enough) ⟨ends.endsChain, ends.operators, settles⟩ h).mono ?_
    rintro r t ⟨same, behind⟩
    exact ⟨congrArg Expression.untyped same, behind⟩

/-! ## Assignments -/

/-- The program that assigns the value of an expression to a variable. -/
def assignment (name : Span) (e : Expr) : Block :=
  ⟨default, .program, [.expression (.untyped
    (.binary .assign default (.chain ⟨[.name (.unbound name)], name, none⟩) e none))], default⟩

/-- What the program is written as. -/
def assignmentText (name : Span) (e : Expr) : List Lexeme :=
  .name name :: sign .arrow :: e.terse 0

/-- At the end of the file a statement is finished. -/
lemma finishStatement_gives_last {post : Unit → State → Prop} (h : s.Behind [])
    (goes : ∀ t, t.Shows [] → post () t) : Gives finishStatement s post := by
  have finished : (s.moved .toLineEnds).Shows [] := h.moved .toLineEnds
  simp only [finishStatement, gives_bind, gives_discard, gives_advanceWith, gives_kind]
  rw [finished.kind]
  exact goes _ finished

/-- The assignment is parsed from what it is written as. -/
lemma statement?_gives_assignment (bracket : avoided = .less ∨ avoided = .greater) {name : Span} {e : Expr}
    (definable : isDefinable name) (fits : Avoids avoided e) (enough : (assignmentText name e).length < bound)
    (h : s.Shows (assignmentText name e)) :
    Gives (statement? bound) s fun r t =>
      (∃ x, r = some x ∧ [x.bare] = (assignment name e).bare.statements) ∧ t.Behind [] := by
  obtain ⟨bound, rfl⟩ := Nat.exists_eq_succ_of_ne_zero (Nat.ne_zero_of_lt enough)
  simp only [assignmentText, List.length_cons] at enough
  let target : Chain := ⟨[.name (.unbound name)], name, none⟩
  have wf : target.wellFormed := by
    rw [Chain.wellFormed, linksWellFormed, linksWellFormed, Link.wellFormed, Bool.and_true]
    exact definable
  have firm := (opens_terse e 0 fits.1).mono isFirm_of_startsExpression
  have value : ∀ s : State, s.Shows (e.terse 0 ++ []) →
      Gives (Grammar.expression bound) s fun r t => r.root.bare = e.bare ∧ t.Behind [] := by
    intro s shows
    refine (undoes_expression_terse bracket bound ⟨e, none⟩ [] s fits ?_ rfl (fun _ _ => rfl) shows).mono ?_
    · exact Nat.lt_of_succ_lt (Nat.lt_of_succ_lt_succ enough)
    · rintro ⟨r, _⟩ t ⟨same, behind⟩
      exact ⟨congrArg Expression.root same, behind⟩
  have shows : s.Shows (target.lexemes ++ sign .arrow :: (e.terse 0 ++ [])) := by
    rw [List.append_nil]
    exact h
  have one : target.lexemes.length ≤ bound := by
    have text : target.lexemes.length = 1 := rfl
    omega
  have kind : s.token.kind = .identifier := h.kind_of_opens (opens_name definable rfl)
  simp only [statement?, gives_bind, gives_kind]
  rw [kind]
  refine (namedStatement?_gives_assignment wf one firm value shows).mono ?_
  · rintro _ t ⟨⟨x, rfl, same⟩, behind⟩
    exact ⟨⟨_, rfl, congrArg ([Statement.expression ·]) same⟩, behind⟩

/-- The program is parsed from what it is written as. -/
lemma program_gives_assignment (bracket : avoided = .less ∨ avoided = .greater) {name : Span} {e : Expr}
    (definable : isDefinable name) (fits : Avoids avoided e) (enough : (assignmentText name e).length < bound)
    (h : s.Shows (assignmentText name e)) :
    Gives (program bound) s fun r t => r.bare = (assignment name e).bare ∧ t.Shows [] := by
  have kind : s.numbered.token.kind = .identifier := h.numbered.kind_of_opens (opens_name definable rfl)
  obtain ⟨rounds, rfl⟩ := Nat.exists_eq_succ_of_ne_zero (Nat.ne_zero_of_lt enough)
  simp only [program, statements, gives_bind, gives_freshId, gives_span, gives_kind]
  rw [kind, if_neg (by decide), gives_bind]
  refine (statement?_gives_assignment bracket definable fits enough h.numbered).mono ?_
  rintro _ t ⟨⟨x, rfl, same⟩, behind⟩
  simp only [gives_bind]
  refine finishStatement_gives_last behind fun u finished => ?_
  have few : ([] : List Statement).length < rounds :=
    Nat.lt_of_lt_of_le (Nat.succ_pos _) (Nat.le_of_lt_succ enough)
  refine (statements_gives (undoesStatements_statement? _) few (List.forall_mem_nil _) endsBlock_nil
    finished).mono ?_
  rintro r v ⟨none, finished⟩
  rw [List.map_nil, List.map_eq_nil_iff] at none
  subst none
  exact ⟨congrArg (Block.mk default .program · default) same, finished⟩

/-- Operators bind and group exactly as their places say. The tokens of an assignment whose value is written with
no parentheses but those that it needs, with any idle trivia in between, are parsed without reports as the assignment
of this value, provided that not both `<` and `>` occur among its operators. -/
theorem parse_terse {name : Span} {e : Expr} {tokens body : List Token} {last : Token}
    (definable : isDefinable name) (wf : e.wellFormed) (apart : .less ∉ e.operators ∨ .greater ∉ e.operators)
    (written : Spelled body (assignmentText name e)) (thinned : Token.Thinned tokens body)
    (file : last.kind = .endOfFile)
    (same : ∀ token ∈ tokens ++ [last], ∀ other ∈ tokens ++ [last], token.span.file = other.span.file) :
    (parse (tokens ++ [last])).diagnostics = [] ∧
      (parse (tokens ++ [last])).program.root.bare = (assignment name e).bare := by
  have member : last ∈ tokens ++ [last] := List.mem_append_right _ List.mem_cons_self
  rw [← parse_closed_thinned file (fun token mem => same token (List.mem_append_left _ mem) last member)
    (thinned.closed file)]
  have pending : (Cursor.onFirst (body ++ [last])).pending = body := by rw [onFirst_append file]
  have firm : Opens isFirm (assignmentText name e) := opens_name definable rfl
  have shows : State.Shows ⟨(Cursor.onFirst (body ++ [last])).skip .insensitive, 0, #[]⟩
      (assignmentText name e) := by
    refine ⟨?_, rfl⟩
    have skipped := written.dropWhile Sensitivity.insensitive.skips
    rw [← landing, landing_of_opens _ firm, ← pending] at skipped
    exact skipped
  have enough : (assignmentText name e).length < (Cursor.onFirst (body ++ [last])).pending.length + 1 := by
    rw [pending, written.length_eq]
    exact Nat.lt_succ_self _
  have found : ∃ avoided, (avoided = .less ∨ avoided = .greater) ∧ Avoids avoided e :=
    apart.elim (fun absent => ⟨_, .inl rfl, wf, absent⟩) fun absent => ⟨_, .inr rfl, wf, absent⟩
  obtain ⟨avoided, bracket, fits⟩ := found
  obtain ⟨same, finished⟩ := program_gives_assignment bracket definable fits enough shows
  refine ⟨?_, same⟩
  have clean : (parse (body ++ [last])).findings = [] := List.eq_nil_of_length_eq_zero finished.clean
  rw [Parsed.diagnostics, clean, List.map_nil]

/-- The tokens of `x -> a - (b - c) < f<int>(-a)`, with blanks around the arrow, are parsed as this assignment. -/
theorem parse_terse_comparison :
    ∃ (e : Expr) (tokens : List Token), e.wellFormed ∧ .greater ∉ e.operators ∧
      tokens.map Token.kind =
        [.identifier, .whitespace, .arrow, .whitespace, .identifier, .minus, .leftParen, .identifier, .minus,
          .identifier, .rightParen, .less, .identifier, .less, .builtinType, .greater, .leftParen, .minus,
          .identifier, .rightParen, .endOfFile] ∧
      (parse tokens).diagnostics = [] ∧
      ∃ name, (parse tokens).program.root.bare = (assignment name e).bare := by
  let word (text : String) : Span := ⟨some text, "", 0, 0, 1, 1⟩
  let named (text : String) : Expr := .chain ⟨[.name (.unbound (word text))], word text, none⟩
  let difference (left right : Expr) : Expr := .binary .subtract default left right none
  let call : Link :=
    .call (.unbound (word "f")) (some [.named (word "int") true]) [.untyped (.unary .negate default (named "a") none)]
      (word ")")
  let e : Expr := .binary .less default (difference (named "a") (difference (named "b") (named "c")))
    (.chain ⟨[call], word "f", none⟩) none
  let blank : Token := ⟨.whitespace, default⟩
  let last : Token := ⟨.endOfFile, default⟩
  let value := (e.terse 0).map Lexeme.token
  let tokens := (Lexeme.name (word "x")).token :: blank :: (sign .arrow).token :: blank :: value
  have thinned : Token.Thinned tokens ((assignmentText (word "x") e).map Lexeme.token) :=
    .keep (.drop (by decide +kernel) (.keep (.drop (by decide +kernel) (.refl value))))
  have wf : e.wellFormed := by decide +kernel
  have absent : .greater ∉ e.operators := by decide +kernel
  have definable : isDefinable (word "x") := by decide +kernel
  have same : ∀ token ∈ tokens ++ [last], ∀ other ∈ tokens ++ [last], token.span.file = other.span.file := by
    decide +kernel
  have parsed := parse_terse definable wf (.inr absent) (spelled_tokens _) thinned rfl same
  refine ⟨e, tokens ++ [last], wf, absent, by decide +kernel, ?_⟩
  clear_value tokens e
  exact ⟨parsed.1, _, parsed.2⟩

end ArrowScript.Grammar
