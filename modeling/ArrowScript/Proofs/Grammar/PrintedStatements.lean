import ArrowScript.Proofs.Grammar.PrintedDefinitions

/-!
# Parsing printed statements

Loops, conditions and the other statements are parsed from their printed text, and so are blocks of them.
As with expressions, routines that call each other through the statement take as a hypothesis that shorter
statements are parsed (`UndoesStatements`), and the induction is on the bound. A chain of conditions is
taken round by round.
-/

namespace ArrowScript.Grammar
open Lexeme

variable {s : State} {rest : List Lexeme} {bound : Nat}

/-! ## Control -/

/-- A `return` is parsed from its text. -/
lemma returning_gives {keyword : Span} {value : Option Expression}
    (wf : (Statement.returning keyword value).wellFormed)
    (enough : (Statement.returning keyword value).lexemes.length ≤ bound) (ends : EndsLine rest)
    (h : s.Shows ((Statement.returning keyword value).lexemes ++ rest)) :
    Gives (returning bound) s fun r t =>
      r.bare = (Statement.returning keyword value).bare ∧ t.Behind rest := by
  simp only [Statement.lexemes, List.cons_append, List.length_cons] at h enough
  simp only [returning, gives_bind, gives_span, gives_peekWith]
  cases value with
  | none =>
    rw [ends.peek h.behind, if_pos (by rfl)]
    exact ⟨rfl, h.behind⟩
  | some value =>
    rw [Statement.wellFormed, Option.all_some] at wf
    rw [Option.elim_some] at h enough
    have firm := (firm_expression wf).append rest
    rw [h.behind.peekKind .toLineEnds, landing_of_opens _ firm, if_neg]
    · simp only [gives_bind, gives_advance]
      refine ((undoesExpressions_expression bound).whole wf (by omega) ends.endsExpression
        (h.behind.advanced firm)).mono ?_
      rintro r t ⟨same, behind⟩
      exact ⟨congrArg (Statement.returning default ∘ some) same, behind⟩
    · have starts := ((opens_expression wf).append rest).headKind
      revert starts
      cases headKind (value.lexemes ++ rest) <;> nofun

/-- A block in braces ends the condition before it. -/
lemma endsExpression_braced {b : Block} (wf : b.wellFormed .braced) :
    EndsExpression (b.lexemes ++ rest) := by
  obtain ⟨tail, brace⟩ := lexemes_braced wf
  rw [brace]
  exact endsExpression_sign rfl rfl

/-- A block in braces starts with the opening one. -/
lemma opens_braced {b : Block} (wf : b.wellFormed .braced) : Opens isFirm (b.lexemes ++ rest) := by
  obtain ⟨tail, brace⟩ := lexemes_braced wf
  rw [brace]
  exact ⟨_, _, rfl, rfl⟩

variable {block : SyntaxProblem → Parser Block}

/-- A loop is parsed from its text. -/
lemma whileLoop_gives (undoes : UndoesBlocks block bound) {keyword : Span} {condition : Expression}
    {body : Block} (wf : (Statement.whileLoop keyword condition body).wellFormed)
    (enough : (Statement.whileLoop keyword condition body).lexemes.length ≤ bound)
    (h : s.Shows ((Statement.whileLoop keyword condition body).lexemes ++ rest)) :
    Gives (whileLoop block bound) s fun r t =>
      r.bare = (Statement.whileLoop keyword condition body).bare ∧ t.Behind rest := by
  simp only [Statement.wellFormed, Bool.and_eq_true] at wf
  simp only [Statement.lexemes, List.cons_append, List.append_assoc, List.length_cons,
    List.length_append] at h enough
  simp only [whileLoop, gives_bind, gives_span, gives_advance]
  refine ((undoesExpressions_expression bound).whole wf.1 (by omega) (endsExpression_braced wf.2)
    (h.behind.advanced ((firm_expression wf.1).append _))).mono ?_
  rintro c t ⟨sameCondition, behind⟩
  refine (undoes _ body rest _ wf.2 (by omega) (behind.advanced (opens_braced wf.2))).mono ?_
  rintro b u ⟨sameBody, behind⟩
  rw [gives_pure, Statement.bare, Statement.bare, sameCondition, sameBody]
  exact ⟨rfl, behind⟩

/-- A routine parses the text of what is done when a condition fails, from the end of the block before. -/
def UndoesOtherwise (routine : Parser Otherwise) (o : Otherwise) : Prop :=
  ∀ (rest : List Lexeme) (s : State), EndsLine rest → s.Behind (o.lexemes ++ rest) →
    Gives routine s fun r t => r.bare = o.bare ∧ t.Behind rest

/-- A condition is parsed from its text if what is done when it fails is. -/
lemma conditional_gives (undoes : UndoesBlocks block bound) {routine : Parser Otherwise}
    {c : Conditional} (others : UndoesOtherwise routine c.otherwise) (wf : c.wellFormed)
    (enough : c.lexemes.length ≤ bound) (ends : EndsLine rest) (h : s.Shows (c.lexemes ++ rest)) :
    Gives (conditional block bound routine) s fun r t => r.bare = c.bare ∧ t.Behind rest := by
  obtain ⟨condition, body, o, keyword⟩ := c
  simp only [Conditional.wellFormed, Bool.and_eq_true] at wf
  obtain ⟨⟨wfCondition, wfBody⟩, -⟩ := wf
  simp only [Conditional.lexemes, List.cons_append, List.append_assoc, List.length_cons,
    List.length_append] at h enough
  simp only [conditional, gives_bind, gives_span, gives_advance]
  refine ((undoesExpressions_expression bound).whole wfCondition (by omega)
    (endsExpression_braced wfBody) (h.behind.advanced ((firm_expression wfCondition).append _))).mono ?_
  rintro c t ⟨sameCondition, behind⟩
  refine (undoes _ body _ _ wfBody (by omega) (behind.advanced (opens_braced wfBody))).mono ?_
  rintro b u ⟨sameBody, behind⟩
  refine (others rest u ends behind).mono ?_
  rintro o' v ⟨sameOthers, behind⟩
  rw [gives_pure, Conditional.bare, Conditional.bare, sameCondition, sameBody, sameOthers]
  exact ⟨rfl, behind⟩

/-- A condition starts with its keyword. -/
lemma opens_conditional {kinds : Token.Kind → Bool} (c : Conditional) (keyword : kinds .kwIf) :
    Opens kinds c.lexemes := by
  obtain ⟨condition, body, o, span⟩ := c
  exact ⟨_, _, rfl, keyword⟩

/-- What is done when a condition fails is a part of the text of the condition. -/
lemma length_otherwise_le (c : Conditional) : c.otherwise.lexemes.length ≤ c.lexemes.length := by
  obtain ⟨condition, body, o, keyword⟩ := c
  simp only [Conditional.lexemes, List.length_cons, List.length_append]
  omega

/-- What is done when a well-formed condition fails is well-formed. -/
lemma wellFormed_otherwise {c : Conditional} (wf : c.wellFormed) : c.otherwise.wellFormed := by
  obtain ⟨condition, body, o, keyword⟩ := c
  simp only [Conditional.wellFormed, Bool.and_eq_true] at wf
  exact wf.2

/-- What is done when a condition fails is parsed from its text, round by round. -/
lemma undoesOtherwise_otherwise (undoes : UndoesBlocks block bound) {rounds : Nat} {o : Otherwise}
    (wf : o.wellFormed) (enough : o.lexemes.length ≤ bound) (few : o.lexemes.length ≤ rounds) :
    UndoesOtherwise (otherwise block bound rounds) o := by
  induction rounds generalizing o with
  | zero =>
    intro rest s ends behind
    cases o with
    | nothing => exact ⟨rfl, behind⟩
    | conditional c => nomatch few
    | block b => nomatch few
  | succ rounds ih =>
    intro rest s ends behind
    simp only [otherwise, gives_bind, gives_peek]
    cases o with
    | nothing =>
      have behind : s.Behind rest := behind
      rw [behind.peek, if_pos (ends.follow_ne rfl)]
      exact ⟨rfl, behind⟩
    | conditional c =>
      simp only [Otherwise.lexemes, List.length_cons, List.cons_append] at enough few behind
      have opens : Opens (· = .kwIf) (c.lexemes ++ rest) := (opens_conditional c rfl).append rest
      have inside := (behind.onto rfl).behind.advanced (opens.mono (by simp [isFirm, Token.Kind.isTrivia]))
      rw [if_neg (by rw [behind.peek, follow_sign rfl]; simp)]
      simp only [gives_bind, gives_advance, gives_kind]
      rw [inside.kind_of_opens opens]
      simp only [gives_bind]
      -- A further branch is shorter than the whole, so one round less is enough for it.
      have within := length_otherwise_le c
      have others := ih (o := c.otherwise) (wellFormed_otherwise wf) (by omega) (by omega)
      refine (conditional_gives undoes others wf (by omega) ends inside).mono ?_
      rintro r t ⟨same, behind⟩
      exact ⟨congrArg Otherwise.conditional same, behind⟩
    | block b =>
      simp only [Otherwise.lexemes, List.length_cons, List.cons_append] at enough few behind
      have inside := (behind.onto rfl).behind.advanced (opens_braced wf)
      obtain ⟨tail, brace⟩ := lexemes_braced wf
      rw [if_neg (by rw [behind.peek, follow_sign rfl]; simp)]
      simp only [gives_bind, gives_advance, gives_kind]
      rw [inside.kind, brace]
      simp only [List.cons_append, headKind, sign_kind, gives_bind]
      refine (undoes .invalidElse b rest _ wf (by omega) inside).mono ?_
      rintro r t ⟨same, behind⟩
      exact ⟨congrArg Otherwise.block same, behind⟩

/-! ## Imports and paths -/

/-- Whether a chain is plain can be seen without spans. -/
lemma isPlain_bare (chain : Chain) : chain.bare.isPlain = chain.isPlain := by
  obtain ⟨links, span, type⟩ := chain
  rw [Chain.isPlain, Chain.isPlain, Chain.bare, bareLinks_eq_map, List.all_map]
  congr 1
  funext link
  cases link <;> rfl

/-- A chain behind a keyword is parsed from its text. -/
lemma chainBehind?_gives {absent invalid : SyntaxProblem} {target : Chain} {k : Token.Kind}
    (plain : target.isPlain) (wf : target.wellFormed) (enough : target.lexemes.length ≤ bound)
    (ends : EndsLine rest) (h : s.Shows (sign k :: (target.lexemes ++ rest))) :
    Gives (chainBehind? absent invalid bound) s fun r t =>
      (∃ c, r = some c ∧ c.bare = target.bare) ∧ t.Behind rest := by
  have firm := (firm_chain wf).append rest
  simp only [chainBehind?, gives_bind, gives_peekWith]
  rw [h.behind.peekKind .toLineEnds, landing_of_opens _ firm, if_neg]
  · simp only [gives_bind, gives_advance, chain]
    refine (chain?_gives (undoesExpressions_expression bound) wf enough ends.endsExpression.endsChain
      (h.behind.advanced firm)).mono ?_
    rintro _ t ⟨⟨c, rfl, same, -⟩, behind⟩
    have plain : c.isPlain := by
      rw [← isPlain_bare, same, isPlain_bare]
      exact plain
    simp only [plain, if_true]
    exact ⟨⟨c, rfl, same⟩, behind⟩
  · rcases eq_of_isLinkName ((opens_chain wf).append rest).headKind with e | e <;>
    · rw [e]
      decide

/-! ## Blocks -/

/-- A routine parses the text of every statement that is shorter than a bound. -/
def UndoesStatements (routine : Parser (Option Statement)) (bound : Nat) : Prop :=
  ∀ (statement : Statement) (rest : List Lexeme) (s : State), statement.wellFormed →
    statement.lexemes.length < bound → EndsLine rest → s.Shows (statement.lexemes ++ rest) →
      Gives routine s fun r t => (∃ x, r = some x ∧ x.bare = statement.bare) ∧ t.Behind rest

/-- A chain that starts with an identifier. -/
lemma opens_startsWithIdentifier {chain : Chain} (h : chain.startsWithIdentifier) :
    Opens (· = .identifier) chain.lexemes := by
  obtain ⟨links, span, type⟩ := chain
  cases links with
  | nil => cases h
  | cons link others =>
    have definable : isDefinable link.identifier.span := h
    have first : Opens (· = .identifier) link.lexemes := by
      cases link <;> exact opens_name definable (by rfl)
    rw [Chain.lexemes, linkForms_eq_map]
    exact opens_separated first

/-- An assignment or a call starts with an identifier. -/
lemma opens_acts {e : Expr} (wf : e.actsWellFormed) : Opens (· = .identifier) e.lexemes := by
  rcases eq_of_actsWellFormed wf with ⟨_, target, value, _, rfl, starts, -⟩ | ⟨path, rfl, starts, -⟩
  · exact (opens_startsWithIdentifier starts).append _
  · exact opens_startsWithIdentifier starts

/-- A statement starts with an identifier or a keyword. -/
lemma opens_statement {statement : Statement} (wf : statement.wellFormed) :
    Opens startsStatement statement.lexemes := by
  cases statement with
  | type definition =>
    obtain ⟨id, name, typeParameters, fields, methods, keyword, binding⟩ := definition
    exact ⟨_, _, rfl, rfl⟩
  | function definition => exact (opens_functionDef definition).mono (by simp [startsStatement])
  | «variable» declaration => exact (opens_declaration wf).mono (by simp [startsStatement])
  | returning keyword value => exact ⟨_, _, rfl, rfl⟩
  | breaking keyword => exact ⟨_, _, rfl, rfl⟩
  | continuing keyword => exact ⟨_, _, rfl, rfl⟩
  | whileLoop keyword condition body => exact ⟨_, _, rfl, rfl⟩
  | conditional c => exact opens_conditional c rfl
  | importing keyword target => exact ⟨_, _, rfl, rfl⟩
  | path keyword target => exact ⟨_, _, rfl, rfl⟩
  | expression e =>
    obtain ⟨root, type⟩ := e
    exact (opens_acts wf).mono (by simp [startsStatement])

/-- A text at which the statements of a kind of block end. -/
structure EndsBlock (kind : BlockKind) (rest : List Lexeme) : Prop where
  ends : endsBlock kind (headKind rest)
  stays : landing .insensitive rest = rest

/-- The end of the file ends a program. -/
lemma endsBlock_nil : EndsBlock .program [] :=
  ⟨rfl, rfl⟩

/-- The closing brace ends a block in braces. -/
lemma endsBlock_brace : EndsBlock .braced (sign .rightBrace :: rest) :=
  ⟨rfl, landing_of_opens _ ⟨_, _, rfl, rfl⟩⟩

/-- A block ends only where a line may start. -/
lemma EndsBlock.startsLine {kind : BlockKind} (h : EndsBlock kind rest) :
    startsLine (follow rest) := by
  have ends := h.ends
  rw [follow, h.stays]
  revert ends
  cases kind <;> cases headKind rest <;> decide

/-- Behind a line end stands the next statement or the end of the block. -/
lemma lines_start {kind : BlockKind} {list : List Statement} (ends : EndsBlock kind rest)
    (wf : ∀ statement ∈ list, statement.wellFormed) :
    landing .insensitive (lines (list.map Statement.lexemes) ++ rest) =
        lines (list.map Statement.lexemes) ++ rest ∧
      startsLine (follow (lines (list.map Statement.lexemes) ++ rest)) := by
  cases list with
  | nil => exact ⟨ends.stays, ends.startsLine⟩
  | cons first others =>
    have opens : Opens startsLine (lines ((first :: others).map Statement.lexemes) ++ rest) := by
      rw [List.map_cons, lines, List.append_assoc]
      refine ((opens_statement (wf first List.mem_cons_self)).append _).mono ?_
      intro k starts
      rw [startsLine, starts, Bool.true_or, Bool.true_or]
    have firm := opens.mono isFirm_of_startsLine
    exact ⟨landing_of_opens _ firm, follow_of_opens firm ▸ opens.headKind⟩

/-- A statement is finished by going past its line end. -/
lemma finishStatement_gives {post : Unit → State → Prop} (h : s.Behind (sign .endOfLine :: rest))
    (stays : landing .insensitive rest = rest) (goes : ∀ t, t.Shows rest → post () t) :
    Gives finishStatement s post := by
  have line : (s.moved .toLineEnds).Shows (sign .endOfLine :: rest) := h.moved .toLineEnds
  simp only [finishStatement, gives_bind, gives_discard, gives_advanceWith, gives_kind]
  rw [line.sign]
  have next := line.behind.moved .insensitive
  rw [stays] at next
  exact goes _ next

/-- Statements of a block are parsed from their lines. -/
lemma statements_gives {routine : Parser (Option Statement)} (undoes : UndoesStatements routine bound)
    {kind : BlockKind} {list : List Statement} {rounds : Nat} (enough : list.length < rounds)
    (fit : ∀ statement ∈ list, statement.wellFormed ∧ statement.lexemes.length < bound)
    (ends : EndsBlock kind rest) (h : s.Shows (lines (list.map Statement.lexemes) ++ rest)) :
    Gives (statements routine kind rounds) s fun r t =>
      r.map Statement.bare = list.map Statement.bare ∧ t.Shows rest := by
  induction list generalizing rounds s with
  | nil =>
    obtain ⟨rounds, rfl⟩ := Nat.exists_eq_succ_of_ne_zero (n := rounds) (by omega)
    have shows : s.Shows rest := h
    simp only [statements, gives_bind, gives_kind]
    rw [shows.kind, if_pos ends.ends]
    exact ⟨rfl, shows⟩
  | cons first list ih =>
    rw [List.length_cons] at enough
    obtain ⟨rounds, rfl⟩ := Nat.exists_eq_succ_of_ne_zero (n := rounds) (by omega)
    rw [List.map_cons, lines, List.append_assoc, List.cons_append] at h
    obtain ⟨wf, short⟩ := fit first List.mem_cons_self
    have starts := ((opens_statement wf).append (sign .endOfLine ::
      (lines (list.map Statement.lexemes) ++ rest))).headKind
    rw [← h.kind] at starts
    have goesOn : endsBlock kind s.token.kind = false := by
      revert starts
      cases kind <;> cases s.token.kind <;> decide
    obtain ⟨stays, line⟩ := lines_start ends fun statement mem => (fit statement (.tail _ mem)).1
    simp only [statements, gives_bind, gives_kind]
    rw [goesOn, if_neg Bool.false_ne_true, gives_bind]
    refine (undoes first _ s wf short ⟨_, rfl, line⟩ h).mono ?_
    rintro _ t ⟨⟨x, rfl, same⟩, behind⟩
    simp only [gives_bind]
    refine finishStatement_gives behind stays ?_
    intro u shows
    refine (ih (by omega) (fun statement mem => fit statement (.tail _ mem)) shows).mono ?_
    rintro r v ⟨others, shows⟩
    exact ⟨List.cons_eq_cons.mpr ⟨same, others⟩, shows⟩

/-- A well-formed block has its kind and well-formed statements. -/
lemma of_wellFormed {kind : BlockKind} {b : Block} (wf : b.wellFormed kind) :
    b.kind = kind ∧ ∀ statement ∈ b.statements, statement.wellFormed := by
  obtain ⟨id, own, list, span⟩ := b
  simpa [Block.wellFormed, statementsWellFormed_eq_all] using wf

/-- Blocks with the same kind and statements are the same when bare. -/
lemma bare_block {b c : Block} (kind : b.kind = c.kind)
    (statements : b.statements.map Statement.bare = c.statements.map Statement.bare) :
    b.bare = c.bare := by
  obtain ⟨_, _, _, _⟩ := b
  obtain ⟨_, _, _, _⟩ := c
  rw [Block.bare, Block.bare, bareStatements_eq_map, bareStatements_eq_map]
  exact congrArg₂ (Block.mk default · · default) kind statements

/-- A block in braces is the lines of its statements between them. -/
lemma lexemes_block {b : Block} (kind : b.kind = .braced) :
    b.lexemes =
      sign .leftBrace :: (lines (b.statements.map Statement.lexemes) ++ [sign .rightBrace]) := by
  obtain ⟨id, _, list, span⟩ := b
  subst kind
  rw [Block.lexemes, statementForms_eq_map]

/-- A program is the lines of its statements. -/
lemma lexemes_program {b : Block} (kind : b.kind = .program) :
    b.lexemes = lines (b.statements.map Statement.lexemes) := by
  obtain ⟨id, _, list, span⟩ := b
  subst kind
  rw [Block.lexemes, statementForms_eq_map]

/-- A block is parsed from its text if its statements are. -/
lemma undoesBlocks_block {routine : Parser (Option Statement)} (undoes : UndoesStatements routine bound) :
    UndoesBlocks (Grammar.block routine bound) bound := by
  intro problem b rest s wf enough h
  obtain ⟨kind, wf⟩ := of_wellFormed wf
  simp only [lexemes_block kind, List.cons_append, List.append_assoc, List.nil_append,
    List.length_cons, List.length_append] at h enough
  have few := length_le_lines Statement.lexemes b.statements
  have inside := h.numbered.behind.moved .insensitive
  rw [(lines_start endsBlock_brace wf).1] at inside
  simp only [Grammar.block, gives_bind, gives_freshId, gives_span]
  rw [gives_expect h.numbered.sign, gives_advance]
  refine (statements_gives undoes (by omega) (fun statement mem => ⟨wf statement mem, ?_⟩)
    endsBlock_brace inside).mono ?_
  · have short := length_form_lt_lines Statement.lexemes mem
    omega
  · rintro r t ⟨same, closed⟩
    rw [gives_expect closed.sign]
    exact ⟨bare_block kind.symm same, closed.behind⟩

/-- Statements are parsed from their text. -/
lemma undoesStatements_statement? (bound : Nat) : UndoesStatements (statement? bound) bound := by
  induction bound with
  | zero => exact fun _ _ _ _ enough => nomatch enough
  | succ bound ih =>
    intro statement rest s wf enough ends h
    have blocks := undoesBlocks_block ih
    have functions := undoesFunctions_functionDef blocks
    simp only [statement?, gives_bind, gives_kind]
    -- The first token of what is printed decides which routine reads it back.
    cases statement with
    | type definition =>
      obtain ⟨id, name, typeParameters, fields, methods, keyword, binding⟩ := definition
      have kind : s.token.kind = .kwType := h.kind
      rw [kind]
      simp only [gives_bind]
      refine (typeDef_gives functions wf (Nat.le_of_lt_succ enough) h).mono ?_
      rintro r t ⟨same, behind⟩
      exact ⟨⟨_, rfl, congrArg Statement.type same⟩, behind⟩
    | function definition =>
      have kind := h.kind_of_opens ((opens_functionDef definition).append rest)
      rw [kind]
      simp only [gives_bind]
      refine (functions definition rest s wf (Nat.le_of_lt_succ enough) h).mono ?_
      rintro r t ⟨same, behind⟩
      exact ⟨⟨_, rfl, congrArg Statement.function same⟩, behind⟩
    | «variable» declaration =>
      have kind := h.kind_of_opens ((opens_declaration wf).append rest)
      rw [kind]
      refine (namedStatement?_gives_declaration wf (Nat.le_of_lt_succ enough) ends h).mono ?_
      rintro _ t ⟨⟨x, rfl, same⟩, behind⟩
      exact ⟨⟨_, rfl, congrArg Statement.variable same⟩, behind⟩
    | returning keyword value =>
      have kind : s.token.kind = .kwReturn := h.kind
      rw [kind]
      simp only [gives_bind]
      refine (returning_gives wf (Nat.le_of_lt_succ enough) ends h).mono ?_
      rintro r t ⟨same, behind⟩
      exact ⟨⟨_, rfl, same⟩, behind⟩
    | breaking keyword =>
      have kind : s.token.kind = .kwBreak := h.kind
      rw [kind]
      exact ⟨⟨_, rfl, rfl⟩, h.behind⟩
    | continuing keyword =>
      have kind : s.token.kind = .kwContinue := h.kind
      rw [kind]
      exact ⟨⟨_, rfl, rfl⟩, h.behind⟩
    | whileLoop keyword condition body =>
      have kind : s.token.kind = .kwWhile := h.kind
      rw [kind]
      simp only [gives_bind]
      refine (whileLoop_gives blocks wf (Nat.le_of_lt_succ enough) h).mono ?_
      rintro r t ⟨same, behind⟩
      exact ⟨⟨_, rfl, same⟩, behind⟩
    | conditional c =>
      have kind : s.token.kind = .kwIf := h.kind_of_opens ((opens_conditional c rfl).append rest)
      have short : c.lexemes.length ≤ bound := Nat.le_of_lt_succ enough
      have within := length_otherwise_le c
      have others : UndoesOtherwise (otherwise (block (statement? bound) bound) bound bound)
          c.otherwise :=
        undoesOtherwise_otherwise blocks (wellFormed_otherwise wf) (by omega) (by omega)
      rw [kind]
      simp only [gives_bind]
      refine (conditional_gives blocks others wf short ends h).mono ?_
      rintro r t ⟨same, behind⟩
      exact ⟨⟨_, rfl, congrArg Statement.conditional same⟩, behind⟩
    | importing keyword target =>
      have kind : s.token.kind = .kwImport := h.kind
      simp only [Statement.wellFormed, Bool.and_eq_true] at wf
      rw [Statement.lexemes, List.length_cons] at enough
      rw [kind]
      simp only [importing?, gives_bind, gives_span]
      refine (chainBehind?_gives wf.1 wf.2 (by omega) ends h).mono ?_
      rintro _ t ⟨⟨c, rfl, same⟩, behind⟩
      exact ⟨⟨_, rfl, congrArg (Statement.importing default) same⟩, behind⟩
    | path keyword target =>
      have kind : s.token.kind = .kwPath := h.kind
      simp only [Statement.wellFormed, Bool.and_eq_true] at wf
      rw [Statement.lexemes, List.length_cons] at enough
      rw [kind]
      simp only [path?, gives_bind, gives_span]
      refine (chainBehind?_gives wf.1 wf.2 (by omega) ends h).mono ?_
      rintro _ t ⟨⟨c, rfl, same⟩, behind⟩
      exact ⟨⟨_, rfl, congrArg (Statement.path default) same⟩, behind⟩
    | expression e =>
      obtain ⟨root, type⟩ := e
      have acts : root.actsWellFormed := wf
      have kind := h.kind_of_opens ((opens_acts acts).append rest)
      rw [kind]
      refine (namedStatement?_gives_expression acts (Nat.le_of_lt_succ enough) ends h).mono ?_
      rintro _ t ⟨⟨x, rfl, same⟩, behind⟩
      exact ⟨⟨_, rfl, congrArg Statement.expression same⟩, behind⟩

end ArrowScript.Grammar
