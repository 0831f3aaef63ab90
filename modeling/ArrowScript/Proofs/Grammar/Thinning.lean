import ArrowScript.Proofs.Grammar.Steady
import ArrowScript.Token.Scan

/-!
# Thinning the tokens of a program

Every routine of the grammar is steady, or parallel to itself if it gives out handles; those that are entered again
are by induction on their bound. Parsing therefore does not notice when idle trivia is left out: the tree, its
handles and spans and what is reported stay the same. A bound that is large enough for all tokens is large enough
for those that are kept, too.
-/

namespace ArrowScript.Grammar

open Token (Thinned)

variable {α : Type} {shift : Nat}

/-! ## Written types -/

/-- A list in commas is parallel to another if their elements are. -/
lemma commaList_parallel {f : α → α} {element other : Parser α} (h : Parallel shift f element other)
    (closing : Token.Kind) (unseparated unclosed : SyntaxProblem) (bound : Nat) :
    Parallel shift (List.map f) (commaList element closing unseparated unclosed bound)
      (commaList other closing unseparated unclosed bound) := by
  induction bound with
  | zero => exact .pure rfl
  | succ bound ih =>
    rw [commaList, commaList]
    refine .bind h fun first => Steady.advance.andThen fun _ => (Steady.standsOn _).andThen fun closed => ?_
    split
    · exact .pure rfl
    · refine (Steady.expect _ _).andThen fun _ => Steady.tryAdvance.andThen fun moved => ?_
      split
      · exact .bind ih fun rest => .pure rfl
      · exact (Steady.expect _ _).andThen fun _ => .pure rfl

/-- A list in commas is steady if its elements are. -/
lemma commaList_steady {element : Parser α} (h : Steady element) (closing : Token.Kind)
    (unseparated unclosed : SyntaxProblem) (bound : Nat) :
    Steady (commaList element closing unseparated unclosed bound) :=
  fun shift => List.map_id_fun ▸ commaList_parallel (h shift) closing unseparated unclosed bound

/-- A list in angle brackets is steady if its elements are. -/
lemma inAngles_steady {element : Parser α} (h : Steady element) (empty unclosed : SyntaxProblem) (bound : Nat) :
    Steady (inAngles element empty unclosed bound) := by
  refine .bind .advance fun _ => .bind (.standsOn _) fun closed => ?_
  split
  · exact .bind (.report _) fun _ => .pure []
  · exact commaList_steady h _ _ _ _

lemma typeParameters_steady (bound : Nat) : Steady (typeParameters bound) :=
  inAngles_steady (.bind (.expect _ _) fun _ => .span) _ _ _

/-- Type arguments are steady if types are. -/
lemma typeArgumentsOf_steady {type : Parser TypeRef} (h : Steady type) (bound : Nat) :
    Steady (typeArgumentsOf type bound) := by
  refine inAngles_steady (.bind .kind fun k => ?_) _ _ _
  split
  · exact h
  · exact .bind (.report _) fun _ => .bind .span fun name => .pure _

lemma typeRef_steady (bound : Nat) : Steady (typeRef bound) := by
  induction bound with
  | zero => exact .bind .span fun name => .pure _
  | succ bound ih =>
    -- What follows the name is read in the same way whether or not a name was found.
    have named : Steady (typeFromName bound (typeRef bound)) := by
      refine .bind .span fun name => .bind .kind fun k => .bind .peek fun next => ?_
      simp only
      split
      · exact .bind .advance fun _ => .bind (typeArgumentsOf_steady ih bound) fun list =>
          .bind .arrayBrackets fun array => .pure _
      · exact .bind (.pure []) fun list => .bind .arrayBrackets fun array => .pure _
    refine .bind .kind fun k => ?_
    simp only
    split
    · exact named
    · exact .bind (.report _) fun _ => named

lemma typeArguments_steady (bound : Nat) : Steady (typeArguments bound) :=
  typeArgumentsOf_steady (typeRef_steady bound) bound

/-! ## Expressions -/

/-- Operations of one level are steady if their operands are. -/
lemma operationsFrom_steady {operand : Parser Expr} (h : Steady operand) (level : Level) (bound : Nat) :
    ∀ left, Steady (operationsFrom operand level bound left) := by
  induction bound with
  | zero => exact fun left => .pure left
  | succ bound ih =>
    intro left
    rw [operationsFrom]
    refine .bind .peek fun k => ?_
    split
    · exact .bind .advance fun _ => .bind .span fun sign => .bind .advance fun _ => .bind h fun right => ih _
    · exact .pure left

/-- Operations of some levels are steady if their operands are. -/
lemma operations_steady {operand : Parser Expr} (h : Steady operand) (bound : Nat) (levels : List Level) :
    Steady (operations operand bound levels) := by
  induction levels with
  | nil => exact h
  | cons level tighter ih => exact .bind ih fun left => operationsFrom_steady ih level bound left

/-- Unary operations are steady if the term is. -/
lemma unaryOperations_steady {term : Parser Expr} (h : Steady term) (bound : Nat) :
    Steady (unaryOperations term bound) := by
  induction bound with
  | zero => exact .bind .span fun _ => .pure _
  | succ bound ih =>
    rw [unaryOperations]
    refine .bind .kind fun k => ?_
    split
    · exact .bind .span fun sign => .bind .advance fun _ => .bind ih fun operand => .pure _
    · exact h

section Expressions

variable {expression : Parser Expression}

/-- Arguments of a call are steady if expressions are. -/
lemma argumentList_steady (h : Steady expression) (bound : Nat) : Steady (argumentList expression bound) := by
  induction bound with
  | zero => exact .pure []
  | succ bound ih =>
    have open' (first : Expression) : Steady (do
        reportAt .callWithoutClosing (← peekSpan)
        return [first]) :=
      .bind .peekSpan fun _ => .bind (.reportAt _ _) fun _ => .pure _
    rw [argumentList]
    refine .bind h fun first => .bind .peek fun k => ?_
    split
    · exact .bind .advance fun _ => .pure _
    · exact .bind .advance fun _ => .bind .advance fun _ => .bind ih fun rest => .pure _
    · exact open' first
    · exact open' first
    · exact open' first
    · exact open' first
    · exact .bind .peekSpan fun _ => .bind (.reportAt _ _) fun _ => .bind .advance fun _ =>
        .bind ih fun rest => .pure _

/-- A name with an index is steady if expressions are. -/
lemma indexLink_steady (h : Steady expression) : Steady (indexLink expression) := by
  refine .bind .span fun name => .bind .advance fun _ => .bind .peek fun k => ?_
  split
  · exact .bind .advance fun _ => .bind (.report _) fun _ => .bind .span fun close => .pure _
  · exact .bind .advance fun _ => .bind h fun index => .bind (.closeWith _ _) fun close => .pure _

/-- A call is steady if expressions are. -/
lemma callLink_steady (h : Steady expression) (bound : Nat) : Steady (callLink expression bound) := by
  have arguments : Steady (callArguments expression bound) := by
    refine .bind .peek fun k => ?_
    split
    · exact .bind .advance fun _ => .bind .span fun close => .pure _
    · exact .bind .advance fun _ => .bind (argumentList_steady h bound) fun list => .bind .span fun close => .pure _
  refine .bind .span fun name => .bind .advance fun _ => .bind (.standsOn _) fun opened => ?_
  simp only
  split
  · exact .bind (typeArguments_steady bound) fun types => .bind .advance fun _ => .bind (.pure _) fun types =>
      .bind (.expect _ _) fun _ => .bind arguments fun result => .pure _
  · exact .bind (.pure none) fun types => .bind (.expect _ _) fun _ => .bind arguments fun result => .pure _

/-- A link is steady if expressions are. -/
lemma link?_steady (h : Steady expression) (bound : Nat) : Steady (link? expression bound) := by
  refine .bind .kind fun k => .bind .peek fun next => ?_
  split
  · exact .bind (indexLink_steady h) fun link => .pure _
  · refine .bind .genericCallAhead fun generic => ?_
    split
    · exact .bind (callLink_steady h bound) fun link => .pure _
    · split
      · exact .bind .span fun name => .pure _
      · exact .bind (.report _) fun _ => .pure none

/-- Links are steady if each of them is. -/
lemma links?_steady {link? : Parser (Option Link)} (h : Steady link?) (bound : Nat) :
    Steady (links? link? bound) := by
  induction bound with
  | zero => exact .pure none
  | succ bound ih =>
    rw [links?]
    refine .bind h fun link? => ?_
    -- Without a link the chain is given up.
    split
    · refine .bind .peek fun k => ?_
      split
      · exact .pure _
      · exact .bind .advance fun _ => .bind .advance fun _ => .bind ih fun rest? => .pure _
    · exact .pure none

/-- A chain is steady if expressions are. -/
lemma chain?_steady (h : Steady expression) (bound : Nat) : Steady (chain? expression bound) :=
  .bind .span fun _ => .bind (links?_steady (link?_steady h bound) bound) fun _ => .pure _

/-- A new value is steady if expressions are. -/
lemma newTerm_steady (h : Steady expression) (bound : Nat) : Steady (newTerm expression bound) := by
  refine .bind .span fun keyword => .bind .advance fun _ => .bind (.standsOn _) fun array => ?_
  split
  · exact .bind .advance fun _ => .bind h fun element => .bind (.discard (.closeWith _ _)) fun _ => .pure _
  · refine .bind (chain?_steady h bound) fun path? => ?_
    split
    · split
      · exact .pure _
      · exact .bind (.report _) fun _ => .pure _
    · exact .bind (.report _) fun _ => .pure _

/-- A term is steady if expressions are. -/
lemma term_steady (h : Steady expression) (bound : Nat) : Steady (term expression bound) := by
  have path (start : Span) : Steady (do
      return (← chain? expression bound).elim (Expr.missing start) .chain) :=
    .bind (chain?_steady h bound) fun path? => .pure _
  unfold term
  refine .bind .span fun start => .bind .kind fun k => ?_
  split
  · exact .pure _
  · split
    · exact .pure _
    · exact .bind .advance fun _ => .bind h fun inner => .bind (.discard (.closeWith _ _)) fun _ => .pure _
    · exact newTerm_steady h bound
    · exact path start
    · exact path start
    · exact .bind (.report _) fun _ => .pure _

end Expressions

lemma expression_steady (bound : Nat) : Steady (expression bound) := by
  induction bound with
  | zero => exact .bind .span fun _ => .pure _
  | succ bound ih =>
    -- An expression is entered again, with a smaller bound, only from its terms.
    exact .bind (operations_steady (unaryOperations_steady (term_steady ih bound) (bound + 1)) (bound + 1) Level.all)
      fun root => .pure _

lemma chain_steady (bound : Nat) : Steady (chain bound) :=
  chain?_steady (expression_steady bound) bound

/-! ## Statements -/

/-- What later handles make of a statement that may be there. -/
def statementLater (shift : Nat) : Option Statement → Option Statement :=
  Option.map (Statement.renumber (.later shift))

lemma statementLater_some (statement : Statement) :
    statementLater shift (some statement) = some (statement.renumber (.later shift)) :=
  rfl

/-- Statements are parallel if each of them is. -/
lemma statements_parallel {statement? : Parser (Option Statement)}
    (h : Parallel shift (statementLater shift) statement? statement?) (block : BlockKind) (bound : Nat) :
    Parallel shift (statementsRenumbered (.later shift)) (statements statement? block bound)
      (statements statement? block bound) := by
  induction bound with
  | zero => exact .pure (by rw [statementsRenumbered])
  | succ bound ih =>
    rw [statements]
    refine Steady.kind.andThen fun k => ?_
    split
    · exact .pure (by rw [statementsRenumbered])
    · refine .bind h fun statement? => ?_
      cases statement? with
      | some first =>
        exact Steady.finishStatement.andThen fun _ => .bind ih fun rest => .pure (by rw [statementsRenumbered])
      | none =>
        refine Steady.tryAdvance.andThen fun moved => ?_
        split
        · exact ih
        · exact .pure (by rw [statementsRenumbered])

/-- A block is parallel to itself if its statements are. -/
lemma block_parallel {statement? : Parser (Option Statement)}
    (h : Parallel shift (statementLater shift) statement? statement?) (bound : Nat) (unopened : SyntaxProblem) :
    Parallel shift (Block.renumber (.later shift)) (block statement? bound unopened)
      (block statement? bound unopened) :=
  .bind (.freshId shift) fun _ => Steady.span.andThen fun _ => (Steady.expect _ _).andThen fun _ =>
    Steady.advance.andThen fun _ => .bind (statements_parallel h .braced bound) fun _ =>
      (Steady.expect _ _).andThen fun _ => .pure (by rw [Block.renumber])

lemma parameters_parallel (bound : Nat) :
    Parallel shift (List.map (Parameter.renumber (.later shift))) (parameters bound) (parameters bound) := by
  have parameter : Parallel shift (Parameter.renumber (.later shift)) (parameter bound) (parameter bound) :=
    (Steady.expect _ _).andThen fun _ => Steady.span.andThen fun name => Steady.advance.andThen fun _ =>
      (Steady.expect _ _).andThen fun _ => Steady.advance.andThen fun _ => (typeRef_steady bound).andThen fun written =>
        .bind (.freshId shift) fun id => .pure rfl
  refine (Steady.standsOn _).andThen fun closed => ?_
  split
  · exact .pure rfl
  · exact commaList_parallel parameter _ _ _ _

lemma optionalTypeParameters_steady (bound : Nat) : Steady (optionalTypeParameters bound) := by
  refine .bind (.standsOn _) fun opened => ?_
  split
  · exact .bind (typeParameters_steady bound) fun names => .bind .advance fun _ => .pure _
  · exact .pure none

lemma optionalReturn_steady (bound : Nat) : Steady (optionalReturn bound) := by
  refine .bind (.standsOn _) fun colon => ?_
  split
  · exact .bind .advance fun _ => .bind (typeRef_steady bound) fun written => .bind .advance fun _ => .pure _
  · exact .pure none

/-- A function is parallel to itself if its block is. -/
lemma functionDef_parallel {block : SyntaxProblem → Parser Block}
    (h : ∀ unopened, Parallel shift (Block.renumber (.later shift)) (block unopened) (block unopened)) (bound : Nat) :
    Parallel shift (FunctionDef.renumber (.later shift)) (functionDef block bound) (functionDef block bound) :=
  Steady.span.andThen fun _ => .bind (.freshId shift) fun _ => Steady.advance.andThen fun _ =>
    (Steady.expect _ _).andThen fun _ => Steady.span.andThen fun _ => Steady.advance.andThen fun _ =>
      (optionalTypeParameters_steady bound).andThen fun _ => (Steady.expect _ _).andThen fun _ =>
        Steady.advance.andThen fun _ => .bind (parameters_parallel bound) fun _ => Steady.advance.andThen fun _ =>
          (optionalReturn_steady bound).andThen fun _ => .bind (h _) fun _ => .pure (by rw [FunctionDef.renumber])

lemma declaration_parallel (name : Span) (bound : Nat) :
    Parallel shift (Declaration.renumber (.later shift)) (declaration name bound) (declaration name bound) := by
  -- With and without a written type, a declaration goes on alike.
  have rest (id : NodeId) (written : Option TypeRef) : Parallel shift (Declaration.renumber (.later shift)) (do
      if (← peekWith .toLineEnds) = .arrow then
        advance
        advance
        return { id, name, written, initial := some (← expression bound), type := none : Declaration }
      if written.isNone then report .untypedWithoutValue
      return { id, name, written, initial := none, type := none : Declaration }) (do
      if (← peekWith .toLineEnds) = .arrow then
        advance
        advance
        return { id := id.later shift, name, written, initial := some (← expression bound), type := none : Declaration }
      if written.isNone then report .untypedWithoutValue
      return { id := id.later shift, name, written, initial := none, type := none : Declaration }) := by
    refine Steady.peekToLineEnds.andThen fun k => ?_
    simp only
    split
    · exact Steady.advance.andThen fun _ => Steady.advance.andThen fun _ =>
        (expression_steady bound).andThen fun value => .pure rfl
    · split
      · exact (Steady.report _).andThen fun _ => .pure rfl
      · exact .pure rfl
  refine .bind (.freshId shift) fun id => Steady.peekToLineEnds.andThen fun k => ?_
  simp only
  split
  · exact Steady.advance.andThen fun _ => (typeRef_steady bound).andThen fun written =>
      (Steady.pure (some written)).andThen (rest id)
  · exact (Steady.pure none).andThen (rest id)

lemma namedStatement?_parallel (bound : Nat) :
    Parallel shift (statementLater shift) (namedStatement? bound) (namedStatement? bound) := by
  unfold namedStatement?
  refine (chain_steady bound).andThen fun target? => ?_
  split
  · refine Steady.peek.andThen fun k => ?_
    split
    · refine Steady.advance.andThen fun _ => ?_
      split
      · exact .bind (declaration_parallel _ bound) fun declaration =>
          .pure (by rw [statementLater_some, Statement.renumber])
      · exact (Steady.report _).andThen fun _ => .pure rfl
    · exact Steady.advance.andThen fun _ => Steady.span.andThen fun arrow => Steady.advance.andThen fun _ =>
        (expression_steady bound).andThen fun value => .pure (by rw [statementLater_some, Statement.renumber])
    · split
      · exact .pure (by rw [statementLater_some, Statement.renumber])
      · exact (Steady.report _).andThen fun _ => .pure rfl
  · exact .pure rfl

/-- What later handles make of the members of a type. -/
def membersLater (shift : Nat) : List Declaration × List FunctionDef → List Declaration × List FunctionDef
  | (fields, methods) => (fields.map (Declaration.renumber (.later shift)), functionsRenumbered (.later shift) methods)

/-- Fields and methods are parallel if functions and statements are. -/
lemma members_parallel {functionDef : Parser FunctionDef} {named? : Parser (Option Statement)}
    (h : Parallel shift (FunctionDef.renumber (.later shift)) functionDef functionDef)
    (g : Parallel shift (statementLater shift) named? named?) (bound : Nat) :
    Parallel shift (membersLater shift) (members functionDef named? bound) (members functionDef named? bound) := by
  have nothing : membersLater shift ([], []) = ([], []) := by
    rw [membersLater, List.map_nil, functionsRenumbered]
  induction bound with
  | zero => exact .pure nothing
  | succ bound ih =>
    rw [members]
    refine Steady.kind.andThen fun k => ?_
    split
    · exact .pure nothing
    · exact .pure nothing
    · have misplaced : Parallel shift (membersLater shift)
          (do report .memberNotVariable; advance; members functionDef named? bound)
          (do report .memberNotVariable; advance; members functionDef named? bound) :=
        (Steady.report _).andThen fun _ => Steady.advance.andThen fun _ => ih
      refine .bind g fun statement? => ?_
      match statement? with
      | none => exact Steady.advance.andThen fun _ => ih
      | some (.variable field) =>
        rw [statementLater_some, Statement.renumber]
        exact Steady.advance.andThen fun _ => .bind ih fun rest => .pure rfl
      | some (.type _) | some (.function _) | some (.whileLoop ..) | some (.conditional _) | some (.returning ..)
      | some (.breaking _) | some (.continuing _) | some (.importing ..) | some (.path ..) | some (.expression _) =>
        rw [statementLater_some, Statement.renumber]
        exact misplaced
    · exact .bind h fun method => Steady.advance.andThen fun _ => .bind ih fun (fields, methods) =>
        .pure (by rw [membersLater, functionsRenumbered])
    · exact (Steady.report _).andThen fun _ => Steady.advance.andThen fun _ => ih

/-- A type is parallel to itself if its methods are. -/
lemma typeDef_parallel {functionDef : Parser FunctionDef}
    (h : Parallel shift (FunctionDef.renumber (.later shift)) functionDef functionDef) (bound : Nat) :
    Parallel shift (TypeDef.renumber (.later shift)) (typeDef functionDef bound) (typeDef functionDef bound) :=
  Steady.span.andThen fun _ => .bind (.freshId shift) fun _ => Steady.advance.andThen fun _ =>
    (Steady.expect _ _).andThen fun _ => Steady.span.andThen fun _ => Steady.advance.andThen fun _ =>
      (optionalTypeParameters_steady bound).andThen fun _ => (Steady.expect _ _).andThen fun _ =>
        Steady.advance.andThen fun _ => .bind (members_parallel h (namedStatement?_parallel bound) bound) fun _ =>
          (Steady.expect _ _).andThen fun _ => .pure (by rw [TypeDef.renumber])

/-! ## Control -/

lemma returning_parallel (bound : Nat) :
    Parallel shift (Statement.renumber (.later shift)) (returning bound) (returning bound) := by
  refine Steady.span.andThen fun keyword => Steady.peekToLineEnds.andThen fun k => ?_
  split
  · exact .pure (by rw [Statement.renumber])
  · exact Steady.advance.andThen fun _ => (expression_steady bound).andThen fun value =>
      .pure (by rw [Statement.renumber])

section Control

variable {block : SyntaxProblem → Parser Block}

/-- A loop is parallel to itself if its block is. -/
lemma whileLoop_parallel
    (h : ∀ unopened, Parallel shift (Block.renumber (.later shift)) (block unopened) (block unopened)) (bound : Nat) :
    Parallel shift (Statement.renumber (.later shift)) (whileLoop block bound) (whileLoop block bound) :=
  Steady.span.andThen fun _ => Steady.advance.andThen fun _ => (expression_steady bound).andThen fun _ =>
    Steady.advance.andThen fun _ => .bind (h _) fun _ => .pure (by rw [Statement.renumber])

/-- A conditional is parallel to another if their blocks and what they do otherwise are. -/
lemma conditional_parallel
    (h : ∀ unopened, Parallel shift (Block.renumber (.later shift)) (block unopened) (block unopened)) (bound : Nat)
    {otherwise : Parser Otherwise} (g : Parallel shift (Otherwise.renumber (.later shift)) otherwise otherwise) :
    Parallel shift (Conditional.renumber (.later shift)) (conditional block bound otherwise)
      (conditional block bound otherwise) :=
  Steady.span.andThen fun _ => Steady.advance.andThen fun _ => (expression_steady bound).andThen fun _ =>
    Steady.advance.andThen fun _ => .bind (h _) fun _ => .bind g fun _ => .pure (by rw [Conditional.renumber])

/-- What is done when a condition fails is parallel to itself if blocks are. -/
lemma otherwise_parallel
    (h : ∀ unopened, Parallel shift (Block.renumber (.later shift)) (block unopened) (block unopened))
    (bound rounds : Nat) :
    Parallel shift (Otherwise.renumber (.later shift)) (otherwise block bound rounds)
      (otherwise block bound rounds) := by
  induction rounds with
  | zero => exact .pure (by rw [Otherwise.renumber])
  | succ rounds ih =>
    rw [otherwise]
    refine Steady.peek.andThen fun k => ?_
    split
    · exact .pure (by rw [Otherwise.renumber])
    · refine Steady.advance.andThen fun _ => Steady.advance.andThen fun _ => Steady.kind.andThen fun k => ?_
      split
      · exact .bind (conditional_parallel h bound ih) fun conditional => .pure (by rw [Otherwise.renumber])
      · exact .bind (h _) fun block => .pure (by rw [Otherwise.renumber])
      · exact (Steady.report _).andThen fun _ => .pure (by rw [Otherwise.renumber])

end Control

lemma chainBehind?_steady (absent invalid : SyntaxProblem) (bound : Nat) :
    Steady (chainBehind? absent invalid bound) := by
  refine .bind .peekToLineEnds fun k => ?_
  simp only
  split
  · exact .bind (.report _) fun _ => .pure none
  · refine .bind .advance fun _ => .bind (chain_steady bound) fun target? => ?_
    split
    · split
      · exact .pure _
      · exact .bind (.report _) fun _ => .pure _
    · exact .bind (.report _) fun _ => .pure none

lemma statement?_parallel (shift bound : Nat) :
    Parallel shift (statementLater shift) (statement? bound) (statement? bound) := by
  induction bound with
  | zero => exact .pure rfl
  | succ bound ih =>
    -- Statements are entered again from blocks alone, those of functions and types included.
    have blocks := block_parallel ih bound
    have functions := functionDef_parallel blocks bound
    have importing {keyword : Span} (target? : Option Chain) :
        statementLater shift (target?.map (.importing keyword)) = target?.map (.importing keyword) := by
      cases target? with
      | none => rfl
      | some target => rw [Option.map_some, statementLater_some, Statement.renumber]
    have path {keyword : Span} (target? : Option Chain) :
        statementLater shift (target?.map (.path keyword)) = target?.map (.path keyword) := by
      cases target? with
      | none => rfl
      | some target => rw [Option.map_some, statementLater_some, Statement.renumber]
    rw [statement?]
    refine Steady.kind.andThen fun k => ?_
    split
    · exact .bind (typeDef_parallel functions bound) fun definition =>
        .pure (by rw [statementLater_some, Statement.renumber])
    · exact .bind functions fun definition => .pure (by rw [statementLater_some, Statement.renumber])
    · exact .bind (returning_parallel bound) fun statement => .pure rfl
    · exact Steady.span.andThen fun span => .pure (by rw [statementLater_some, Statement.renumber])
    · exact Steady.span.andThen fun span => .pure (by rw [statementLater_some, Statement.renumber])
    · exact .bind (whileLoop_parallel blocks bound) fun statement => .pure rfl
    · exact .bind (conditional_parallel blocks bound (otherwise_parallel blocks bound bound)) fun conditional =>
        .pure (by rw [statementLater_some, Statement.renumber])
    · exact Steady.span.andThen fun keyword => (chainBehind?_steady _ _ bound).andThen fun target? =>
        .pure (importing target?)
    · exact Steady.span.andThen fun keyword => (chainBehind?_steady _ _ bound).andThen fun target? =>
        .pure (path target?)
    · exact namedStatement?_parallel bound
    · exact (Steady.report _).andThen fun _ => .pure rfl
    · exact (Steady.report _).andThen fun _ => .pure rfl

/-! ## Programs -/

/-- A program is parallel to itself. -/
lemma program_parallel (shift bound : Nat) :
    Parallel shift (Block.renumber (.later shift)) (program bound) (program bound) :=
  .bind (.freshId shift) fun _ => Steady.span.andThen fun _ =>
    .bind (statements_parallel (statement?_parallel shift bound) .program bound) fun _ =>
      .pure (by rw [Block.renumber])

/-- A program is read alike from states that give out the same handles. -/
lemma program_steady (bound : Nat) (s t : State) (along : Alongside 0 s t) (root : Block) (s' : State)
    (run : Runs (program bound) s root s') : ∃ t', Runs (program bound) t root t' ∧ Alongside 0 s' t' := by
  obtain ⟨t', run', along⟩ := program_parallel 0 bound s t along root s' run
  exact ⟨t', root.renumber_zero ▸ run', along⟩

variable {tokens kept : List Token}

/-- Parsing starts on the same token when idle trivia is left out. -/
lemma start_alongside {last : Token} (file : last.kind = .endOfFile) (h : Thinned (tokens ++ [last]) kept) :
    Alongside 0 (.start (tokens ++ [last])) (.start kept) := by
  -- The end of file is no trivia, so it is kept and both lists close with the same token.
  obtain ⟨front, rfl, thinned⟩ := h.of_closed file
  have next := thinned.past_trivia
  simp only [← Sensitivity.insensitive_skips] at next
  simp only [State.start, Cursor.onFirst, List.getLast?_concat, file, if_pos, List.dropLast_concat]
  exact ⟨next.1, next.2, rfl, rfl, rfl⟩

/-- A program is of the file that its first token comes from, or, if there is none, its end. -/
lemma file_of_closed {last : Token} (file : last.kind = .endOfFile)
    (same : ∀ token ∈ tokens, token.span.file = last.span.file) :
    (parse (tokens ++ [last])).program.file = last.span.file := by
  show (Cursor.onFirst (tokens ++ [last])).current.span.file = last.span.file
  simp only [Cursor.onFirst, List.getLast?_concat, file, if_pos, List.dropLast_concat]
  cases tokens with
  | nil => rfl
  | cons token rest => exact same token List.mem_cons_self

/-- Closed tokens of one file are parsed alike when idle trivia is left out. -/
lemma parse_closed_thinned {last : Token} (file : last.kind = .endOfFile)
    (same : ∀ token ∈ tokens, token.span.file = last.span.file) (h : Thinned (tokens ++ [last]) (kept ++ [last])) :
    parse (kept ++ [last]) = parse (tokens ++ [last]) := by
  obtain ⟨rest, split, thinned⟩ := h.of_closed file
  obtain rfl := List.append_cancel_right split
  have pending (list : List Token) : (Cursor.onFirst (list ++ [last])).pending = list := by
    simp [Cursor.onFirst, file]
  -- Both runs are made with the bound of the longer list.
  obtain ⟨s, -, run, found⟩ := (staysWithin (tokens ++ [last])).ends (tokens.length + 1) (by simp [pending])
  obtain ⟨t, -, run', found'⟩ := (staysWithin (kept ++ [last])).ends (tokens.length + 1)
    (by simpa [pending] using Nat.lt_succ_of_le thinned.sublist.length_le)
  obtain ⟨u, ran, along⟩ := program_steady _ _ _ (start_alongside file h) _ _ run
  obtain ⟨root, rfl⟩ := Prod.mk.inj (run'.symm.trans ran)
  have fileOf (list : List Token) (sub : list ⊆ tokens) :
      (parse (list ++ [last])).program.file = last.span.file :=
    file_of_closed file fun token mem => same token (sub mem)
  calc parse (kept ++ [last])
      = ⟨⟨(parse (kept ++ [last])).program.file, (parse (kept ++ [last])).program.root⟩,
          (parse (kept ++ [last])).findings⟩ := rfl
    _ = ⟨⟨(parse (tokens ++ [last])).program.file, (parse (tokens ++ [last])).program.root⟩,
          (parse (tokens ++ [last])).findings⟩ := by
        rw [fileOf kept thinned.sublist.subset, fileOf tokens (List.Subset.refl _), root, found, found',
          along.findings]
    _ = parse (tokens ++ [last]) := rfl

/-- Trivia matters only where the language asks for it: leaving out any comments, any blanks that no bracket
follows and any line ends that another line end follows changes neither the tree nor what is reported. -/
theorem parse_thinned (closed : tokens.getLast?.map Token.kind = some .endOfFile)
    (same : ∀ token ∈ tokens, ∀ other ∈ tokens, token.span.file = other.span.file) (h : Thinned tokens kept) :
    parse kept = parse tokens := by
  obtain ⟨last, ends, file⟩ := Option.map_eq_some_iff.mp closed
  obtain ⟨front, rfl⟩ := List.getLast?_eq_some_iff.mp ends
  obtain ⟨rest, rfl, -⟩ := h.of_closed file
  have member : last ∈ front ++ [last] := List.mem_append_right _ List.mem_cons_self
  exact parse_closed_thinned file (fun token mem => same token (List.mem_append_left _ mem) last member) h

/-- The tokens of a declaration with a blank behind the colon and before a comment, and of two line ends. -/
def spacedDeclaration : List Token :=
  (Token.scanFrom "main.as" .start [⟨some .identifier, ['x']⟩, ⟨some .colon, [':']⟩, ⟨some .whitespace, [' ']⟩,
    ⟨some .builtinType, ['i', 'n', 't']⟩, ⟨some .leftBracket, ['[']⟩, ⟨some .rightBracket, [']']⟩,
    ⟨some .whitespace, [' ']⟩, ⟨some .comment, ['/', '/', 'x']⟩, ⟨some .endOfLine, ['\n']⟩,
    ⟨some .endOfLine, ['\n']⟩]).tokens

/-- Both blanks, the comment and one of the line ends can be left out. -/
theorem parse_thinned_declaration :
    spacedDeclaration.getLast?.map Token.kind = some .endOfFile ∧
      (∀ token ∈ spacedDeclaration, ∀ other ∈ spacedDeclaration, token.span.file = other.span.file) ∧
      Thinned spacedDeclaration (Token.thin spacedDeclaration) ∧
      (Token.thin spacedDeclaration).map Token.kind =
        [.identifier, .colon, .builtinType, .leftBracket, .rightBracket, .endOfLine, .endOfFile] ∧
      (parse spacedDeclaration).findings = [] ∧
      parse (Token.thin spacedDeclaration) = parse spacedDeclaration :=
  ⟨by decide, by decide, .thin _, by decide, by decide,
    parse_thinned (by decide) (by decide) (.thin spacedDeclaration)⟩

end ArrowScript.Grammar
