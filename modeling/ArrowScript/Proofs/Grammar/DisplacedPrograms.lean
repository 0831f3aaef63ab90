import ArrowScript.Proofs.Grammar.Displaced

/-!
# Programs from displaced tokens

Every routine of the grammar does the same with displaced tokens and gives the tree with its spans displaced; those
that are entered again do so by induction on their bound. So a list of tokens and a displaced one are parsed to the
same program with the same problems, all of them displaced (`parse_displaced`).
-/

namespace ArrowScript.Grammar

variable {α β : Type} {move : Span → Span}

/-! ## Written types -/

/-- A list in commas is displaced with its elements. -/
lemma commaList_displaces {f : α → β} {element : Parser α} {other : Parser β} (h : Displaces move f element other)
    (closing : Token.Kind) (unseparated unclosed : SyntaxProblem) (bound : Nat) :
    Displaces move (List.map f) (commaList element closing unseparated unclosed bound)
      (commaList other closing unseparated unclosed bound) := by
  induction bound with
  | zero => exact .pure rfl
  | succ bound ih =>
    rw [commaList, commaList]
    refine .bind h fun first => .andThen .advance fun _ => .andThen (.standsOn _) fun closed => ?_
    split
    · exact .pure rfl
    · refine .andThen (.expect _ _) fun _ => .andThen .tryAdvance fun moved => ?_
      split
      · exact .bind ih fun rest => .pure rfl
      · exact .andThen (.expect _ _) fun _ => .pure rfl

/-- A list in angle brackets is displaced with its elements. -/
lemma inAngles_displaces {f : α → β} {element : Parser α} {other : Parser β} (h : Displaces move f element other)
    (empty unclosed : SyntaxProblem) (bound : Nat) :
    Displaces move (List.map f) (inAngles element empty unclosed bound) (inAngles other empty unclosed bound) := by
  refine .andThen .advance fun _ => .andThen (.standsOn _) fun closed => ?_
  split
  · exact .andThen (.report _) fun _ => .pure rfl
  · exact commaList_displaces h _ _ _ _

lemma typeParameters_displaces (bound : Nat) :
    Displaces move (List.map move) (typeParameters bound) (typeParameters bound) :=
  inAngles_displaces (.andThen (.expect _ _) fun _ => .span) _ _ _

/-- Type arguments are displaced with types. -/
lemma typeArgumentsOf_displaces {type : Parser TypeRef} (h : Displaces move (TypeRef.respan move) type type)
    (bound : Nat) :
    Displaces move (typesRespan move) (typeArgumentsOf type bound) (typeArgumentsOf type bound) := by
  rw [funext typesRespan_eq_map]
  refine inAngles_displaces (.andThen .kind fun k => ?_) _ _ _
  split
  · exact h
  · exact .andThen (.report _) fun _ => .bind .span fun name => .pure rfl

lemma typeRef_displaces (bound : Nat) : Displaces move (TypeRef.respan move) (typeRef bound) (typeRef bound) := by
  induction bound with
  | zero => exact .bind .span fun name => .pure rfl
  | succ bound ih =>
    -- What follows the name is read in the same way whether or not a name was found.
    have named : Displaces move (TypeRef.respan move) (typeFromName bound (typeRef bound))
        (typeFromName bound (typeRef bound)) := by
      refine .bind .span fun name => .andThen .kind fun k => .andThen .peek fun next => ?_
      simp only
      split
      · exact .andThen .advance fun _ => .bind (typeArgumentsOf_displaces ih bound) fun list =>
          .andThen .arrayBrackets fun array => .pure rfl
      · exact .bind (g := typesRespan move) (.pure rfl) fun list => .andThen .arrayBrackets fun array => .pure rfl
    refine .andThen .kind fun k => ?_
    simp only
    split
    · exact named
    · exact .andThen (.report _) fun _ => named

lemma typeArguments_displaces (bound : Nat) :
    Displaces move (typesRespan move) (typeArguments bound) (typeArguments bound) :=
  typeArgumentsOf_displaces (typeRef_displaces bound) bound

/-! ## Expressions -/

/-- Operations of one level are displaced with their operands. -/
lemma operationsFrom_displaces {operand : Parser Expr} (h : Displaces move (Expr.respan move move) operand operand)
    (level : Level) (bound : Nat) : ∀ left, Displaces move (Expr.respan move move)
      (operationsFrom operand level bound left)
      (operationsFrom operand level bound (left.respan move move)) := by
  induction bound with
  | zero => exact fun left => .pure rfl
  | succ bound ih =>
    intro left
    rw [operationsFrom, operationsFrom]
    refine .andThen .peek fun k => ?_
    split
    · next operator _ =>
      refine .andThen .advance fun _ => .bind .span fun sign => .andThen .advance fun _ => .bind h fun right => ?_
      have next := ih (.binary operator sign left right none)
      rwa [Expr.respan] at next
    · exact .pure rfl

/-- Operations of some levels are displaced with their operands. -/
lemma operations_displaces {operand : Parser Expr} (h : Displaces move (Expr.respan move move) operand operand)
    (bound : Nat) (levels : List Level) :
    Displaces move (Expr.respan move move) (operations operand bound levels) (operations operand bound levels) := by
  induction levels with
  | nil => exact h
  | cons level tighter ih => exact .bind ih fun left => operationsFrom_displaces ih level bound left

/-- Unary operations are displaced with the term. -/
lemma unaryOperations_displaces {term : Parser Expr} (h : Displaces move (Expr.respan move move) term term)
    (bound : Nat) :
    Displaces move (Expr.respan move move) (unaryOperations term bound) (unaryOperations term bound) := by
  induction bound with
  | zero => exact .bind .span fun _ => .pure rfl
  | succ bound ih =>
    rw [unaryOperations]
    refine .andThen .kind fun k => ?_
    split
    · exact .bind .span fun sign => .andThen .advance fun _ => .bind ih fun operand => .pure (by rw [Expr.respan])
    · exact h

section Expressions

variable {expression : Parser Expression} (h : Displaces move (Expression.respan move move) expression expression)

include h

/-- Arguments of a call are displaced with expressions. -/
lemma argumentList_displaces (bound : Nat) :
    Displaces move (argumentsRespan move move) (argumentList expression bound) (argumentList expression bound) := by
  induction bound with
  | zero => exact .pure rfl
  | succ bound ih =>
    have unclosed (first : Expression) : Displaces move (argumentsRespan move move) (do
        reportAt .callWithoutClosing (← peekSpan)
        return [first]) (do
        reportAt .callWithoutClosing (← peekSpan)
        return [first.respan move move]) :=
      .bind .peekSpan fun _ => .andThen (.reportAt _ _) fun _ => .pure (by simp only [argumentsRespan])
    rw [argumentList]
    refine .bind h fun first => .andThen .peek fun k => ?_
    split
    · exact .andThen .advance fun _ => .pure (by simp only [argumentsRespan])
    · exact .andThen .advance fun _ => .andThen .advance fun _ => .bind ih fun rest =>
        .pure (by rw [argumentsRespan])
    · exact unclosed first
    · exact unclosed first
    · exact unclosed first
    · exact unclosed first
    · exact .bind .peekSpan fun _ => .andThen (.reportAt _ _) fun _ => .andThen .advance fun _ =>
        .bind ih fun rest => .pure (by rw [argumentsRespan])

/-- A name with an index is displaced with expressions. -/
lemma indexLink_displaces : Displaces move (Link.respan move move) (indexLink expression) (indexLink expression) := by
  refine .bind .span fun name => .andThen .advance fun _ => .andThen .peek fun k => ?_
  split
  · exact .andThen .advance fun _ => .andThen (.report _) fun _ => .bind .span fun close =>
      .pure (by simp only [Link.respan, Expression.untyped, Expression.respan, Expr.respan]; rfl)
  · exact .andThen .advance fun _ => .bind h fun index => .bind (.closeWith _ _) fun close =>
      .pure (by rw [Link.respan]; rfl)

/-- A call is displaced with expressions. -/
lemma callLink_displaces (bound : Nat) :
    Displaces move (Link.respan move move) (callLink expression bound) (callLink expression bound) := by
  have arguments : Displaces move (Prod.map (argumentsRespan move move) move) (callArguments expression bound)
      (callArguments expression bound) := by
    refine .andThen .peek fun k => ?_
    split
    · exact .andThen .advance fun _ => .bind .span fun close => .pure rfl
    · exact .andThen .advance fun _ => .bind (argumentList_displaces h bound) fun list => .bind .span fun close =>
        .pure rfl
  refine .bind .span fun name => .andThen .advance fun _ => .andThen (.standsOn _) fun opened => ?_
  have rest (types : Option (List TypeRef)) : Displaces move (Link.respan move move) (do
      expect .leftParen .callWithoutOpening
      let result ← callArguments expression bound
      return .call (.unbound name) types result.1 result.2) (do
      expect .leftParen .callWithoutOpening
      let result ← callArguments expression bound
      return .call (.unbound (move name)) (types.map (typesRespan move)) result.1 result.2) :=
    .andThen (.expect _ _) fun _ => .bind arguments fun result => .pure (by rw [Link.respan]; rfl)
  simp only
  split
  · exact .bind (typeArguments_displaces bound) fun types => .andThen .advance fun _ => rest (some types)
  · exact rest none

/-- A link is displaced with expressions. -/
lemma link?_displaces (bound : Nat) :
    Displaces move (Option.map (Link.respan move move)) (link? expression bound) (link? expression bound) := by
  refine .andThen .kind fun k => .andThen .peek fun next => ?_
  split
  · exact .bind (indexLink_displaces h) fun link => .pure rfl
  · refine .andThen .genericCallAhead fun generic => ?_
    split
    · exact .bind (callLink_displaces h bound) fun link => .pure rfl
    · split
      · exact .bind .span fun name => .pure rfl
      · exact .andThen (.report _) fun _ => .pure rfl

omit h in
/-- Links are displaced if each of them is. -/
lemma links?_displaces {link? : Parser (Option Link)}
    (h : Displaces move (Option.map (Link.respan move move)) link? link?) (bound : Nat) :
    Displaces move (Option.map (linksRespan move move)) (links? link? bound) (links? link? bound) := by
  induction bound with
  | zero => exact .pure rfl
  | succ bound ih =>
    rw [links?]
    refine .bind h fun link? => ?_
    -- Without a link the chain is given up.
    cases link? with
    | none => exact .pure rfl
    | some first =>
      refine .andThen .peek fun k => ?_
      split
      · exact .pure (by simp only [Option.map_some, linksRespan])
      · refine .andThen .advance fun _ => .andThen .advance fun _ => .bind ih fun rest? => .pure ?_
        cases rest? with
        | none => rfl
        | some rest => simp only [Option.map_some, linksRespan]

/-- A chain is displaced with expressions. -/
lemma chain?_displaces (bound : Nat) :
    Displaces move (Option.map (Chain.respan move move)) (chain? expression bound) (chain? expression bound) := by
  refine .bind .span fun start => .bind (links?_displaces (link?_displaces h bound) bound) fun links? => .pure ?_
  cases links? with
  | none => rfl
  | some links => simp only [Option.map_some, Chain.respan]

/-- A new value is displaced with expressions. -/
lemma newTerm_displaces (bound : Nat) :
    Displaces move (Expr.respan move move) (newTerm expression bound) (newTerm expression bound) := by
  refine .bind .span fun keyword => .andThen .advance fun _ => .andThen (.standsOn _) fun array => ?_
  split
  · exact .andThen .advance fun _ => .bind h fun element => .andThen (.discard (.closeWith _ _)) fun _ =>
      .pure (by rw [Expr.respan])
  · refine .bind (chain?_displaces h bound) fun path? => ?_
    cases path? with
    | none => exact .andThen (.report _) fun _ => .pure (by rw [Expr.respan])
    | some path =>
      dsimp only [Option.map_some]
      rw [path.startsWithBrackets_respan]
      split
      · exact .pure (by rw [Expr.respan])
      · exact .andThen (.report _) fun _ => .pure (by rw [Expr.respan])

/-- A term is displaced with expressions. -/
lemma term_displaces (bound : Nat) :
    Displaces move (Expr.respan move move) (term expression bound) (term expression bound) := by
  have path (start : Span) : Displaces move (Expr.respan move move) (do
      return (← chain? expression bound).elim (Expr.missing start) .chain) (do
      return (← chain? expression bound).elim (Expr.missing (move start)) .chain) := by
    refine .bind (chain?_displaces h bound) fun path? => .pure ?_
    cases path? <;> simp only [Option.map_none, Option.map_some, Option.elim_none, Option.elim_some, Expr.respan]
  unfold term
  refine .bind .span fun start => .andThen .kind fun k => ?_
  split
  · exact .pure (by rw [Expr.respan])
  · split
    · exact .pure (by rw [Expr.respan])
    · refine .andThen .advance fun _ => .bind h fun inner => .andThen (.discard (.closeWith _ _)) fun _ => .pure ?_
      obtain ⟨root, type⟩ := inner
      rw [Expression.respan]
    · exact newTerm_displaces h bound
    · exact path start
    · exact path start
    · exact .andThen (.report _) fun _ => .pure (by rw [Expr.respan])

end Expressions

lemma expression_displaces (bound : Nat) :
    Displaces move (Expression.respan move move) (expression bound) (expression bound) := by
  induction bound with
  | zero =>
    exact .bind .span fun _ => .pure (by simp only [Expression.untyped, Expression.respan, Expr.respan])
  | succ bound ih =>
    -- An expression is entered again, with a smaller bound, only from its terms.
    have operand := unaryOperations_displaces (term_displaces ih bound) (bound + 1)
    exact .bind (operations_displaces operand (bound + 1) Level.all) fun root =>
      .pure (by simp only [Expression.untyped, Expression.respan])

lemma chain_displaces (bound : Nat) :
    Displaces move (Option.map (Chain.respan move move)) (chain bound) (chain bound) :=
  chain?_displaces (expression_displaces bound) bound

/-! ## Statements -/

/-- A statement that may be there, displaced. -/
abbrev statement?Respan (move : Span → Span) : Option Statement → Option Statement :=
  Option.map (Statement.respan move move)

/-- Statements are displaced if each of them is. -/
lemma statements_displaces {statement? : Parser (Option Statement)}
    (h : Displaces move (statement?Respan move) statement? statement?) (block : BlockKind) (bound : Nat) :
    Displaces move (statementsRespan move move) (statements statement? block bound)
      (statements statement? block bound) := by
  induction bound with
  | zero => exact .pure (by rw [statementsRespan])
  | succ bound ih =>
    rw [statements]
    refine .andThen .kind fun k => ?_
    split
    · exact .pure (by rw [statementsRespan])
    · refine .bind h fun statement? => ?_
      cases statement? with
      | some first =>
        exact .andThen .finishStatement fun _ => .bind ih fun rest => .pure (by rw [statementsRespan])
      | none =>
        refine .andThen .tryAdvance fun moved => ?_
        split
        · exact ih
        · exact .pure (by rw [statementsRespan])

/-- A block is displaced with its statements. -/
lemma block_displaces {statement? : Parser (Option Statement)}
    (h : Displaces move (statement?Respan move) statement? statement?) (bound : Nat) (unopened : SyntaxProblem) :
    Displaces move (Block.respan move move) (block statement? bound unopened) (block statement? bound unopened) :=
  .andThen .freshId fun _ => .bind .span fun _ => .andThen (.expect _ _) fun _ => .andThen .advance fun _ =>
    .bind (statements_displaces h .braced bound) fun _ => .andThen (.expect _ _) fun _ => .pure (by rw [Block.respan])

lemma parameters_displaces (bound : Nat) :
    Displaces move (List.map (Parameter.respan move)) (parameters bound) (parameters bound) := by
  have parameter : Displaces move (Parameter.respan move) (parameter bound) (parameter bound) :=
    .andThen (.expect _ _) fun _ => .bind .span fun name => .andThen .advance fun _ =>
      .andThen (.expect _ _) fun _ => .andThen .advance fun _ => .bind (typeRef_displaces bound) fun written =>
        .andThen .freshId fun id => .pure rfl
  refine .andThen (.standsOn _) fun closed => ?_
  split
  · exact .pure rfl
  · exact commaList_displaces parameter _ _ _ _

lemma optionalTypeParameters_displaces (bound : Nat) :
    Displaces move (Option.map (List.map move)) (optionalTypeParameters bound) (optionalTypeParameters bound) := by
  refine .andThen (.standsOn _) fun opened => ?_
  split
  · exact .bind (typeParameters_displaces bound) fun names => .andThen .advance fun _ => .pure rfl
  · exact .pure rfl

lemma optionalReturn_displaces (bound : Nat) :
    Displaces move (Option.map (TypeRef.respan move)) (optionalReturn bound) (optionalReturn bound) := by
  refine .andThen (.standsOn _) fun colon => ?_
  split
  · exact .andThen .advance fun _ => .bind (typeRef_displaces bound) fun written => .andThen .advance fun _ => .pure rfl
  · exact .pure rfl

/-- A function is displaced with its block. -/
lemma functionDef_displaces {block : SyntaxProblem → Parser Block}
    (h : ∀ unopened, Displaces move (Block.respan move move) (block unopened) (block unopened)) (bound : Nat) :
    Displaces move (FunctionDef.respan move move) (functionDef block bound) (functionDef block bound) :=
  .bind .span fun _ => .andThen .freshId fun _ => .andThen .advance fun _ => .andThen (.expect _ _) fun _ =>
    .bind .span fun _ => .andThen .advance fun _ => .bind (optionalTypeParameters_displaces bound) fun _ =>
      .andThen (.expect _ _) fun _ => .andThen .advance fun _ => .bind (parameters_displaces bound) fun _ =>
        .andThen .advance fun _ => .bind (optionalReturn_displaces bound) fun _ => .bind (h _) fun _ =>
          .pure (by rw [FunctionDef.respan])

lemma declaration_displaces (name : Span) (bound : Nat) :
    Displaces move (Declaration.respan move move) (declaration name bound) (declaration (move name) bound) := by
  -- With and without a written type, a declaration goes on alike.
  have rest (id : NodeId) (written : Option TypeRef) : Displaces move (Declaration.respan move move) (do
      if (← peekWith .toLineEnds) = .arrow then
        advance
        advance
        return { id, name, written, initial := some (← expression bound), type := none : Declaration }
      if written.isNone then report .untypedWithoutValue
      return { id, name, written, initial := none, type := none : Declaration }) (do
      if (← peekWith .toLineEnds) = .arrow then
        advance
        advance
        return ⟨id, move name, written.map (TypeRef.respan move), some (← expression bound), none⟩
      if (written.map (TypeRef.respan move)).isNone then report .untypedWithoutValue
      return ⟨id, move name, written.map (TypeRef.respan move), none, none⟩) := by
    refine .andThen (.peekWith .toLineEnds) fun k => ?_
    simp only [Option.isNone_map]
    split
    · exact .andThen .advance fun _ => .andThen .advance fun _ => .bind (expression_displaces bound) fun value =>
        .pure rfl
    · split
      · exact .andThen (.report _) fun _ => .pure rfl
      · exact .pure rfl
  refine .andThen .freshId fun id => .andThen (.peekWith .toLineEnds) fun k => ?_
  simp only
  split
  · exact .andThen .advance fun _ => .bind (typeRef_displaces bound) fun written => rest id (some written)
  · exact rest id none

lemma namedStatement?_displaces (bound : Nat) :
    Displaces move (statement?Respan move) (namedStatement? bound) (namedStatement? bound) := by
  unfold namedStatement?
  refine .bind (chain_displaces bound) fun target? => ?_
  cases target? with
  | none => exact .pure rfl
  | some target =>
    refine .andThen .peek fun k => ?_
    rw [target.isSingleName_respan, target.endsInCall_respan, target.span_respan]
    split
    · refine .andThen .advance fun _ => ?_
      split
      · exact .bind (declaration_displaces _ bound) fun declaration =>
          .pure (by simp only [Option.map_some, Statement.respan])
      · exact .andThen (.report _) fun _ => .pure rfl
    · refine .andThen .advance fun _ => .bind .span fun arrow => .andThen .advance fun _ =>
        .bind (expression_displaces bound) fun value => .pure ?_
      obtain ⟨root, type⟩ := value
      simp only [Option.map_some, Statement.respan, Expression.untyped, Expression.respan, Expr.respan]
    · split
      · exact .pure (by
          simp only [Option.map_some, Statement.respan, Expression.untyped, Expression.respan, Expr.respan])
      · exact .andThen (.report _) fun _ => .pure rfl

/-- The members of a type, displaced. -/
def membersRespan (move : Span → Span) :
    List Declaration × List FunctionDef → List Declaration × List FunctionDef
  | (fields, methods) => (fields.map (Declaration.respan move move), functionsRespan move move methods)

/-- Fields and methods are displaced with functions and statements. -/
lemma members_displaces {functionDef : Parser FunctionDef} {named? : Parser (Option Statement)}
    (h : Displaces move (FunctionDef.respan move move) functionDef functionDef)
    (g : Displaces move (statement?Respan move) named? named?) (bound : Nat) :
    Displaces move (membersRespan move) (members functionDef named? bound) (members functionDef named? bound) := by
  have nothing : ([], []) = membersRespan move ([], []) := by
    rw [membersRespan, List.map_nil, functionsRespan]
  induction bound with
  | zero => exact .pure nothing
  | succ bound ih =>
    rw [members]
    refine .andThen .kind fun k => ?_
    split
    · exact .pure nothing
    · exact .pure nothing
    · have misplaced : Displaces move (membersRespan move)
          (do report .memberNotVariable; advance; members functionDef named? bound)
          (do report .memberNotVariable; advance; members functionDef named? bound) :=
        .andThen (.report _) fun _ => .andThen .advance fun _ => ih
      refine .bind g fun statement? => ?_
      match statement? with
      | none => exact .andThen .advance fun _ => ih
      | some (.variable field) =>
        rw [statement?Respan, Option.map_some, Statement.respan]
        exact .andThen .advance fun _ => .bind ih fun rest => .pure rfl
      | some (.type _) | some (.function _) | some (.whileLoop ..) | some (.conditional _) | some (.returning ..)
      | some (.breaking _) | some (.continuing _) | some (.importing ..) | some (.path ..) | some (.expression _) =>
        rw [statement?Respan, Option.map_some, Statement.respan]
        exact misplaced
    · exact .bind h fun method => .andThen .advance fun _ => .bind ih fun (fields, methods) =>
        .pure (by simp only [membersRespan, functionsRespan])
    · exact .andThen (.report _) fun _ => .andThen .advance fun _ => ih

/-- A type is displaced with its methods; its name is told where its end is missing. -/
lemma typeDef_displaces (content : ∀ span, (move span).content = span.content) {functionDef : Parser FunctionDef}
    (h : Displaces move (FunctionDef.respan move move) functionDef functionDef) (bound : Nat) :
    Displaces move (TypeDef.respan move move) (typeDef functionDef bound) (typeDef functionDef bound) := by
  refine .bind .span fun _ => .andThen .freshId fun _ => .andThen .advance fun _ => .andThen (.expect _ _) fun _ =>
    .bind .span fun name => .andThen .advance fun _ => .bind (optionalTypeParameters_displaces bound) fun _ =>
      .andThen (.expect _ _) fun _ => .andThen .advance fun _ =>
        .bind (members_displaces h (namedStatement?_displaces bound) bound) fun _ => ?_
  rw [content name]
  exact .andThen (.expect _ _) fun _ => .pure (by rw [TypeDef.respan])

/-! ## Control -/

lemma returning_displaces (bound : Nat) :
    Displaces move (Statement.respan move move) (returning bound) (returning bound) := by
  refine .bind .span fun keyword => .andThen (.peekWith .toLineEnds) fun k => ?_
  split
  · exact .pure (by simp only [Statement.respan, Option.map_none])
  · exact .andThen .advance fun _ => .bind (expression_displaces bound) fun value =>
      .pure (by simp only [Statement.respan, Option.map_some])

section Control

variable {block : SyntaxProblem → Parser Block}
  (h : ∀ unopened, Displaces move (Block.respan move move) (block unopened) (block unopened)) (bound : Nat)

include h

/-- A loop is displaced with its block. -/
lemma whileLoop_displaces :
    Displaces move (Statement.respan move move) (whileLoop block bound) (whileLoop block bound) :=
  .bind .span fun _ => .andThen .advance fun _ => .bind (expression_displaces bound) fun _ =>
    .andThen .advance fun _ => .bind (h _) fun _ => .pure (by rw [Statement.respan])

/-- A conditional is displaced with its block and what is done otherwise. -/
lemma conditional_displaces {otherwise : Parser Otherwise}
    (g : Displaces move (Otherwise.respan move move) otherwise otherwise) :
    Displaces move (Conditional.respan move move) (conditional block bound otherwise)
      (conditional block bound otherwise) :=
  .bind .span fun _ => .andThen .advance fun _ => .bind (expression_displaces bound) fun _ =>
    .andThen .advance fun _ => .bind (h _) fun _ => .bind g fun _ => .pure (by rw [Conditional.respan])

/-- What is done when a condition fails is displaced with blocks. -/
lemma otherwise_displaces (rounds : Nat) :
    Displaces move (Otherwise.respan move move) (otherwise block bound rounds) (otherwise block bound rounds) := by
  induction rounds with
  | zero => exact .pure (by rw [Otherwise.respan])
  | succ rounds ih =>
    rw [otherwise]
    refine .andThen .peek fun k => ?_
    split
    · exact .pure (by rw [Otherwise.respan])
    · refine .andThen .advance fun _ => .andThen .advance fun _ => .andThen .kind fun k => ?_
      split
      · exact .bind (conditional_displaces h bound ih) fun conditional => .pure (by rw [Otherwise.respan])
      · exact .bind (h _) fun block => .pure (by rw [Otherwise.respan])
      · exact .andThen (.report _) fun _ => .pure (by rw [Otherwise.respan])

end Control

lemma chainBehind?_displaces (absent invalid : SyntaxProblem) (bound : Nat) :
    Displaces move (Option.map (Chain.respan move move)) (chainBehind? absent invalid bound)
      (chainBehind? absent invalid bound) := by
  refine .andThen (.peekWith .toLineEnds) fun k => ?_
  simp only
  split
  · exact .andThen (.report _) fun _ => .pure rfl
  · refine .andThen .advance fun _ => .bind (chain_displaces bound) fun target? => ?_
    cases target? with
    | none => exact .andThen (.report _) fun _ => .pure rfl
    | some target =>
      dsimp only [Option.map_some]
      rw [target.isPlain_respan]
      split
      · exact .pure rfl
      · exact .andThen (.report _) fun _ => .pure rfl

lemma statement?_displaces (content : ∀ span, (move span).content = span.content) (bound : Nat) :
    Displaces move (statement?Respan move) (statement? bound) (statement? bound) := by
  induction bound with
  | zero => exact .pure rfl
  | succ bound ih =>
    -- Statements are entered again from blocks alone, those of functions and types included.
    have blocks := block_displaces ih bound
    have functions := functionDef_displaces blocks bound
    rw [statement?]
    refine .andThen .kind fun k => ?_
    split
    · exact .bind (typeDef_displaces content functions bound) fun definition =>
        .pure (by simp only [Option.map_some, Statement.respan])
    · exact .bind functions fun definition => .pure (by simp only [Option.map_some, Statement.respan])
    · exact .bind (returning_displaces bound) fun statement => .pure rfl
    · exact .bind .span fun span => .pure (by simp only [Option.map_some, Statement.respan])
    · exact .bind .span fun span => .pure (by simp only [Option.map_some, Statement.respan])
    · exact .bind (whileLoop_displaces blocks bound) fun statement => .pure rfl
    · exact .bind (conditional_displaces blocks bound (otherwise_displaces blocks bound bound)) fun conditional =>
        .pure (by simp only [Option.map_some, Statement.respan])
    · refine .bind .span fun keyword => .bind (chainBehind?_displaces _ _ bound) fun target? => .pure ?_
      cases target? <;> simp only [Option.map_none, Option.map_some, Statement.respan]
    · refine .bind .span fun keyword => .bind (chainBehind?_displaces _ _ bound) fun target? => .pure ?_
      cases target? <;> simp only [Option.map_none, Option.map_some, Statement.respan]
    · exact namedStatement?_displaces bound
    · exact .andThen (.report _) fun _ => .pure rfl
    · exact .andThen (.report _) fun _ => .pure rfl

/-! ## Programs -/

/-- A program is displaced. -/
lemma program_displaces (content : ∀ span, (move span).content = span.content) (bound : Nat) :
    Displaces move (Block.respan move move) (program bound) (program bound) :=
  .andThen .freshId fun _ => .bind .span fun _ =>
    .bind (statements_displaces (statement?_displaces content bound) .program bound) fun _ =>
      .pure (by rw [Block.respan])

/-- A parsed program, displaced with what was noted. -/
def Parsed.relocate (move : Span → Span) (parsed : Parsed) : Parsed where
  program := parsed.program.relocate move
  findings := parsed.findings.map (Finding.relocate move)

variable {tokens others : List Token} {last last' : Token}

/-- Parsing starts on displaced tokens. -/
lemma start_displaced (ends : last.kind = .endOfFile) (h : List.Forall₂ (Token.Displaced move) tokens others)
    (h' : last.Displaced move last') :
    Displaced move (.start (tokens ++ [last])) (.start (others ++ [last'])) := by
  have ends' : last'.kind = .endOfFile := h'.kind.trans ends
  have closing : last'.span = move last.span := h'.span (by rw [ends]; rfl)
  have start {list : List Token} {file : Token} (ends : file.kind = .endOfFile) : State.start (list ++ [file]) =
      ⟨⟨list.dropWhile fun token => Sensitivity.insensitive.skips token.kind, file.span⟩, 0, #[]⟩ := by
    simp only [State.start, Cursor.onFirst, List.getLast?_concat, ends, if_true, List.dropLast_concat, Cursor.skip]
  rw [start ends, start ends']
  refine ⟨dropWhile_displaced h _, ?_, closing, rfl, Array.map_empty.symm⟩
  -- What is left begins behind the trivia that was skipped.
  show ((tokens.dropWhile fun token => Sensitivity.insensitive.skips token.kind).headD
    ⟨.endOfFile, last.span⟩).kind.isTrivia = false
  rw [headD_skipped]
  cases e : tokens.find? fun token => !Sensitivity.insensitive.skips token.kind with
  | none => rfl
  | some token => simpa [Sensitivity.insensitive_skips] using List.find?_some e

/-- Displaced tokens are parsed to the displaced program, and what is noted is displaced, if texts and files are
kept. -/
theorem parse_displaced (ends : last.kind = .endOfFile) (h : List.Forall₂ (Token.Displaced move) tokens others)
    (h' : last.Displaced move last') (content : ∀ span, (move span).content = span.content) :
    parse (others ++ [last']) = (parse (tokens ++ [last])).relocate move := by
  have ends' : last'.kind = .endOfFile := h'.kind.trans ends
  have onFirst {list : List Token} {file : Token} (ends : file.kind = .endOfFile) :
      Cursor.onFirst (list ++ [file]) = ⟨list, file.span⟩ := by
    simp [Cursor.onFirst, ends]
  obtain ⟨s, -, run, found⟩ := (staysWithin (tokens ++ [last])).ends (tokens.length + 1) (by simp [onFirst ends])
  obtain ⟨t, -, run', found'⟩ := (staysWithin (others ++ [last'])).ends (tokens.length + 1)
    (by simp [onFirst ends', h.length_eq])
  obtain ⟨u, ran, displaced⟩ := program_displaces content _ _ _ (start_displaced ends h h') _ _ run
  obtain ⟨root, rfl⟩ := Prod.mk.inj (run'.symm.trans ran)
  have file : (parse (others ++ [last'])).program.file = (parse (tokens ++ [last])).program.file := by
    show (Cursor.onFirst (others ++ [last'])).current.span.file = (Cursor.onFirst (tokens ++ [last])).current.span.file
    rw [onFirst ends, onFirst ends']
    cases h with
    | nil => exact h'.file
    | cons first _ => exact first.file
  calc parse (others ++ [last'])
      = ⟨⟨(parse (others ++ [last'])).program.file, (parse (others ++ [last'])).program.root⟩,
          (parse (others ++ [last'])).findings⟩ := rfl
    _ = ⟨⟨(parse (tokens ++ [last])).program.file, (parse (tokens ++ [last])).program.root.respan move move⟩,
          (parse (tokens ++ [last])).findings.map (Finding.relocate move)⟩ := by
        rw [file, root, found, found', displaced.findings, Array.toList_map]
    _ = (parse (tokens ++ [last])).relocate move := rfl

end ArrowScript.Grammar
