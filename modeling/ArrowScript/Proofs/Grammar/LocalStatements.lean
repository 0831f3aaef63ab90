import ArrowScript.Proofs.Grammar.LocalExpressions

/-!
# Statements with more text behind

An expression that stands in front of a `<` is followed by something else than what a statement goes on with, so this
is reported: a block has to open, a line has to end, and neither a statement nor a member begins with `<`. So blocks
are local if there is no `<` in them.
-/

namespace ArrowScript

/-- The binary operators in a declaration. -/
def Declaration.operators (declaration : Declaration) : List BinaryOperator :=
  optionalOperators Expression.operators declaration.initial

mutual

/-- The binary operators in a block. -/
def Block.operators : Block → List BinaryOperator
  | ⟨_, _, statements, _⟩ => statementOperators statements

/-- The binary operators in some statements. -/
def statementOperators : List Statement → List BinaryOperator
  | [] => []
  | statement :: rest => statement.operators ++ statementOperators rest

/-- The binary operators in a statement. -/
def Statement.operators : Statement → List BinaryOperator
  | .type definition => definition.operators
  | .function definition => definition.operators
  | .variable declaration => declaration.operators
  | .whileLoop _ condition body => condition.operators ++ body.operators
  | .conditional conditional => conditional.operators
  | .returning _ value => optionalOperators Expression.operators value
  | .importing _ target => target.operators
  | .path _ target => target.operators
  | .expression expression => expression.operators
  | .breaking _ | .continuing _ => []

/-- The binary operators in a conditional. -/
def Conditional.operators : Conditional → List BinaryOperator
  | ⟨condition, body, otherwise, _⟩ => condition.operators ++ (body.operators ++ otherwise.operators)

/-- The binary operators in what is done when a condition fails. -/
def Otherwise.operators : Otherwise → List BinaryOperator
  | .nothing => []
  | .conditional conditional => conditional.operators
  | .block block => block.operators

/-- The binary operators in a function. -/
def FunctionDef.operators : FunctionDef → List BinaryOperator
  | ⟨_, _, _, _, _, body, _⟩ => body.operators

/-- The binary operators in some functions. -/
def functionOperators : List FunctionDef → List BinaryOperator
  | [] => []
  | definition :: rest => definition.operators ++ functionOperators rest

/-- The binary operators in a type. -/
def TypeDef.operators : TypeDef → List BinaryOperator
  | ⟨_, _, _, fields, methods, _, _⟩ => fields.flatMap Declaration.operators ++ functionOperators methods

end

namespace Grammar

variable {α : Type} {s t : State} {more : List Token} {n : Nat}

/-- A result without `<` in it, and the current token is none. -/
def Stopped (operators : α → List BinaryOperator) (a : α) (s : State) : Prop :=
  .less ∉ operators a ∧ s.token.kind ≠ .less

/-! ## What stands in the way of a `<` -/

/-- An expected token is there. -/
lemma expect_there {k : Token.Kind} {problem : SyntaxProblem} {u : Unit} (run : Runs (expect k problem) s u t)
    (fine : t.Fine) : s.token.kind = k := by
  rcases run_expect.mp run with ⟨there, -⟩ | ⟨-, rfl⟩
  · exact there
  · exact absurd fine Local.not_fine_noted

/-- A `<` behind a statement is stepped onto. -/
lemma finishStatement_less {u : Unit} (run : Runs finishStatement s u t) (clean : t.Clean)
    (less : s.cursor.peekKind .insensitive = .less) : t.token.kind = .less := by
  by_cases line : s.cursor.peekKind .toLineEnds = .endOfLine
  · obtain ⟨-, rfl⟩ := Prod.mk.inj ((Steady.run_finishStatement line).symm.trans run)
    rw [kind_moved, less]
  · obtain ⟨_, _, moved, run⟩ := run_bind.mp run
    obtain ⟨_, moved⟩ := run_discard.mp moved
    obtain ⟨-, rfl⟩ := run_advanceWith.mp moved
    -- On the same line it is reported.
    rw [moved_of_solid (isTrivia_of_no_line line)] at run
    simp only [run_bind, run_kind, kind_moved, less] at run
    obtain ⟨_, _, ⟨rfl, rfl⟩, run⟩ := run
    obtain rfl := run_report.mp run
    exact absurd clean (Reads.not_clean_noted _ _ _)

/-- No statement begins with `<`. -/
lemma statement?_less {bound : Nat} (less : s.token.kind = .less) (enough : s.pending.length < bound)
    {a : Option Statement} (run : Runs (statement? bound) s a t) : ¬ t.Fine := by
  cases bound with
  | zero => exact absurd enough (Nat.not_lt_zero _)
  | succ bound =>
    simp only [statement?, run_bind, run_kind, less] at run
    obtain ⟨_, _, ⟨rfl, rfl⟩, run⟩ := run
    exact Local.not_fine_report run

/-! ## Blocks -/

/-- Runs that begin on a `<` end on it, unless something is reported. -/
def StaysOnLess (n : Nat) (action : Parser α) : Prop :=
  ∀ s a t, s.token.kind = .less → s.pending.length < n → Runs action s a t → t.Fine → t.token.kind = .less

section Statements

variable {statement? : Parser (Option Statement)} {block : BlockKind} {bound : Nat}

/-- What is done behind a statement, or where none could be made out. -/
def behindStatement (statement? : Parser (Option Statement)) (block : BlockKind) (bound : Nat) :
    Option Statement → Parser (List Statement)
  | some first => do
    finishStatement
    return first :: (← statements statement? block bound)
  | none => do
    if ← tryAdvance then statements statement? block bound
    else return []

/-- What is done behind a statement is local if the following statements are. -/
lemma behindStatement_local (again : Local more n (Stopped statementOperators) (statements statement? block bound))
    (first? : Option Statement) :
    Local more n (Stopped statementOperators) (behindStatement statement? block bound first?) := by
  cases first? with
  | some first =>
    refine .bind .finishStatement fun _ => .map again _ fun list u stopped => ?_
    rw [Stopped, statementOperators, List.mem_append, not_or] at stopped
    exact ⟨stopped.1.2, stopped.2⟩
  | none =>
    refine .bind .tryAdvance fun moved => ?_
    split
    · exact again
    · exact .pure []

/-- A `<` behind a statement would be where the following statements begin, and end. -/
lemma plain_statement (again : Local more n (Stopped statementOperators) (statements statement? block bound))
    (stays : StaysOnLess n (statements statement? block bound)) {first? : Option Statement} {list : List Statement}
    (enough : s.pending.length < n) (run : Runs (behindStatement statement? block bound first?) s list t)
    (fine : t.Fine) (stopped : Stopped statementOperators list t) :
    Plain (optionalOperators Statement.operators) first? s := by
  cases first? with
  | some first =>
    obtain ⟨_, v, finished, run⟩ := run_bind.mp run
    obtain ⟨list, _, listed, run⟩ := run_bind.mp run
    obtain ⟨rfl, rfl⟩ := run_pure.mp run
    rw [Stopped, statementOperators, List.mem_append, not_or] at stopped
    have fine' := (again.back _ _ _ listed fine).1
    have le := (Local.finishStatement : Local more n _ _).back _ _ _ finished fine'
    exact ⟨stopped.1.1, fun less => stopped.2 <| stays _ _ _ (finishStatement_less finished fine'.clean less)
      (Nat.lt_of_le_of_lt le.2 enough) listed fine⟩
  | none =>
    obtain ⟨moved, _, stepped, run⟩ := run_bind.mp run
    obtain ⟨-, rfl⟩ := run_tryAdvance.mp stepped
    refine ⟨List.not_mem_nil, fun less => stopped.2 ?_⟩
    have onto : (s.moved .insensitive).token.kind = .less := (kind_moved .insensitive s).trans less
    split at run
    · exact stays _ _ _ onto (Nat.lt_of_le_of_lt (length_moved_le _ s) enough) run fine
    · obtain ⟨-, rfl⟩ := run_pure.mp run
      exact onto

/-- Statements are local if each of them is, and stop in front of a `<`. -/
lemma statements_local (h : Local more n (Plain (optionalOperators Statement.operators)) statement?)
    (refuses : ∀ s a t, s.token.kind = .less → s.pending.length < n → Runs statement? s a t → ¬ t.Fine)
    (block : BlockKind) (bound : Nat) :
    Local more n (Stopped statementOperators) (statements statement? block bound) ∧
      StaysOnLess n (statements statement? block bound) := by
  induction bound with
  | zero =>
    refine ⟨.pure [], fun s a t less _ run _ => ?_⟩
    obtain ⟨-, rfl⟩ := run_pure.mp run
    exact less
  | succ bound ih =>
    obtain ⟨again, stays⟩ := ih
    rw [statements]
    constructor
    · refine .bind .kind fun k => ?_
      split
      · exact .pure []
      · exact .bindEnding h (behindStatement_local again) fun _ _ _ _ => plain_statement again stays
    · intro s a t less enough run fine
      obtain ⟨_, _, looked, run⟩ := run_bind.mp run
      obtain ⟨rfl, rfl⟩ := run_kind.mp looked
      rw [if_neg (by simp [endsBlock, less])] at run
      obtain ⟨first?, u, first, run⟩ := run_bind.mp run
      have fine' := ((behindStatement_local again first?).back _ _ _ run fine).1
      exact absurd fine' (refuses _ _ _ less enough first)

end Statements

/-- A block is local, and has to be opened. -/
structure LocalBlock (more : List Token) (n : Nat) (block : SyntaxProblem → Parser Block) : Prop where
  prolongs : ∀ unopened, Local more n (Without Block.operators) (block unopened)
  opens : ∀ unopened s r t, Runs (block unopened) s r t → t.Fine → s.token.kind = .leftBrace

/-- Blocks are local if statements are. -/
lemma block_local {statement? : Parser (Option Statement)}
    (h : Local more n (Plain (optionalOperators Statement.operators)) statement?)
    (refuses : ∀ s a t, s.token.kind = .less → s.pending.length < n → Runs statement? s a t → ¬ t.Fine)
    (bound : Nat) : LocalBlock more n (block statement? bound) := by
  have inner := (statements_local h refuses .braced bound).1
  have closed (id : NodeId) (span : Span) (list : List Statement) : Local more n (Without Block.operators) (do
      expect .rightBrace .blockUnclosed
      return { id, kind := .braced, statements := list, span : Block }) := .bind (.expect _ _) fun _ => .pure _
  have body (id : NodeId) (span : Span) : Local more n (Without Block.operators) (do
      advance
      let list ← statements statement? .braced bound
      expect .rightBrace .blockUnclosed
      return { id, kind := .braced, statements := list, span : Block }) := by
    refine .bind .advance fun _ => .bindEnding inner (closed id span) fun list u a s' _ run fine without => ?_
    obtain ⟨_, _, there, run⟩ := run_bind.mp run
    obtain ⟨rfl, rfl⟩ := run_pure.mp run
    rw [Without, Block.operators] at without
    exact ⟨without, by simp [expect_there there fine]⟩
  constructor
  · exact fun unopened => .bind .freshId fun id => .bind .span fun span => .bind (.expect _ _) fun _ => body id span
  · intro unopened s r t run fine
    unfold block at run
    obtain ⟨id, _, fresh, run⟩ := run_bind.mp run
    obtain ⟨-, rfl⟩ := run_freshId.mp fresh
    obtain ⟨span, _, looked, run⟩ := run_bind.mp run
    obtain ⟨-, rfl⟩ := run_span.mp looked
    obtain ⟨_, u, there, run⟩ := run_bind.mp run
    have opened : s.numbered.token.kind = .leftBrace := expect_there there ((body id span).back _ _ _ run fine).1
    exact opened

/-! ## Definitions -/

lemma parameters_local (bound : Nat) : Local more n Anyhow (parameters bound) := by
  have parameter : Local more n Anyhow (parameter bound) :=
    .bind (.expect _ _) fun _ => .bind .span fun name => .bind .advance fun _ => .bind (.expect _ _) fun _ =>
      .bind .advance fun _ => .bind (typeRef_local bound) fun written => .bind .freshId fun id => .pure _
  refine .bind (.standsOn _) fun closed => ?_
  split
  · exact .pure []
  · exact commaList_local parameter _ _ _ _

lemma optionalTypeParameters_local (bound : Nat) : Local more n Anyhow (optionalTypeParameters bound) := by
  refine .bind (.standsOn _) fun opened => ?_
  split
  · exact .bind (typeParameters_local bound) fun names => .bind .advance fun _ => .pure _
  · exact .pure none

lemma optionalReturn_local (bound : Nat) : Local more n Anyhow (optionalReturn bound) := by
  refine .bind (.standsOn _) fun colon => ?_
  split
  · exact .bind .advance fun _ => .bind (typeRef_local bound) fun written => .bind .advance fun _ => .pure _
  · exact .pure none

/-- A function is local if its block is. -/
lemma functionDef_local {block : SyntaxProblem → Parser Block} (h : LocalBlock more (n - 1) block) (bound : Nat) :
    Local more n (Without FunctionDef.operators) (functionDef block bound) := by
  refine .bind .span fun _ => .bind .freshId fun _ => .onward fun _ => .bind (.expect _ _) fun _ =>
    .bind .span fun _ => .bind .advance fun _ => .bind (optionalTypeParameters_local bound) fun _ =>
      .bind (.expect _ _) fun _ => .bind .advance fun _ => .bind (parameters_local bound) fun _ =>
        .bind .advance fun _ => .bind (optionalReturn_local bound) fun _ =>
          .map (h.prolongs _) _ fun body u without => ?_
  rwa [Without, FunctionDef.operators] at without

/-! ## Statements that start with a name -/

/-- A declaration ends with its value, if it has one. -/
lemma declaration_local (name : Span) (bound : Nat) :
    Local more bound (Plain Declaration.operators) (declaration name bound) := by
  -- With and without a written type, a declaration goes on alike.
  have rest (id : NodeId) (written : Option TypeRef) : Local more bound (Plain Declaration.operators) (do
      if (← peekWith .toLineEnds) = .arrow then
        advance
        advance
        return { id, name, written, initial := some (← expression bound), type := none : Declaration }
      if written.isNone then report .untypedWithoutValue
      return { id, name, written, initial := none, type := none : Declaration }) := by
    refine .bind .peekToLineEnds fun k => ?_
    simp only
    split
    · exact .bind .advance fun _ => .bind .advance fun _ => .map (expression_local bound) _ fun value u plain => plain
    · split
      · exact .bind (.report _) fun _ => .pure _
      · exact .pure _
  refine .bind .freshId fun id => .bind .peekToLineEnds fun k => ?_
  simp only
  split
  · exact .bind .advance fun _ => .bind (typeRef_local bound) fun written => .bind (.pure (some written)) (rest id)
  · exact .bind (.pure none) (rest id)

/-- A single name has no operators. -/
lemma operators_of_isSingleName {chain : Chain} (h : chain.isSingleName) : chain.operators = [] := by
  unfold Chain.isSingleName at h
  split at h
  · rw [Chain.operators, linkOperators, linkOperators, Link.operators, List.append_nil]
  · cases h

/-- The operators of a statement that is an expression. -/
lemma operators_untyped (root : Expr) :
    optionalOperators Statement.operators (some (.expression (.untyped root))) = root.operators := by
  rw [optionalOperators, Option.elim_some, Statement.operators, Expression.untyped, Expression.operators]

/-- What is done behind the chain that a statement starts with. -/
def behindTarget (bound : Nat) (target : Chain) : Parser (Option Statement) := do
  match ← peek with
  | .colon =>
    advance
    if target.isSingleName then return some (.variable (← declaration target.span bound))
    report .declaresNoVariable
    return none
  | .arrow =>
    advance
    let arrow ← span
    advance
    let value ← expression bound
    return some (.expression (.untyped (.binary .assign arrow (.chain target) value.root none)))
  | _ =>
    if target.endsInCall then return some (.expression (.untyped (.chain target)))
    report .solitaryChain
    return none

lemma behindTarget_local (bound : Nat) (target : Chain) :
    Local more (bound + 1) (Plain (optionalOperators Statement.operators)) (behindTarget bound target) := by
  refine .peek (fun k => ?_) fun k _ _ _ opens _ _ => ?_
  · split
    · refine .onward fun _ => ?_
      split
      · refine .map (declaration_local _ bound) _ fun declaration u plain => ?_
        rwa [Plain, optionalOperators, Option.elim_some, Statement.operators] at plain
      · exact .bind (.report _) fun _ => .pure none
    · refine .onward fun _ => .bind .span fun arrow => .bind .advance fun _ =>
        .map (expression_local bound) _ fun value u plain => ?_
      obtain ⟨root, type⟩ := value
      rw [Plain, operators_untyped, Expr.operators, List.mem_cons, List.mem_append, not_or, not_or] at plain
      exact ⟨plain.1.2.2, plain.2⟩
    · split
      · exact .pure _
      · exact .bind (.report _) fun _ => .pure none
  · cases k <;> first | rfl | cases opens

/-- What a statement starts with is followed by a colon, an arrow or what the statement is followed by. -/
lemma plain_target {bound : Nat} {target : Chain} {a : Option Statement} (run : Runs (behindTarget bound target) s a t)
    (fine : t.Fine) (plain : Plain (optionalOperators Statement.operators) a t) : Plain Chain.operators target s := by
  obtain ⟨_, _, looked, run⟩ := run_bind.mp run
  obtain ⟨rfl, rfl⟩ := run_peek.mp looked
  split at run
  · next colon =>
    obtain ⟨_, _, -, run⟩ := run_bind.mp run
    split at run
    · next single =>
      rw [Plain, operators_of_isSingleName single]
      exact ⟨List.not_mem_nil, by simp [colon]⟩
    · exact absurd fine (Local.not_fine_report run)
  · next arrow =>
    simp only [run_bind, run_advance, run_span, run_pure] at run
    obtain ⟨_, _, -, _, _, -, _, _, -, value, _, -, rfl, -⟩ := run
    rw [Plain, operators_untyped, Expr.operators, Expr.operators, List.mem_cons, List.mem_append, not_or,
      not_or] at plain
    exact ⟨plain.1.2.1, by simp [arrow]⟩
  · split at run
    · obtain ⟨rfl, rfl⟩ := run_pure.mp run
      rwa [Plain, operators_untyped, Expr.operators] at plain
    · exact absurd fine (Local.not_fine_report run)

/-- A statement that starts with a name is local. -/
lemma namedStatement?_local (bound : Nat) :
    Local more (bound + 1) (Plain (optionalOperators Statement.operators)) (namedStatement? bound) := by
  unfold namedStatement?
  refine .bindEnding (chain_local bound) (fun target? => ?_) fun target? u a s' _ run fine plain => ?_
  · split
    · next target => exact behindTarget_local bound target
    · exact .pure none
  · cases target? with
    | none =>
      obtain ⟨rfl, rfl⟩ := run_pure.mp run
      exact ⟨List.not_mem_nil, plain.2⟩
    | some target => exact plain_target run fine plain

/-! ## Types -/

/-- The binary operators in the members of a type. -/
def memberOperators (members : List Declaration × List FunctionDef) : List BinaryOperator :=
  members.1.flatMap Declaration.operators ++ functionOperators members.2

/-- The operators of a field and those of the other members. -/
lemma not_less_field {field : Declaration} {fields : List Declaration} {methods : List FunctionDef}
    (without : .less ∉ memberOperators (field :: fields, methods)) :
    .less ∉ field.operators ∧ .less ∉ memberOperators (fields, methods) := by
  rwa [memberOperators, List.flatMap_cons, List.append_assoc, List.mem_append, not_or] at without

/-- The operators of a method and those of the other members. -/
lemma not_less_method {method : FunctionDef} {fields : List Declaration} {methods : List FunctionDef}
    (without : .less ∉ memberOperators (fields, method :: methods)) :
    .less ∉ method.operators ∧ .less ∉ memberOperators (fields, methods) := by
  simp only [memberOperators, functionOperators, List.mem_append, not_or] at without ⊢
  exact ⟨without.2.1, without.1, without.2.2⟩

section Members

variable {functionDef : Parser FunctionDef} {named? : Parser (Option Statement)} {bound : Nat}

/-- What is done behind a statement among the members. -/
def behindField (functionDef : Parser FunctionDef) (named? : Parser (Option Statement)) (bound : Nat)
    (statement? : Option Statement) : Parser (List Declaration × List FunctionDef) := do
  if let some (.variable field) := statement? then
    advance
    let (fields, methods) ← members functionDef named? bound
    return (field :: fields, methods)
  if statement?.isSome then report .memberNotVariable
  advance
  members functionDef named? bound

/-- What is done behind a statement among the members is local if the following members are. -/
lemma behindField_local (again : Local more n (Stopped memberOperators) (members functionDef named? bound))
    (statement? : Option Statement) :
    Local more n (Stopped memberOperators) (behindField functionDef named? bound statement?) := by
  have dropped : Local more n (Stopped memberOperators) (do advance; members functionDef named? bound) :=
    .bind .advance fun _ => again
  unfold behindField
  split
  · exact .bind .advance fun _ => .map again _ fun (fields, methods) u stopped =>
      ⟨(not_less_field stopped.1).2, stopped.2⟩
  · simp only
    split
    · exact .bind (.report _) fun _ => dropped
    · exact dropped

/-- A `<` behind a field would be where the following members begin, and end. -/
lemma plain_field (again : Local more n (Stopped memberOperators) (members functionDef named? bound))
    (stays : StaysOnLess n (members functionDef named? bound)) {statement? : Option Statement}
    {list : List Declaration × List FunctionDef} (enough : s.pending.length < n)
    (run : Runs (behindField functionDef named? bound statement?) s list t) (fine : t.Fine)
    (stopped : Stopped memberOperators list t) :
    Plain (optionalOperators Statement.operators) statement? s := by
  have onto {list : List Declaration × List FunctionDef} (less : s.cursor.peekKind .insensitive = .less)
      (run : Runs (members functionDef named? bound) (s.moved .insensitive) list t) : t.token.kind = .less :=
    stays _ _ _ ((kind_moved .insensitive s).trans less) (Nat.lt_of_le_of_lt (length_moved_le _ s) enough) run fine
  unfold behindField at run
  split at run
  · simp only [run_bind, run_advance] at run
    obtain ⟨_, _, rfl, ⟨fields, methods⟩, _, inner, run⟩ := run
    obtain ⟨rfl, rfl⟩ := run_pure.mp run
    rw [Plain, optionalOperators, Option.elim_some, Statement.operators]
    exact ⟨(not_less_field stopped.1).1, fun less => stopped.2 (onto less inner)⟩
  · simp only at run
    split at run
    · simp only [run_bind, run_report, run_advance] at run
      obtain ⟨_, _, rfl, _, _, rfl, inner⟩ := run
      exact absurd (again.back _ _ _ inner fine).1.of_moved Local.not_fine_noted
    · next absent =>
      obtain rfl : statement? = none := by simpa using absent
      simp only [run_bind, run_advance] at run
      obtain ⟨_, _, rfl, inner⟩ := run
      exact ⟨List.not_mem_nil, fun less => stopped.2 (onto less inner)⟩

/-- Members are local if functions and statements are, and stop in front of a `<`. -/
lemma members_local (h : Local more n (Without FunctionDef.operators) functionDef)
    (g : Local more n (Plain (optionalOperators Statement.operators)) named?) (bound : Nat) :
    Local more n (Stopped memberOperators) (members functionDef named? bound) ∧
      StaysOnLess n (members functionDef named? bound) := by
  induction bound with
  | zero =>
    refine ⟨.pure _, fun s a t less _ run _ => ?_⟩
    obtain ⟨-, rfl⟩ := run_pure.mp run
    exact less
  | succ bound ih =>
    obtain ⟨again, stays⟩ := ih
    rw [members]
    constructor
    · refine .bind .kind fun k => ?_
      split
      · exact .pure _
      · exact .pure _
      · exact .bindEnding g (behindField_local again) fun _ _ _ _ => plain_field again stays
      · refine .bindEnding h (fun method => .bind .advance fun _ => .map again _ fun (fields, methods) u stopped =>
          ⟨(not_less_method stopped.1).2, stopped.2⟩) fun method u a s' _ run _ stopped => ?_
        simp only [run_bind, run_advance] at run
        obtain ⟨_, _, -, ⟨fields, methods⟩, _, -, run⟩ := run
        obtain ⟨rfl, rfl⟩ := run_pure.mp run
        exact (not_less_method stopped.1).1
      · exact .bind (.report _) fun _ => .bind .advance fun _ => again
    · intro s a t less _ run fine
      obtain ⟨_, _, looked, run⟩ := run_bind.mp run
      obtain ⟨rfl, rfl⟩ := run_kind.mp looked
      simp only [less, run_bind, run_report, run_advance] at run
      obtain ⟨_, _, rfl, _, _, rfl, inner⟩ := run
      exact absurd (again.back _ _ _ inner fine).1.of_moved Local.not_fine_noted

end Members

/-- A type is local if its methods are. -/
lemma typeDef_local {functionDef : Parser FunctionDef} {bound : Nat}
    (h : Local more bound (Without FunctionDef.operators) functionDef) :
    Local more (bound + 1) (Without TypeDef.operators) (typeDef functionDef bound) := by
  have inner := (members_local h ((namedStatement?_local bound).fewer (Nat.le_succ bound)) bound).1
  refine .bind .span fun keyword => .bind .freshId fun id => .onward fun _ => .bind (.expect _ _) fun _ =>
    .bind .span fun name => .bind .advance fun _ => .bind (optionalTypeParameters_local bound) fun typeParameters =>
      .bind (.expect _ _) fun _ => .bind .advance fun _ => .bindEnding inner
        (fun (fields, methods) => .bind (.expect _ _) fun _ => .pure _)
        fun (fields, methods) u a s' _ run fine without => ?_
  obtain ⟨_, _, there, run⟩ := run_bind.mp run
  obtain ⟨rfl, rfl⟩ := run_pure.mp run
  rw [Without, TypeDef.operators] at without
  exact ⟨without, by simp [expect_there there fine]⟩

/-! ## Control -/

/-- A returned value ends the statement. -/
lemma returning_local (bound : Nat) : Local more (bound + 1) (Plain Statement.operators) (returning bound) := by
  refine .bind .span fun keyword => .bind .peekToLineEnds fun k => ?_
  split
  · exact .pure _
  · refine .onward fun _ => .map (expression_local bound) _ fun value u plain => ?_
    rwa [Plain, Statement.operators] at plain

section Control

variable {block : SyntaxProblem → Parser Block} {bound : Nat} (h : LocalBlock more bound block)

include h in
/-- A block has to open behind a condition. -/
lemma LocalBlock.plain_condition {unopened : SyntaxProblem} {body : Block}
    (run : Runs (block unopened) (s.moved .insensitive) body t) (fine : t.Fine) :
    s.cursor.peekKind .insensitive ≠ .less := by
  rw [← kind_moved, h.opens _ _ _ _ run fine]
  nofun

include h in
/-- A loop is local if its block is. -/
lemma whileLoop_local : Local more (bound + 1) (Without Statement.operators) (whileLoop block bound) := by
  have body (keyword : Span) (condition : Expression) : Local more bound (Without Statement.operators) (do
      advance
      return .whileLoop keyword condition (← block .whileWithoutBody)) := by
    refine .bind .advance fun _ => .map (h.prolongs _) _ fun body u without => ?_
    rw [Without, Statement.operators, List.mem_append, not_or] at without
    exact without.2
  refine .bind .span fun keyword => .onward fun _ => .bindEnding (expression_local bound) (body keyword)
    fun condition u a s' _ run fine without => ?_
  simp only [run_bind, run_advance, run_pure] at run
  obtain ⟨_, _, rfl, body, _, opened, rfl, rfl⟩ := run
  rw [Without, Statement.operators, List.mem_append, not_or] at without
  exact ⟨without.1, h.plain_condition opened fine⟩

include h in
/-- A conditional is local if its blocks are. -/
lemma conditional_local {otherwise : Parser Otherwise} (g : Local more bound (Without Otherwise.operators) otherwise) :
    Local more (bound + 1) (Without Conditional.operators) (conditional block bound otherwise) := by
  have ending (keyword : Span) (condition : Expression) (body : Block) :
      Local more bound (Without Conditional.operators) (do
        return { condition, body, otherwise := ← otherwise, keyword : Conditional }) := by
    refine .map g _ fun other u without => ?_
    rw [Without, Conditional.operators, List.mem_append, List.mem_append, not_or, not_or] at without
    exact without.2.2
  have body (keyword : Span) (condition : Expression) : Local more bound (Without Conditional.operators) (do
      advance
      let body ← block .ifWithoutBody
      return { condition, body, otherwise := ← otherwise, keyword : Conditional }) := by
    refine .bind .advance fun _ => .bindEnding (h.prolongs _) (ending keyword condition)
      fun body u a s' _ run _ without => ?_
    obtain ⟨other, _, -, run⟩ := run_bind.mp run
    obtain ⟨rfl, rfl⟩ := run_pure.mp run
    rw [Without, Conditional.operators, List.mem_append, List.mem_append, not_or, not_or] at without
    exact without.2.1
  refine .bind .span fun keyword => .onward fun _ => .bindEnding (expression_local bound) (body keyword)
    fun condition u a s' _ run fine without => ?_
  obtain ⟨_, _, moved, run⟩ := run_bind.mp run
  obtain rfl := run_advance.mp moved
  obtain ⟨body, v, opened, run⟩ := run_bind.mp run
  have fine' := ((ending keyword condition body).back _ _ _ run fine).1
  obtain ⟨other, _, -, run⟩ := run_bind.mp run
  obtain ⟨rfl, rfl⟩ := run_pure.mp run
  rw [Without, Conditional.operators, List.mem_append, not_or] at without
  exact ⟨without.1, h.plain_condition opened fine'⟩

include h in
/-- What is done when a condition fails is local if blocks are. -/
lemma otherwise_local (rounds : Nat) :
    Local more bound (Without Otherwise.operators) (otherwise block bound rounds) := by
  induction rounds with
  | zero => exact .pure _
  | succ rounds ih =>
    rw [otherwise]
    refine .peek (fun k => ?_) fun k _ _ _ opens _ _ => ?_
    · split
      · exact .pure _
      · refine .bind .advance fun _ => .bind .advance fun _ => .bind .kind fun k => ?_
        split
        · refine .map ((conditional_local h ih).fewer (Nat.le_succ bound)) _ fun conditional u without => ?_
          rwa [Without, Otherwise.operators] at without
        · refine .map (h.prolongs _) _ fun block u without => ?_
          rwa [Without, Otherwise.operators] at without
        · exact .bind (.report _) fun _ => .pure _
    · rw [if_pos (ne_of_opensStatement opens (show opensStatement .kwElse = false from rfl)), if_pos (by decide)]

end Control

/-- A chain behind a keyword ends the statement. -/
lemma chainBehind?_local (absent invalid : SyntaxProblem) (bound : Nat) :
    Local more (bound + 1) (Plain (optionalOperators Chain.operators)) (chainBehind? absent invalid bound) := by
  have checked (target : Chain) (bad : Bool) :
      Local more bound (Plain (optionalOperators Chain.operators)) (do
        unless bad do report invalid
        return some target) := by
    split
    · exact .pure _
    · exact .bind (.report _) fun _ => .pure _
  refine .bind .peekToLineEnds fun k => ?_
  simp only
  split
  · exact .bind (.report _) fun _ => .pure none
  · refine .onward fun _ => .bindEnding ((chain_local bound).fewer (Nat.le_succ bound)) (fun target? => ?_)
      fun target? u a s' _ run fine plain => ?_
    · split
      · next target => exact checked target target.isPlain
      · exact .bind (.report _) fun _ => .pure none
    · split at run
      · next target =>
        split at run
        · obtain ⟨rfl, rfl⟩ := run_pure.mp run
          exact plain
        · exact absurd fine (Local.not_fine_report run)
      · exact absurd fine (Local.not_fine_report run)

/-! ## All statements -/

/-- A statement is local, except in front of a `<`. -/
lemma statement?_local (bound : Nat) :
    Local more bound (Plain (optionalOperators Statement.operators)) (statement? bound) := by
  induction bound with
  | zero => exact .pure none
  | succ bound ih =>
    have blocks : LocalBlock more bound (block (statement? bound) bound) :=
      block_local ih (fun s a t less enough run => statement?_less less enough run) bound
    have functions : Local more (bound + 1) (Without FunctionDef.operators)
        (functionDef (block (statement? bound) bound) bound) := functionDef_local blocks bound
    have target (wrap : Chain → Statement) (same : ∀ chain, (wrap chain).operators = chain.operators)
        (absent invalid : SyntaxProblem) : Local more (bound + 1) (Plain (optionalOperators Statement.operators)) (do
          return (← chainBehind? absent invalid bound).map wrap) := by
      refine .map (chainBehind?_local absent invalid bound) (Option.map wrap) fun target? u plain => ?_
      cases target? with
      | none => exact plain
      | some chain =>
        rw [Plain, Option.map_some, optionalOperators, Option.elim_some, same] at plain
        exact plain
    rw [statement?]
    refine .bind .kind fun k => ?_
    split
    · refine .map (typeDef_local (functions.fewer (Nat.le_succ bound))) _ fun definition u plain => ?_
      rw [Plain, optionalOperators, Option.elim_some, Statement.operators] at plain
      exact plain.1
    · refine .map functions _ fun definition u plain => ?_
      rw [Plain, optionalOperators, Option.elim_some, Statement.operators] at plain
      exact plain.1
    · exact .map (returning_local bound) some fun statement u plain => plain
    · exact .bind .span fun keyword => .pure _
    · exact .bind .span fun keyword => .pure _
    · exact .map (whileLoop_local blocks) some fun statement u plain => plain.1
    · refine .map (conditional_local blocks (otherwise_local blocks bound)) _ fun conditional u plain => ?_
      rw [Plain, optionalOperators, Option.elim_some, Statement.operators] at plain
      exact plain.1
    · exact .bind .span fun keyword => target _ (fun chain => by rw [Statement.operators]) _ _
    · exact .bind .span fun keyword => target _ (fun chain => by rw [Statement.operators]) _ _
    · exact namedStatement?_local bound
    · exact .bind (.report _) fun _ => .pure none
    · exact .bind (.report _) fun _ => .pure none

end Grammar

end ArrowScript
