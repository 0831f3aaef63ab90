import ArrowScript.Proofs.Grammar.InnerExpressions
import ArrowScript.Proofs.Grammar.Local
import ArrowScript.Proofs.Grammar.Lookahead
import ArrowScript.Proofs.Grammar.ReadingExpressions

/-!
# Expressions with more text behind

Whether a `<` behind a name opens type arguments is found out by looking ahead without end, so the answer may change
with the text behind. But where it could, the name is an operand and the `<` compares, unless it stands in the way of
whatever comes next. So types are local, and expressions are if they end without a `<` in them and in front of none.
-/

namespace ArrowScript

/-- The binary operators in what may be there. -/
def optionalOperators {α : Type} (operators : α → List BinaryOperator) (value : Option α) : List BinaryOperator :=
  value.elim [] operators

namespace Grammar

variable {α β : Type} {s t : State} {more : List Token} {n : Nat}

/-- A result without `<` in it. -/
def Without (operators : α → List BinaryOperator) (a : α) (_ : State) : Prop :=
  .less ∉ operators a

/-- A result without `<` in it, and in front of none. -/
def Plain (operators : α → List BinaryOperator) (a : α) (s : State) : Prop :=
  .less ∉ operators a ∧ s.cursor.peekKind .insensitive ≠ .less

/-! ## Looking ahead -/

/-- A list of types that is closed in front of the end of file is closed whatever stands there. -/
lemma closesBeforeCall_append {kinds : List Token.Kind} (other : List Token.Kind) {depth : Nat}
    (h : closesBeforeCall depth (kinds ++ [.endOfFile])) : closesBeforeCall depth (kinds ++ other) := by
  induction kinds generalizing depth with
  | nil =>
    rw [List.nil_append, closesBeforeCall_cons (by simp) (by simp)] at h
    cases h
  | cons k rest ih =>
    rw [List.cons_append] at h ⊢
    by_cases less : k = .less
    · subst less
      rw [closesBeforeCall] at h ⊢
      exact ih h
    by_cases greater : k = .greater
    · subst greater
      cases depth with
      | zero =>
        -- The parenthesis that has to follow is not the end of file.
        cases rest with
        | nil => cases h
        | cons next rest => exact h
      | succ depth =>
        rw [closesBeforeCall] at h ⊢
        exact ih h
    · rw [closesBeforeCall_cons less greater, Bool.and_eq_true] at h ⊢
      exact ⟨h.1, ih h.2⟩

/-- Type arguments that are found in front of the end of file are found whatever stands there. -/
lemma typeArgumentsBeforeCall_append {kinds : List Token.Kind} (other : List Token.Kind)
    (h : typeArgumentsBeforeCall (kinds ++ [.endOfFile])) : typeArgumentsBeforeCall (kinds ++ other) := by
  cases kinds with
  | nil => cases h
  | cons k rest =>
    cases k
    case less => exact closesBeforeCall_append other h
    all_goals cases h

/-- The kinds ahead begin with the next one. -/
lemma head?_lookahead {rest : List Token} {token : Token} (pending : s.pending = token :: rest) :
    s.cursor.lookahead.head? = some (s.cursor.peekKind .insensitive) := by
  have passed : (fun k : Token.Kind => !k.isTrivia) =
      fun k => decide (k ∉ [Token.Kind.comment, .whitespace, .endOfLine]) := by
    funext k
    cases k <;> rfl
  have ahead : s.cursor.lookahead = (rest.map Token.kind).filter (!·.isTrivia) ++ [.endOfFile] := by
    unfold Cursor.lookahead
    rw [show s.cursor.pending = token :: rest from pending]
  rw [ahead, List.head?_append, List.head?_filter, peekKind_pastTrivia, pending, List.tail_cons, Token.kindPast, passed]
  cases (rest.map Token.kind).find? _ <;> rfl

/-- Where type arguments are found a `<` comes next. -/
lemma peek_of_typeArguments (h : typeArgumentsBeforeCall s.cursor.lookahead) :
    s.cursor.peekKind .insensitive = .less := by
  cases pending : s.pending with
  | nil =>
    rw [Cursor.lookahead, show s.cursor.pending = [] from pending] at h
    cases h
  | cons token rest =>
    have head := head?_lookahead pending
    cases ahead : s.cursor.lookahead with
    | nil =>
      rw [ahead] at h
      cases h
    | cons k kinds =>
      rw [ahead] at h head
      cases k
      case less => exact (Option.some.inj head).symm
      all_goals cases h

/-- The kinds ahead go on with those of the text behind. -/
lemma Prolongs.lookahead (h : Prolongs more s t) : ∃ kinds other : List Token.Kind,
    s.cursor.lookahead = kinds ++ [.endOfFile] ∧ t.cursor.lookahead = kinds ++ other := by
  have pending := h.pending
  cases e : s.cursor.pending with
  | nil => exact absurd e h.some
  | cons token rest =>
    simp only [State.pending, e, List.cons_append] at pending
    refine ⟨(rest.map Token.kind).filter (!·.isTrivia), (more.map Token.kind).filter (!·.isTrivia) ++ [.endOfFile],
      ?_, ?_⟩
    · simp only [Cursor.lookahead, e]
    · simp only [Cursor.lookahead, pending, List.map_append, List.filter_append, List.append_assoc]

/-- A kind that no statement opens with. -/
lemma ne_of_opensStatement {k other : Token.Kind} (opens : opensStatement k) (not : opensStatement other = false) :
    k ≠ other := by
  rintro rfl
  rw [opens] at not
  cases not

namespace Local

variable {Ends : α → State → Prop}

/-- What is done next may depend on type arguments ahead, if a run that does not find any does not end in front of
a `<` that could open them. -/
lemma genericCallAhead {next : Bool → Parser α} (h : ∀ b, Local more n Ends (next b))
    (plain : ∀ s a s', Runs (next false) s a s' → s'.Fine → Ends a s' →
      next true = next false ∨ s.cursor.peekKind .insensitive ≠ .less) :
    Local more n Ends (Grammar.genericCallAhead >>= next) where
  back s a s' run fine := by
    obtain ⟨_, _, looked, run⟩ := run_bind.mp run
    obtain ⟨rfl, rfl⟩ := run_genericCallAhead.mp looked
    exact (h _).back s a s' run fine
  prolongs s t along enough a s' run fine ends := by
    obtain ⟨_, _, looked, run⟩ := run_bind.mp run
    obtain ⟨rfl, rfl⟩ := run_genericCallAhead.mp looked
    obtain ⟨t', run', along'⟩ := (h _).prolongs s t along enough a s' run fine ends
    refine ⟨t', run_bind.mpr ⟨_, t, run_genericCallAhead.mpr ⟨rfl, rfl⟩, ?_⟩, along'⟩
    obtain ⟨kinds, other, e, e'⟩ := along.lookahead
    cases found : typeArgumentsBeforeCall s.cursor.lookahead with
    | true =>
      have found' : typeArgumentsBeforeCall t.cursor.lookahead := by
        rw [e] at found
        rw [e']
        exact typeArgumentsBeforeCall_append other found
      rw [found] at run'
      rwa [found']
    | false =>
      rw [found] at run run'
      cases found' : typeArgumentsBeforeCall t.cursor.lookahead with
      | false => exact run'
      | true =>
        rcases plain s a s' run fine ends with same | plain
        · rwa [same]
        · -- A `<` that only opens type arguments with the text behind comes next in both states.
          have less := peek_of_typeArguments found'
          rcases along.peek with same | ⟨-, opens⟩
          · exact absurd (same.symm.trans less) plain
          · rw [less] at opens
            cases opens

end Local

/-! ## Written types -/

/-- A list in commas is local if its elements are. -/
lemma commaList_local {element : Parser α} (h : Local more n Anyhow element) (closing : Token.Kind)
    (unseparated unclosed : SyntaxProblem) (bound : Nat) :
    Local more n Anyhow (commaList element closing unseparated unclosed bound) := by
  induction bound with
  | zero => exact .pure []
  | succ bound ih =>
    rw [commaList]
    refine .bind h fun first => .bind .advance fun _ => .bind (.standsOn _) fun closed => ?_
    split
    · exact .pure _
    · refine .bind (.expect _ _) fun _ => .bind .tryAdvance fun moved => ?_
      split
      · exact .bind ih fun rest => .pure _
      · exact .bind (.expect _ _) fun _ => .pure _

/-- A list in angle brackets is local if its elements are. -/
lemma inAngles_local {element : Parser α} (h : Local more n Anyhow element) (empty unclosed : SyntaxProblem)
    (bound : Nat) : Local more n Anyhow (inAngles element empty unclosed bound) := by
  refine .bind .advance fun _ => .bind (.standsOn _) fun closed => ?_
  split
  · exact .bind (.report _) fun _ => .pure []
  · exact commaList_local h _ _ _ _

lemma typeParameters_local (bound : Nat) : Local more n Anyhow (typeParameters bound) :=
  inAngles_local (.bind (.expect _ _) fun _ => .span) _ _ _

/-- Type arguments are local if types are. -/
lemma typeArgumentsOf_local {type : Parser TypeRef} (h : Local more n Anyhow type) (bound : Nat) :
    Local more n Anyhow (typeArgumentsOf type bound) := by
  refine inAngles_local (.bind .kind fun k => ?_) _ _ _
  split
  · exact h
  · exact .bind (.report _) fun _ => .bind .span fun name => .pure _

lemma typeRef_local (bound : Nat) : Local more n Anyhow (typeRef bound) := by
  induction bound with
  | zero => exact .bind .span fun name => .pure _
  | succ bound ih =>
    -- What follows the name is read in the same way whether or not a name was found.
    have named : Local more n Anyhow (typeFromName bound (typeRef bound)) := by
      refine .bind .span fun name => .bind .kind fun k => .peek (fun next => ?_) fun next _ _ _ opens _ _ => ?_
      · simp only
        split
        · exact .bind .advance fun _ => .bind (typeArgumentsOf_local ih bound) fun list =>
            .bind .arrayBrackets fun array => .pure _
        · exact .bind (.pure []) fun list => .bind .arrayBrackets fun array => .pure _
      · simp only [if_neg (ne_of_opensStatement opens (show opensStatement .less = false from rfl))]
        rfl
    refine .bind .kind fun k => ?_
    simp only
    split
    · exact named
    · exact .bind (.report _) fun _ => named

lemma typeArguments_local (bound : Nat) : Local more n Anyhow (typeArguments bound) :=
  typeArgumentsOf_local (typeRef_local bound) bound

/-! ## Operators -/

/-- A closing token comes next where it is moved onto. -/
lemma peek_of_closeWith {k : Token.Kind} {problem : SyntaxProblem} {x : Span} (run : Runs (closeWith k problem) s x t)
    (fine : t.Fine) : s.cursor.peekKind .insensitive = k := by
  rcases (run_closeWith.mp run).2 with ⟨closed, -⟩ | ⟨-, rfl⟩
  · exact closed
  · exact absurd fine Local.not_fine_noted

/-- No operator opens a statement, and a `<` is nothing else as an operator. -/
structure Level.Firm (level : Level) : Prop where
  opens : ∀ k, opensStatement k → level k = none
  less : ∀ operator, level .less = some operator → operator = .less

lemma Level.firm_of_mem_all : ∀ level ∈ Level.all, Level.Firm level := by
  simp only [Level.all, List.mem_cons, List.not_mem_nil, or_false, forall_eq_or_imp, forall_eq]
  refine ⟨⟨?_, ?_⟩, ⟨?_, ?_⟩, ⟨?_, ?_⟩, ⟨?_, ?_⟩, ⟨?_, ?_⟩⟩
  all_goals
    intro k
    cases k <;> simp [opensStatement, Level.logical, Level.equality, Level.relational, Level.additive,
      Level.multiplicative]

/-- Operations that end plainly begin plainly: if a `<` came next, it would be an operator or still be there. -/
lemma operationsFrom_plain {operand : Parser Expr} {level : Level} (firm : level.Firm) {bound : Nat} {left a : Expr}
    (run : Runs (operationsFrom operand level bound left) s a t) (plain : Plain Expr.operators a t) :
    Plain Expr.operators left s := by
  induction bound generalizing s left with
  | zero =>
    obtain ⟨rfl, rfl⟩ := run_pure.mp run
    exact plain
  | succ bound ih =>
    simp only [operationsFrom, run_bind, run_peek] at run
    obtain ⟨_, _, ⟨rfl, rfl⟩, run⟩ := run
    split at run
    · next operator known =>
      simp only [run_bind, run_advance, run_span] at run
      obtain ⟨_, _, -, _, _, -, _, _, -, right, u, -, run⟩ := run
      have inner := (ih run).1
      rw [Expr.operators, List.mem_cons, List.mem_append, not_or, not_or] at inner
      refine ⟨inner.2.1, fun less => ?_⟩
      rw [less] at known
      exact inner.1 (firm.less operator known).symm
    · obtain ⟨rfl, rfl⟩ := run_pure.mp run
      exact plain

/-- Operations of one level are local if their operands are. -/
lemma operationsFrom_local {operand : Parser Expr} (h : Local more n (Plain Expr.operators) operand) {level : Level}
    (firm : level.Firm) (bound : Nat) :
    ∀ left, Local more n (Plain Expr.operators) (operationsFrom operand level bound left) := by
  induction bound with
  | zero => exact fun left => .pure left
  | succ bound ih =>
    intro left
    rw [operationsFrom]
    refine .peek (fun k => ?_) fun k _ _ _ opens _ _ => ?_
    · split
      · exact .bind .advance fun _ => .bind .span fun sign => .bind .advance fun _ =>
          .bindEnding h (fun right => ih _) fun right u a s' _ run _ plain => by
            have inner := operationsFrom_plain firm run plain
            rw [Plain, Expr.operators, List.mem_cons, List.mem_append, not_or, not_or] at inner
            exact ⟨inner.1.2.2, inner.2⟩
      · exact .pure left
    · rw [firm.opens k opens, firm.opens .endOfFile rfl]

/-- Operations of some levels are local if their operands are. -/
lemma operations_local {operand : Parser Expr} (h : Local more n (Plain Expr.operators) operand) (bound : Nat)
    {levels : List Level} (firm : ∀ level ∈ levels, level.Firm) :
    Local more n (Plain Expr.operators) (operations operand bound levels) := by
  induction levels with
  | nil => exact h
  | cons level tighter ih =>
    have inner := ih fun other mem => firm other (List.mem_cons_of_mem _ mem)
    have here := firm level List.mem_cons_self
    exact .bindEnding inner (fun left => operationsFrom_local inner here bound left)
      fun left u a s' _ run _ plain => operationsFrom_plain here run plain

/-- Unary operations are local if the term is. -/
lemma unaryOperations_local {term : Parser Expr} (h : Local more n (Plain Expr.operators) term) (bound : Nat) :
    Local more n (Plain Expr.operators) (unaryOperations term bound) := by
  induction bound with
  | zero => exact .bind .span fun _ => .pure _
  | succ bound ih =>
    rw [unaryOperations]
    refine .bind .kind fun k => ?_
    split
    · refine .bind .span fun sign => .bind .advance fun _ => .map ih _ fun operand u plain => ?_
      rwa [Plain, Expr.operators] at plain
    · exact h

/-! ## Chains -/

section Expressions

variable {expression : Parser Expression}

/-- What is done behind an argument of a call. -/
def behindArgument (expression : Parser Expression) (bound : Nat) (first : Expression) : Parser (List Expression) := do
  match ← peek with
  | .rightParen =>
    advance
    return [first]
  | .comma =>
    advance
    advance
    return first :: (← argumentList expression bound)
  | .endOfFile | .leftBrace | .rightBrace | .rightBracket =>
    reportAt .callWithoutClosing (← peekSpan)
    return [first]
  | _ =>
    reportAt .argumentsUnseparated (← peekSpan)
    advance
    return first :: (← argumentList expression bound)

/-- What is done behind an argument is local if the following arguments are. -/
lemma behindArgument_local {bound : Nat}
    (again : Local more n (Without argumentOperators) (argumentList expression bound)) (first : Expression) :
    Local more n (Without argumentOperators) (behindArgument expression bound first) := by
  have rest : Local more n (Without argumentOperators) (do
      return first :: (← argumentList expression bound)) := by
    refine .map again _ fun list u without => ?_
    rw [Without, argumentOperators, List.mem_append, not_or] at without
    exact without.2
  have unclosed : Local more n (Without argumentOperators) (do
      reportAt .callWithoutClosing (← peekSpan)
      return [first]) := .never fun _ _ _ run => Local.not_fine_reportAhead run
  refine .peek (fun k => ?_) fun k _ _ _ _ run fine => absurd fine (Local.not_fine_reportAhead run)
  split
  · exact .bind .advance fun _ => .pure _
  · exact .bind .advance fun _ => .bind .advance fun _ => rest
  iterate 4 exact unclosed
  · exact .reportAhead fun _ => .bind .advance fun _ => rest

/-- An argument stands in front of a closing parenthesis or a comma, and nothing else. -/
lemma plain_argument {bound : Nat} (again : Local more n (Without argumentOperators) (argumentList expression bound))
    {first : Expression} {a : List Expression} (run : Runs (behindArgument expression bound first) s a t)
    (fine : t.Fine) (without : Without argumentOperators a t) : Plain Expression.operators first s := by
  obtain ⟨_, _, looked, run⟩ := run_bind.mp run
  obtain ⟨rfl, rfl⟩ := run_peek.mp looked
  split at run
  · next closed =>
    simp only [run_bind, run_advance, run_pure] at run
    obtain ⟨_, _, -, rfl, -⟩ := run
    rw [Without, argumentOperators, List.mem_append, not_or] at without
    exact ⟨without.1, by simp [closed]⟩
  · next comma =>
    simp only [run_bind, run_advance, run_pure] at run
    obtain ⟨_, _, -, _, _, -, _, _, -, rfl, -⟩ := run
    rw [Without, argumentOperators, List.mem_append, not_or] at without
    exact ⟨without.1, by simp [comma]⟩
  iterate 4 exact absurd fine (Local.not_fine_reportAhead run)
  · simp only [run_bind, run_peekSpan, run_reportAt, run_advance, run_pure] at run
    obtain ⟨_, _, ⟨rfl, rfl⟩, _, _, rfl, _, _, rfl, _, _, inner, -, rfl⟩ := run
    exact absurd (again.back _ _ _ inner fine).1.of_moved Local.not_fine_noted

/-- Arguments of a call are local if expressions are. -/
lemma argumentList_local (h : Local more n (Plain Expression.operators) expression) (bound : Nat) :
    Local more n (Without argumentOperators) (argumentList expression bound) := by
  induction bound with
  | zero => exact .pure []
  | succ bound ih =>
    rw [argumentList]
    exact .bindEnding h (behindArgument_local ih) fun _ _ _ _ _ => plain_argument ih

/-- A name with an index is local if expressions are. -/
lemma indexLink_local (h : Local more (n - 1) (Plain Expression.operators) expression) :
    Local more n (Without Link.operators) (indexLink expression) := by
  refine .bind .span fun name => .onward fun _ => .peek (fun k => ?_) fun k _ _ _ opens _ _ => ?_
  · split
    · exact .bind .advance fun _ => .bind (.report _) fun _ => .bind .span fun close => .pure _
    · refine .bind .advance fun _ => .bindEnding h
        (fun index => .bind (.closeWith (by simp) _) fun close => .pure _) fun index u a s' _ run fine without => ?_
      obtain ⟨close, _, closes, run⟩ := run_bind.mp run
      obtain ⟨rfl, rfl⟩ := run_pure.mp run
      rw [Without, Link.operators] at without
      exact ⟨without, by simp [peek_of_closeWith closes fine]⟩
  · rw [if_neg (ne_of_opensStatement opens (show opensStatement .rightBracket = false from rfl)), if_neg (by decide)]

/-- A call is local if expressions are. -/
lemma callLink_local (h : Local more (n - 1) (Plain Expression.operators) expression) (bound : Nat) :
    Local more n (Without Link.operators) (callLink expression bound) := by
  have arguments : Local more (n - 1) (Without fun result => argumentOperators result.1)
      (callArguments expression bound) := by
    refine .peek (fun k => ?_) fun k _ _ _ opens _ _ => ?_
    · split
      · exact .bind .advance fun _ => .bind .span fun close => .pure _
      · refine .bind .advance fun _ => .bindEnding (argumentList_local h bound)
          (fun list => .bind .span fun close => .pure _) fun list u a s' _ run _ without => ?_
        simp only [run_bind, run_span, run_pure] at run
        obtain ⟨_, _, -, rfl, -⟩ := run
        exact without
    · rw [if_neg (ne_of_opensStatement opens (show opensStatement .rightParen = false from rfl)), if_neg (by decide)]
  have called (name : Span) (types : Option (List TypeRef)) : Local more (n - 1) (Without Link.operators) (do
      expect .leftParen .callWithoutOpening
      let result ← callArguments expression bound
      return .call (.unbound name) types result.1 result.2) := by
    refine .bind (.expect _ _) fun _ => .map arguments _ fun result u without => ?_
    rwa [Without, Link.operators] at without
  refine .bind .span fun name => .onward fun _ => .bind (.standsOn _) fun opened => ?_
  simp only
  split
  · exact .bind (typeArguments_local bound) fun types => .bind .advance fun _ => .bind (.pure _) fun types =>
      called name types
  · exact .bind (.pure none) fun types => called name types

/-- A link is local if expressions are: a name in front of a `<` is not, but then the link ends there. -/
lemma link?_local (h : Local more (n - 1) (Plain Expression.operators) expression) (bound : Nat) :
    Local more n (Plain (optionalOperators Link.operators)) (link? expression bound) := by
  refine .bind .kind fun k => .peek (fun next => ?_) fun next _ _ _ opens _ _ => ?_
  · split
    · exact .map (indexLink_local h) some fun link u plain => plain.1
    · refine .genericCallAhead (fun generic => ?_) fun s a s' run fine plain => ?_
      · split
        · exact .map (callLink_local h bound) some fun link u plain => plain.1
        · split
          · exact .bind .span fun name => .pure _
          · exact .bind (.report _) fun _ => .pure none
      · split at run
        · next call =>
          have call' : (isLinkName k && (decide (next = .leftParen) || true)) = true := by
            simp only [Bool.and_eq_true] at call ⊢
            exact ⟨call.1, Bool.or_true _⟩
          exact .inl (by rw [if_pos call, if_pos call'])
        · right
          split at run
          · simp only [run_bind, run_span, run_pure] at run
            obtain ⟨_, _, ⟨-, rfl⟩, -, rfl⟩ := run
            exact plain.2
          · exact absurd fine (Local.not_fine_report run)
  · have bracket := ne_of_opensStatement opens (show opensStatement .leftBracket = false from rfl)
    have paren := ne_of_opensStatement opens (show opensStatement .leftParen = false from rfl)
    simp [bracket, paren]

/-- With enough of a bound links are given up only where this is reported. -/
lemma links?_found {link? : Parser (Option Link)} {most bound : Nat} (reads : ReadsMaybe most link? Link.pieces)
    (least : bound ≤ most) {a : Option (List Link)} (enough : s.pending.length ≤ bound)
    (run : Runs (links? link? bound) s a t) (fine : t.Fine) : a ≠ none := by
  cases bound with
  | zero =>
    obtain ⟨-, rfl⟩ := run_pure.mp run
    exact absurd (List.length_eq_zero_iff.mp (Nat.le_zero.mp enough)) fine.some
  | succ bound =>
    exact fun none => (links?_reads reads least (Nat.succ_pos bound) enough run).2 none fine.clean

lemma not_less_cons {first : Link} {rest : List Link} (without : .less ∉ linkOperators (first :: rest)) :
    .less ∉ first.operators ∧ .less ∉ linkOperators rest := by
  rwa [linkOperators, List.mem_append, not_or] at without

/-- Links are local if each of them is. They are given up only where this is reported, if there are not more tokens
than the bound says, so all links are kept. -/
lemma links?_local {link? : Parser (Option Link)} {most : Nat} (reads : ReadsMaybe most link? Link.pieces)
    {bound : Nat} (least : bound ≤ most) :
    ∀ {n : Nat}, Local more n (Plain (optionalOperators Link.operators)) link? → n ≤ bound + 1 →
      Local more n (Plain (optionalOperators linkOperators)) (links? link? bound) := by
  induction bound with
  | zero => exact fun _ _ => .pure none
  | succ bound ih =>
    intro n h le
    have again := ih (Nat.le_of_succ_le least) (h.fewer (Nat.sub_le n 1)) (by omega)
    rw [links?]
    refine .bindEnding h (fun link? => ?_) fun link? u a s' enough run fine plain => ?_
    · split
      · next first =>
        refine .peek (fun k => ?_) fun k _ _ _ opens _ _ => ?_
        · split
          · exact .pure _
          · refine .onward fun _ => .bind .advance fun _ => .map again _ fun rest? u plain => ?_
            cases rest? with
            | none => exact ⟨List.not_mem_nil, plain.2⟩
            | some rest => exact ⟨(not_less_cons plain.1).2, plain.2⟩
        · rw [if_pos (ne_of_opensStatement opens (show opensStatement .dot = false from rfl)), if_pos (by decide)]
      · exact .pure none
    · cases link? with
      | none =>
        obtain ⟨rfl, rfl⟩ := run_pure.mp run
        exact ⟨List.not_mem_nil, plain.2⟩
      | some first =>
        simp only [run_bind, run_peek] at run
        obtain ⟨_, _, ⟨rfl, rfl⟩, run⟩ := run
        split at run
        · obtain ⟨rfl, rfl⟩ := run_pure.mp run
          exact ⟨(not_less_cons plain.1).1, plain.2⟩
        · next dot =>
          simp only [run_bind, run_advance, run_pure] at run
          obtain ⟨_, _, rfl, _, _, rfl, rest?, _, run, rfl, rfl⟩ := run
          have less := length_moved .insensitive u
          have less' := length_moved .insensitive (u.moved .insensitive)
          have found := links?_found reads (Nat.le_of_succ_le least) (by omega) run fine
          obtain ⟨rest, rfl⟩ := Option.ne_none_iff_exists'.mp found
          exact ⟨(not_less_cons plain.1).1, by simp [not_not.mp dot]⟩

/-- A chain is local if expressions are. -/
lemma chain?_local {bound : Nat} (reads : ReadsAs bound expression Expression.pieces)
    (h : Local more (n - 1) (Plain Expression.operators) expression) (le : n ≤ bound + 1) :
    Local more n (Plain (optionalOperators Chain.operators)) (chain? expression bound) := by
  have links := links?_local (link?_reads reads) (Nat.le_refl bound) (link?_local h bound) le
  refine .bind .span fun start => .map links _ fun links? u plain => ⟨?_, plain.2⟩
  cases links? with
  | none => exact List.not_mem_nil
  | some links =>
    have without := plain.1
    rwa [optionalOperators, Option.map_some, Option.elim_some, Chain.operators] at without

/-! ## Terms -/

/-- A new value is local if expressions are. -/
lemma newTerm_local {bound : Nat} (reads : ReadsAs bound expression Expression.pieces)
    (h : Local more (n - 1) (Plain Expression.operators) expression) (le : n ≤ bound + 1) :
    Local more n (Plain Expr.operators) (newTerm expression bound) := by
  have path := chain?_local (n := n - 1) reads (h.fewer (Nat.sub_le _ 1)) (Nat.le_trans (Nat.sub_le n 1) le)
  refine .bind .span fun keyword => .onward fun _ => .bind (.standsOn _) fun array => ?_
  split
  · refine .bind .advance fun _ => .bindEnding h
      (fun element => .bind (.discard (.closeWith (by simp) _)) fun _ => .pure _)
      fun element u a s' _ run fine plain => ?_
    obtain ⟨_, _, closed, run⟩ := run_bind.mp run
    obtain ⟨_, closes⟩ := run_discard.mp closed
    obtain ⟨rfl, rfl⟩ := run_pure.mp run
    rw [Plain, Expr.operators] at plain
    exact ⟨plain.1, by simp [peek_of_closeWith closes fine]⟩
  · refine .bindEnding path (fun path? => ?_) fun path? u a s' _ run fine plain => ?_
    · split
      · split
        · exact .pure _
        · exact .bind (.report _) fun _ => .pure _
      · exact .bind (.report _) fun _ => .pure _
    · split at run
      · split at run
        · obtain ⟨rfl, rfl⟩ := run_pure.mp run
          rwa [Plain, Expr.operators] at plain
        · exact absurd fine (Local.not_fine_report run)
      · exact absurd fine (Local.not_fine_report run)

/-- A term is local if expressions are. -/
lemma term_local {bound : Nat} (reads : ReadsAs bound expression Expression.pieces)
    (h : Local more (n - 1) (Plain Expression.operators) expression) (le : n ≤ bound + 1) :
    Local more n (Plain Expr.operators) (term expression bound) := by
  have path (start : Span) : Local more n (Plain Expr.operators) (do
      return (← chain? expression bound).elim (Expr.missing start) .chain) := by
    refine .map (chain?_local reads h le) _ fun path? u plain => ⟨?_, plain.2⟩
    cases path? with
    | none => exact List.not_mem_nil
    | some path =>
      have without := plain.1
      rwa [Option.elim_some, Expr.operators] at without
  unfold term
  refine .bind .span fun start => .bind .kind fun k => ?_
  split
  · exact .pure _
  · split
    · exact .pure _
    · refine .onward fun _ => .bindEnding h (fun inner => .bind (.discard (.closeWith (by simp) _)) fun _ => .pure _)
        fun inner u a s' _ run fine plain => ?_
      obtain ⟨_, _, closed, run⟩ := run_bind.mp run
      obtain ⟨_, closes⟩ := run_discard.mp closed
      obtain ⟨rfl, rfl⟩ := run_pure.mp run
      obtain ⟨root, type⟩ := inner
      exact ⟨plain.1, by simp [peek_of_closeWith closes fine]⟩
    · exact newTerm_local reads h le
    · exact path start
    · exact path start
    · exact .bind (.report _) fun _ => .pure _

end Expressions

lemma expression_local (bound : Nat) : Local more bound (Plain Expression.operators) (expression bound) := by
  induction bound with
  | zero => exact .bind .span fun _ => .pure _
  | succ bound ih =>
    -- An expression is entered again, with a smaller bound, only from its terms, and behind their first token.
    have terms := term_local (n := bound + 1) (expression_reads bound) ih (Nat.le_refl _)
    exact .map (operations_local (unaryOperations_local terms (bound + 1)) (bound + 1) Level.firm_of_mem_all) _
      fun root u plain => plain

lemma chain_local (bound : Nat) :
    Local more (bound + 1) (Plain (optionalOperators Chain.operators)) (chain bound) :=
  chain?_local (expression_reads bound) (expression_local bound) (Nat.le_refl _)

end Grammar

end ArrowScript
