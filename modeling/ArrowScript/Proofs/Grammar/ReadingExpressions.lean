import ArrowScript.Proofs.Grammar.Reading

/-!
# Reading types and expressions

Every routine for written types and expressions reads the pieces of what it returns: from before its
first token to behind its last one. The bounds that the routines take are larger than the number of
tokens left, so they are not used up. A chain that cannot be made out is dropped after a problem was noted.
-/

namespace ArrowScript.Grammar
open Place

variable {α : Type} {s t : State}

/-- With fewer than `n` tokens left, an action reads the pieces of its result. -/
def ReadsAs (n : Nat) (action : Parser α) (pieces : α → List Piece) : Prop :=
  ∀ ⦃s t : State⦄ ⦃a : α⦄, s.pending.length < n → Runs action s a t →
    Reads (before s) (past t) (pieces a) []

/-! ## Lists -/

/-- A list reads its elements one after the other. -/
lemma commaList_reads {element : Parser α} {pieces : α → List Piece} (nodes : α → List NodeId)
    {closing : Token.Kind} {unseparated unclosed : SyntaxProblem} {n : Nat}
    (reads : ∀ ⦃s t : State⦄ ⦃a : α⦄, s.pending.length < n → Runs element s a t →
      Reads (before s) (past t) (pieces a) (nodes a))
    (mark : closing.isMark) {bound : Nat} {r : List α} (enough : s.pending.length < n)
    (bounded : s.pending.length < bound)
    (h : Runs (commaList element closing unseparated unclosed bound) s r t) :
    Reads (before s) (past t) (r.flatMap pieces) (r.flatMap nodes) := by
  -- On the bound; each round moves past a token, so what is left stays below the bound.
  induction bound generalizing s r with
  | zero => omega
  | succ bound ih =>
    simp only [commaList, run_bind, run_advance, run_standsOn] at h
    obtain ⟨first, u, he, _, _, rfl, _, _, ⟨rfl, rfl⟩, h⟩ := h
    have head := (reads enough he).trans (Reads.moved .insensitive u)
    have length := (reads enough he).length_le
    have moved := length_moved .insensitive u
    split at h
    · next e =>
      obtain ⟨rfl, rfl⟩ := run_pure.mp h
      have skip := Reads.skip (of_decide_eq_true e ▸ mark)
      exact (head.trans skip).cast (by simp) (by simp)
    · simp only [run_bind, run_tryAdvance] at h
      obtain ⟨_, v, hc, _, _, ⟨rfl, rfl⟩, h⟩ := h
      have comma := Reads.expected hc rfl
      have upto := (head.trans comma).trans (Reads.moved .insensitive v)
      split at h
      · next more =>
        simp only [run_bind, run_pure] at h
        obtain ⟨rest, _, hr, rfl, rfl⟩ := h
        have pos := List.length_pos_iff.mpr (of_decide_eq_true more)
        have left := comma.length_le
        have next := length_moved .insensitive v
        have tail := ih (by omega) (by omega) hr
        exact (upto.trans tail).cast (by simp) (by simp)
      · simp only [run_bind, run_pure] at h
        obtain ⟨_, _, hx, rfl, rfl⟩ := h
        exact (upto.trans (Reads.expected hx mark)).cast (by simp) (by simp)

/-- A list in angle brackets reads its elements. -/
lemma inAngles_reads {element : Parser α} {pieces : α → List Piece} {empty unclosed : SyntaxProblem}
    {bound : Nat} (reads : ReadsAs bound element pieces) {r : List α}
    (opening : s.token.kind = .less) (bounded : s.pending.length ≤ bound)
    (h : Runs (inAngles element empty unclosed bound) s r t) :
    Reads (before s) (past t) (r.flatMap pieces) [] := by
  simp only [inAngles, run_bind, run_advance, run_standsOn] at h
  obtain ⟨_, _, rfl, _, _, ⟨rfl, rfl⟩, h⟩ := h
  have head := (Reads.skip (by rw [opening]; rfl)).trans (Reads.moved .insensitive s)
  have pos : 0 < s.pending.length := length_pos_of_kind (by rw [opening]; decide)
  have moved := length_moved .insensitive s
  split at h
  · simp only [run_bind, run_report, run_pure] at h
    obtain ⟨_, _, rfl, rfl, rfl⟩ := h
    exact (head.trans (Reads.noted ..)).thin (Reads.not_clean_noted _ _ _) (by simp)
  · have list := commaList_reads (fun _ => []) reads rfl (by omega) (by omega) h
    exact (head.trans list).cast (by simp) (by simp)

/-! ## Written types -/

/-- The brackets of an array hold no names. -/
lemma arrayBrackets_reads {b : Bool} (h : Runs arrayBrackets s b t) :
    Reads (past s) (past t) [] [] := by
  simp only [arrayBrackets, run_bind, run_peekWith] at h
  obtain ⟨_, _, ⟨rfl, rfl⟩, h⟩ := h
  split at h
  · next opening =>
    simp only [run_bind, run_discard, run_advanceWith, run_peekWith] at h
    obtain ⟨_, _, ⟨_, _, rfl⟩, _, _, ⟨rfl, rfl⟩, h⟩ := h
    have onto {s : State} {k : Token.Kind} (e : s.cursor.peekKind .toLayout = k) (mark : k.isMark) :
        Reads (past s) (past (s.moved .toLayout)) [] [] := by
      refine (Reads.moved _ s).trans (Reads.skip ?_)
      rw [kind_moved, e]
      exact mark
    split at h
    · next closing =>
      simp only [run_bind, run_discard, run_advanceWith, run_pure] at h
      obtain ⟨_, _, ⟨_, _, rfl⟩, rfl, rfl⟩ := h
      exact (onto opening rfl).trans (onto closing rfl)
    · simp only [run_bind, run_report, run_pure] at h
      obtain ⟨_, _, rfl, rfl, rfl⟩ := h
      exact (onto opening rfl).trans (Reads.noted ..)
  · obtain ⟨rfl, rfl⟩ := run_pure.mp h
    exact Reads.refl _

/-- A type argument reads what it is taken for. -/
lemma typeArgument_reads {type : Parser TypeRef} {n : Nat} (reads : ReadsAs n type TypeRef.pieces) :
    ReadsAs n (typeArgument type) TypeRef.pieces := by
  intro s t written bounded h
  simp only [typeArgument, run_bind, run_kind] at h
  obtain ⟨_, _, ⟨rfl, rfl⟩, h⟩ := h
  split at h
  · exact reads bounded h
  · simp only [run_bind, run_report, run_span, run_pure] at h
    obtain ⟨_, _, rfl, _, _, ⟨rfl, rfl⟩, rfl, rfl⟩ := h
    refine (Reads.noted _ s false).spoil (Reads.not_clean_noted _ _ _) ?_
    simp only [TypeRef.named, TypeRef.pieces, typePieces, List.mem_singleton, forall_eq]
    exact fromTokens_token s

/-- Type arguments read their names. -/
lemma typeArgumentsOf_reads {type : Parser TypeRef} {bound : Nat} {r : List TypeRef}
    (reads : ReadsAs bound type TypeRef.pieces) (opening : s.token.kind = .less)
    (bounded : s.pending.length ≤ bound) (h : Runs (typeArgumentsOf type bound) s r t) :
    Reads (before s) (past t) (typePieces r) [] := by
  rw [typePieces_eq_flatMap]
  exact inAngles_reads (typeArgument_reads reads) opening bounded h

/-- A written type reads its names. -/
lemma typeRef_reads (bound : Nat) : ReadsAs bound (typeRef bound) TypeRef.pieces := by
  induction bound with
  | zero => exact fun _ _ _ bounded => absurd bounded (Nat.not_lt_zero _)
  | succ bound ih =>
    intro s t type bounded h
    obtain ⟨u, v, name, arguments, brackets, e⟩ := run_typeRef h
    have head : Reads (before s) (past u) [.leaf s.token.span] [] := by
      rcases name with ⟨name, rfl⟩ | ⟨_, rfl⟩
      · exact Reads.leaf (isLeaf_of_isTypeName name)
      · refine (Reads.noted _ s false).spoil (Reads.not_clean_noted _ _ _) ?_
        simp only [List.mem_singleton, forall_eq]
        exact fromTokens_token s
    have inner : Reads (past u) (past v) (typePieces type.arguments) [] := by
      rcases arguments with ⟨opening, ha⟩ | ⟨_, e, rfl⟩
      · have pos := length_pos_of_peek (by rw [opening]; decide)
        have moved := length_moved .insensitive u
        have left := head.length_le
        have list := typeArgumentsOf_reads ih ((kind_moved _ u).trans opening)
          (by omega) ha
        exact (Reads.moved .insensitive u).trans list
      · rw [e, typePieces]
        exact Reads.refl _
    have whole := (head.trans inner).trans (arrayBrackets_reads brackets)
    rw [e, TypeRef.pieces]
    exact whole.cast (by simp) (.refl _)

/-! ## Operations -/

/-- Operators that a level of binary operators takes are marks. -/
def Level.Sound (level : Level) : Prop :=
  ∀ kind operator, level kind = some operator → kind.isMark

/-- All levels take operators only. -/
lemma Level.sound_of_mem_all : ∀ level ∈ Level.all, Level.Sound level := by
  simp only [Level.all, List.forall_mem_cons, List.not_mem_nil, false_implies, implies_true,
    and_true, Level.Sound]
  refine ⟨?_, ?_, ?_, ?_, ?_⟩ <;> intro kind operator h <;> cases kind <;>
    first | rfl | cases h

/-- What goes on behind a left operand is appended to its pieces. -/
lemma operationsFrom_reads {operand : Parser Expr} {level : Level} {n : Nat}
    (reads : ReadsAs n operand Expr.pieces) (sound : level.Sound) {bound : Nat} {left r : Expr}
    (enough : s.pending.length < n) (h : Runs (operationsFrom operand level bound left) s r t) :
    ∃ more, r.pieces = left.pieces ++ more ∧ Reads (past s) (past t) more [] := by
  induction bound generalizing s left with
  | zero =>
    obtain ⟨rfl, rfl⟩ := run_pure.mp h
    exact ⟨[], by simp, Reads.refl _⟩
  | succ bound ih =>
    simp only [operationsFrom, run_bind, run_peek] at h
    obtain ⟨_, _, ⟨rfl, rfl⟩, h⟩ := h
    split at h
    · next operator taken =>
      simp only [run_bind, run_advance, run_span] at h
      obtain ⟨_, _, rfl, _, _, ⟨rfl, rfl⟩, _, _, rfl, right, u, hr, h⟩ := h
      have mark := sound _ _ taken
      have pos := length_pos_of_peek (Token.Kind.ne_endOfFile_of_isMark mark)
      have sign := (Reads.moved .insensitive s).trans
        (Reads.mark (by rw [kind_moved]; exact mark))
      have first := length_moved .insensitive s
      have second := length_moved .insensitive (s.moved .insensitive)
      have term := reads (by omega) hr
      have upto := (sign.trans (Reads.moved .insensitive _)).trans term
      have length := term.length_le
      obtain ⟨more, e, rest⟩ := ih (by omega) h
      refine ⟨_, ?_, upto.trans rest⟩
      rw [e, Expr.pieces]
      simp
    · obtain ⟨rfl, rfl⟩ := run_pure.mp h
      exact ⟨[], by simp, Reads.refl _⟩

/-- Operations read their operands and operators. -/
lemma operations_reads {operand : Parser Expr} {n bound : Nat}
    (reads : ReadsAs n operand Expr.pieces) {levels : List Level}
    (sound : ∀ level ∈ levels, level.Sound) :
    ReadsAs n (operations operand bound levels) Expr.pieces := by
  induction levels with
  | nil => exact reads
  | cons level tighter ih =>
    have ih : ReadsAs n (operations operand bound tighter) Expr.pieces :=
      ih fun level mem => sound level (List.mem_cons_of_mem _ mem)
    intro s t r enough h
    simp only [operations, run_bind] at h
    obtain ⟨left, u, hl, h⟩ := h
    have head := ih enough hl
    have length := head.length_le
    obtain ⟨more, e, rest⟩ :=
      operationsFrom_reads ih (sound level List.mem_cons_self) (by omega) h
    rw [e]
    exact head.trans rest

/-- Unary operators stand before what they apply to. -/
lemma unaryOperations_reads {term : Parser Expr} {n bound : Nat}
    (reads : ReadsAs n term Expr.pieces) (le : bound ≤ n) :
    ReadsAs bound (unaryOperations term bound) Expr.pieces := by
  induction bound with
  | zero => exact fun _ _ _ bounded => absurd bounded (Nat.not_lt_zero _)
  | succ bound ih =>
    intro s t r bounded h
    simp only [unaryOperations, run_bind, run_kind] at h
    obtain ⟨_, _, ⟨rfl, rfl⟩, h⟩ := h
    split at h
    · next operator taken =>
      simp only [run_bind, run_span, run_advance, run_pure] at h
      obtain ⟨_, _, ⟨rfl, rfl⟩, _, _, rfl, operand, _, ho, rfl, rfl⟩ := h
      have sign : s.token.kind.isMark := by
        revert taken
        cases s.token.kind <;> simp [unaryOperator?, Token.Kind.isMark]
      have pos := length_pos_of_kind (Token.Kind.ne_endOfFile_of_isMark sign)
      have moved := length_moved .insensitive s
      have inner := ih (by omega) (by omega) ho
      rw [Expr.pieces]
      exact ((Reads.mark sign).trans (Reads.moved .insensitive s)).trans inner
    · exact reads (by omega) h

/-! ## Chains -/

/-- Two moves lead off a token that is not the last. -/
lemma two_le_length_of_peek (h : s.cursor.peekKind .insensitive ≠ .endOfFile) :
    2 ≤ s.pending.length := by
  have pos := length_pos_of_peek h
  have next : 0 < (s.moved .insensitive).pending.length :=
    length_pos_of_kind (by rw [kind_moved]; exact h)
  have moved := length_moved .insensitive s
  omega

/-- Moving onto a peeked token that is a mark, and past it. -/
lemma onto_reads {k : Token.Kind} (h : s.cursor.peekKind .insensitive = k) (mark : k.isMark) :
    Reads (past s) (past (s.moved .insensitive)) [] [] := by
  refine (Reads.moved .insensitive s).trans (Reads.skip ?_)
  rw [kind_moved, h]
  exact mark

/-- Arguments behind the opening parenthesis are read up to the closing one. -/
lemma argumentList_reads {expression : Parser Expression} {n bound : Nat}
    (reads : ReadsAs n expression Expression.pieces) {r : List Expression}
    (enough : s.pending.length < n) (bounded : s.pending.length < bound)
    (h : Runs (argumentList expression bound) s r t) :
    Reads (before s) (past t) (argumentPieces r) [] := by
  induction bound generalizing s r with
  | zero => omega
  | succ bound ih =>
    simp only [argumentList, run_bind, run_peek] at h
    obtain ⟨first, u, he, _, _, ⟨rfl, rfl⟩, h⟩ := h
    have head := reads enough he
    have length := head.length_le
    have moved := length_moved .insensitive u
    split at h
    case h_1 closing =>
      simp only [run_bind, run_advance, run_pure] at h
      obtain ⟨_, _, rfl, rfl, rfl⟩ := h
      exact (head.trans (onto_reads closing rfl)).cast
        (by simp [argumentPieces]) (.refl _)
    case h_2 comma =>
      simp only [run_bind, run_advance, run_pure] at h
      obtain ⟨_, _, rfl, _, _, rfl, rest, _, hr, rfl, rfl⟩ := h
      have two := two_le_length_of_peek (s := u) (by rw [comma]; decide)
      have twice := length_moved .insensitive (u.moved .insensitive)
      have tail := ih (by omega) (by omega) hr
      have upto := (head.trans (onto_reads comma rfl)).trans
        (Reads.moved .insensitive _)
      exact (upto.trans tail).cast (by simp [argumentPieces]) (.refl _)
    -- Where the call breaks off, what was read so far is kept and the end is reported.
    case h_3 | h_4 | h_5 | h_6 =>
      simp only [run_bind, run_peekSpan, run_reportAt, run_pure] at h
      obtain ⟨_, _, ⟨rfl, rfl⟩, _, _, rfl, rfl, rfl⟩ := h
      exact (head.trans (Reads.notedAhead _ u true)).cast (by simp [argumentPieces]) (.refl _)
    -- Without a comma the next argument is still read, after a report.
    case h_7 _ _ more _ _ _ =>
      simp only [run_bind, run_peekSpan, run_reportAt, run_advance, run_pure] at h
      obtain ⟨_, _, ⟨rfl, rfl⟩, _, _, rfl, _, _, rfl, rest, _, hr, rfl, rfl⟩ := h
      have two := two_le_length_of_peek more
      have next := (Reads.notedAhead .argumentsUnseparated u true).trans
        (Reads.moved .insensitive _)
      have left := length_moved .insensitive (u.noted .argumentsUnseparated u.cursor.peekSpan)
      have same : (u.noted .argumentsUnseparated u.cursor.peekSpan).pending = u.pending := rfl
      rw [same] at left
      have tail := ih (by omega) (by omega) hr
      exact ((head.trans next).trans tail).cast (by simp [argumentPieces]) (.refl _)

/-- The arguments of a call are read from behind the opening parenthesis; the call ends on a mark. -/
lemma callArguments_reads {expression : Parser Expression} {bound : Nat}
    (reads : ReadsAs bound expression Expression.pieces) {r : List Expression × Span}
    (bounded : s.pending.length < bound)
    (h : Runs (callArguments expression bound) s r t) :
    Reads (past s) (past t) (argumentPieces r.1 ++ [.mark r.2]) [] := by
  simp only [callArguments, run_bind, run_peek] at h
  obtain ⟨_, _, ⟨rfl, rfl⟩, h⟩ := h
  split at h
  · next closing =>
    simp only [run_bind, run_advance, run_span, run_pure] at h
    obtain ⟨_, _, rfl, _, _, ⟨rfl, rfl⟩, rfl, rfl⟩ := h
    refine (Reads.trans (onto_reads closing rfl) (Reads.here _ true)).cast ?_ (.refl _)
    simp [argumentPieces]
  · simp only [run_bind, run_advance, run_span, run_pure] at h
    obtain ⟨_, _, rfl, arguments, u, ha, _, _, ⟨rfl, rfl⟩, rfl, rfl⟩ := h
    have moved := length_moved .insensitive s
    have list := argumentList_reads reads (by omega) (by omega) ha
    exact (((Reads.moved .insensitive s).trans list).trans (Reads.here _ true)).cast
      (by simp) (.refl _)

/-- An indexed name reads the name, the index and the closing bracket. -/
lemma indexLink_reads {expression : Parser Expression} {bound : Nat}
    (reads : ReadsAs bound expression Expression.pieces) {r : Link}
    (name : isLinkName s.token.kind) (next : s.cursor.peekKind .insensitive = .leftBracket)
    (bounded : s.pending.length ≤ bound) (h : Runs (indexLink expression) s r t) :
    Reads (before s) (past t) r.pieces [] := by
  simp only [indexLink, run_bind, run_span, run_advance, run_peek] at h
  obtain ⟨_, _, ⟨rfl, rfl⟩, _, _, rfl, _, _, ⟨rfl, rfl⟩, h⟩ := h
  have opened := (Reads.link name).trans (onto_reads next rfl)
  split at h
  · next closing =>
    simp only [run_bind, run_advance, run_report, run_span, run_pure] at h
    obtain ⟨_, _, rfl, _, _, rfl, _, _, ⟨rfl, rfl⟩, rfl, rfl⟩ := h
    have shut := opened.trans (onto_reads closing rfl)
    refine ((shut.trans (Reads.noted .indexMissing _ true)).trans (Reads.here _ true)).thin (Reads.not_clean_noted _ _ _) ?_
    simp [Link.pieces, Expression.untyped, Expression.pieces, Expr.pieces, Identifier.unbound]
  · simp only [run_bind, run_advance, run_pure] at h
    obtain ⟨_, _, rfl, index, u, hi, _, _, hc, rfl, rfl⟩ := h
    have first := length_moved .insensitive s
    have second := length_moved .insensitive (s.moved .insensitive)
    have two := two_le_length_of_peek (s := s) (by rw [next]; decide)
    have inner := (opened.trans (Reads.moved .insensitive _)).trans (reads (by omega) hi)
    refine (inner.trans (Reads.closed hc rfl)).cast ?_ (.refl _)
    simp [Link.pieces, Identifier.unbound]

/-- A call reads its name, its type arguments, its arguments and the token it ends on. -/
lemma callLink_reads {expression : Parser Expression} {bound : Nat}
    (reads : ReadsAs bound expression Expression.pieces) {r : Link}
    (name : isLinkName s.token.kind) (bounded : s.pending.length ≤ bound)
    (h : Runs (callLink expression bound) s r t) : Reads (before s) (past t) r.pieces [] := by
  simp only [callLink, run_bind, run_span, run_advance, run_standsOn] at h
  obtain ⟨_, _, ⟨rfl, rfl⟩, _, _, rfl, _, _, ⟨rfl, rfl⟩, h⟩ := h
  have named := (Reads.link name).trans (Reads.moved .insensitive s)
  have pos : 0 < s.pending.length := length_pos_of_kind (by
    intro e
    rw [e] at name
    cases name)
  have moved := length_moved .insensitive s
  split at h
  · next opening =>
    simp only [run_bind, run_advance, run_pure] at h
    obtain ⟨types, u, ht, _, _, rfl, _, _, ⟨rfl, rfl⟩, _, v, hp, _, _, ha, rfl, rfl⟩ := h
    have list := typeArgumentsOf_reads (typeRef_reads bound) (of_decide_eq_true opening)
      (by omega) ht
    have typed := (named.trans list).trans (Reads.moved .insensitive u)
    have upto := typed.trans (Reads.expected hp rfl)
    have left := length_moved .insensitive u
    have after := list.length_le
    have same := (Reads.expected hp rfl).length_le
    refine (upto.trans (callArguments_reads reads (by omega) ha)).cast ?_ (.refl _)
    simp [Link.pieces, Identifier.unbound]
  · simp only [run_bind, run_pure] at h
    obtain ⟨_, _, ⟨rfl, rfl⟩, _, v, hp, _, _, ha, rfl, rfl⟩ := h
    have same := (Reads.expected hp rfl).length_le
    have upto := named.trans (Reads.expected hp rfl)
    refine (upto.trans (callArguments_reads reads (by omega) ha)).cast ?_ (.refl _)
    simp [Link.pieces, Identifier.unbound]

/-- An action that may fail reads the pieces of its result, and fails only with a problem noted. -/
def ReadsMaybe (n : Nat) (action : Parser (Option α)) (pieces : α → List Piece) : Prop :=
  ∀ ⦃s t : State⦄ ⦃a : Option α⦄, 0 < n → s.pending.length ≤ n → Runs action s a t →
    Reads (before s) (past t) (a.elim [] pieces) [] ∧ (a = none → ¬ t.Clean)

/-- A link reads its pieces. -/
lemma link?_reads {expression : Parser Expression} {bound : Nat}
    (reads : ReadsAs bound expression Expression.pieces) :
    ReadsMaybe bound (link? expression bound) Link.pieces := by
  intro s t r pos bounded h
  simp only [link?, run_bind, run_kind, run_peek] at h
  obtain ⟨_, _, ⟨rfl, rfl⟩, _, _, ⟨rfl, rfl⟩, h⟩ := h
  split at h
  · next e =>
    simp only [Bool.and_eq_true, decide_eq_true_eq] at e
    simp only [run_bind, run_pure] at h
    obtain ⟨link, _, hl, rfl, rfl⟩ := h
    exact ⟨indexLink_reads reads e.1 e.2 bounded hl, nofun⟩
  · simp only [run_bind, run_genericCallAhead] at h
    obtain ⟨_, _, ⟨rfl, rfl⟩, h⟩ := h
    split at h
    · next e =>
      simp only [Bool.and_eq_true] at e
      simp only [run_bind, run_pure] at h
      obtain ⟨link, _, hl, rfl, rfl⟩ := h
      exact ⟨callLink_reads reads e.1 bounded hl, nofun⟩
    · split at h
      · next e =>
        simp only [run_bind, run_span, run_pure] at h
        obtain ⟨_, _, ⟨rfl, rfl⟩, rfl, rfl⟩ := h
        exact ⟨Reads.link (by rw [e]; rfl), nofun⟩
      · simp only [run_bind, run_report, run_pure] at h
        obtain ⟨_, _, rfl, rfl, rfl⟩ := h
        have dirty := Reads.not_clean_noted .linkExpected s.token.span s
        exact ⟨(Reads.noted _ s false).thin dirty (by simp), fun _ => dirty⟩

/-- Links read their pieces one after the other. -/
lemma links?_reads {link? : Parser (Option Link)} {n : Nat}
    (reads : ReadsMaybe n link? Link.pieces) {bound : Nat} (le : bound ≤ n) :
    ReadsMaybe bound (links? link? bound) linkPieces := by
  induction bound with
  | zero => exact fun _ _ _ pos => absurd pos (Nat.lt_irrefl _)
  | succ bound ih =>
    intro s t r pos bounded h
    simp only [links?, run_bind] at h
    obtain ⟨first, u, hf, h⟩ := h
    obtain ⟨head, dirty⟩ := reads (by omega) (by omega) hf
    cases first with
    | none =>
      obtain ⟨rfl, rfl⟩ := run_pure.mp h
      exact ⟨head, fun _ => dirty rfl⟩
    | some first =>
      simp only [run_bind, run_peek] at h
      obtain ⟨_, _, ⟨rfl, rfl⟩, h⟩ := h
      split at h
      · obtain ⟨rfl, rfl⟩ := run_pure.mp h
        exact ⟨head.cast (by simp [linkPieces]) (.refl _), nofun⟩
      · next dot =>
        rw [ne_eq, Decidable.not_not] at dot
        simp only [run_bind, run_advance, run_pure] at h
        obtain ⟨_, _, rfl, _, _, rfl, rest, _, hr, rfl, rfl⟩ := h
        have two := two_le_length_of_peek (s := u) (by rw [dot]; decide)
        have length := head.length_le
        have once := length_moved .insensitive u
        have twice := length_moved .insensitive (u.moved .insensitive)
        obtain ⟨tail, dirty⟩ := ih (by omega) (by omega) (by omega) hr
        have upto := (head.trans (onto_reads dot rfl)).trans
          (Reads.moved .insensitive _)
        cases rest with
        | none => exact ⟨(upto.trans tail).thin (dirty rfl) (by simp), fun _ => dirty rfl⟩
        | some rest => exact ⟨(upto.trans tail).cast (by simp [linkPieces]) (.refl _), nofun⟩

/-- A chain reads its links. -/
lemma chain?_reads {expression : Parser Expression} {bound : Nat}
    (reads : ReadsAs bound expression Expression.pieces) :
    ReadsMaybe bound (chain? expression bound) Chain.pieces := by
  intro s t r pos bounded h
  simp only [chain?, run_bind, run_span, run_pure] at h
  obtain ⟨_, _, ⟨rfl, rfl⟩, links, _, hl, rfl, rfl⟩ := h
  obtain ⟨inner, dirty⟩ := links?_reads (link?_reads reads) (Nat.le_refl _) pos bounded hl
  cases links with
  | none => exact ⟨inner, fun _ => dirty rfl⟩
  | some links =>
    refine ⟨((Reads.here s false).trans inner).cast ?_ (.refl _), nofun⟩
    simp [Chain.pieces]

/-! ## Terms -/

/-- A new value or array reads its keyword and what it is made of. -/
lemma newTerm_reads {expression : Parser Expression} {bound : Nat}
    (reads : ReadsAs bound expression Expression.pieces) {r : Expr} (new : s.token.kind = .kwNew)
    (bounded : s.pending.length ≤ bound) (h : Runs (newTerm expression bound) s r t) :
    Reads (before s) (past t) r.pieces [] := by
  simp only [newTerm, run_bind, run_span, run_advance, run_standsOn] at h
  obtain ⟨_, _, ⟨rfl, rfl⟩, _, _, rfl, _, _, ⟨rfl, rfl⟩, h⟩ := h
  have head := (Reads.mark (s := s) (by rw [new]; rfl)).trans (Reads.moved .insensitive s)
  have pos : 0 < s.pending.length := length_pos_of_kind (by rw [new]; decide)
  have moved := length_moved .insensitive s
  split at h
  · next opening =>
    simp only [run_bind, run_advance, run_discard, run_pure] at h
    obtain ⟨_, _, rfl, element, u, he, _, _, ⟨_, hc⟩, rfl, rfl⟩ := h
    have twice := length_moved .insensitive (s.moved .insensitive)
    have opened := head.trans (Reads.skip (by rw [of_decide_eq_true opening]; rfl))
    have inner := (opened.trans (Reads.moved .insensitive _)).trans (reads (by omega) he)
    refine (inner.trans (Reads.closed hc rfl)).forget.cast ?_ (.refl _)
    simp [Expr.pieces]
  · simp only [run_bind] at h
    obtain ⟨path, u, hp, h⟩ := h
    obtain ⟨inner, dirty⟩ := chain?_reads reads (by omega) (by omega) hp
    have whole := head.trans inner
    have refused : ∀ {r : Expr}, Runs (do report .invalidNew; pure (.missing s.token.span)) u r t →
        Reads (before s) (past t) r.pieces [] := by
      intro r h
      simp only [run_bind, run_report, run_pure] at h
      obtain ⟨_, _, rfl, rfl, rfl⟩ := h
      refine (whole.trans (Reads.noted _ u true)).thin (Reads.not_clean_noted _ _ _) ?_
      simp [Expr.pieces]
    cases path with
    | none => exact refused h
    | some path =>
      simp only at h
      split at h
      · obtain ⟨rfl, rfl⟩ := run_pure.mp h
        exact whole.cast (by simp [Expr.pieces]) (.refl _)
      · exact refused h

/-- Literals are leaves. -/
lemma isLeaf_of_literalKind? {kind : Token.Kind} {literal : LiteralKind}
    (h : literalKind? kind = some literal) : kind.isLeaf := by
  revert h
  cases kind <;> simp [literalKind?, Token.Kind.isLeaf]

/-- A term reads its pieces. -/
lemma term_reads {expression : Parser Expression} {bound : Nat}
    (reads : ReadsAs bound expression Expression.pieces) :
    ReadsAs (bound + 1) (term expression bound) Expr.pieces := by
  intro s t r bounded h
  simp only [term, run_bind, run_span, run_kind] at h
  obtain ⟨_, _, ⟨rfl, rfl⟩, _, _, ⟨rfl, rfl⟩, h⟩ := h
  split at h
  · next literal =>
    obtain ⟨rfl, rfl⟩ := run_pure.mp h
    exact Reads.leaf (isLeaf_of_literalKind? literal)
  · have path : s.token.kind ≠ .endOfFile →
        Runs (do let path ← chain? expression bound; pure (path.elim (.missing s.token.span) .chain))
          s r t → Reads (before s) (past t) r.pieces [] := by
      intro ne h
      have pos := length_pos_of_kind ne
      simp only [run_bind, run_pure] at h
      obtain ⟨path, _, hp, rfl, rfl⟩ := h
      obtain ⟨inner, dirty⟩ := chain?_reads reads (by omega) (by omega) hp
      cases path with
      | none =>
        refine ((Reads.here s false).trans inner).thin (dirty rfl) ?_
        simp [Expr.pieces]
      | some path => exact inner
    split at h
    · next e =>
      obtain ⟨rfl, rfl⟩ := run_pure.mp h
      exact Reads.leaf (by rw [e]; rfl)
    · next e =>
      simp only [run_bind, run_advance, run_discard, run_pure] at h
      obtain ⟨_, _, rfl, inner, u, hi, _, _, ⟨_, hc⟩, rfl, rfl⟩ := h
      have pos : 0 < s.pending.length := length_pos_of_kind (by rw [e]; decide)
      have moved := length_moved .insensitive s
      have opened := (Reads.skip (s := s) (by rw [e]; rfl)).trans (Reads.moved .insensitive s)
      have whole := opened.trans (reads (by omega) hi)
      refine (whole.trans (Reads.closed hc rfl)).forget.cast ?_ (.refl _)
      cases inner
      simp [Expression.pieces]
    · next e => exact newTerm_reads reads e (by omega) h
    · next e => exact path (by rw [e]; decide) h
    · next e => exact path (by rw [e]; decide) h
    · simp only [run_bind, run_report, run_pure] at h
      obtain ⟨_, _, rfl, rfl, rfl⟩ := h
      refine ((Reads.here s false).trans (Reads.noted _ s false)).thin
        (Reads.not_clean_noted _ _ _) ?_
      simp [Expr.pieces]

/-- An expression reads its pieces. -/
lemma expression_reads (bound : Nat) : ReadsAs bound (expression bound) Expression.pieces := by
  induction bound with
  | zero => exact fun _ _ _ bounded => absurd bounded (Nat.not_lt_zero _)
  | succ bound ih =>
    intro s t r bounded h
    simp only [expression, run_bind, run_pure] at h
    obtain ⟨root, _, hr, rfl, rfl⟩ := h
    have operand := unaryOperations_reads (term_reads ih) (Nat.le_refl _)
    exact operations_reads operand Level.sound_of_mem_all bounded hr

/-- A chain with expressions inside reads its pieces. -/
lemma chain_reads (bound : Nat) : ReadsMaybe bound (chain bound) Chain.pieces :=
  chain?_reads (expression_reads bound)

end ArrowScript.Grammar
