import ArrowScript.Proofs.Grammar.ReadingExpressions

/-!
# Reading statements

Every routine for statements and definitions reads the pieces of what it returns in the order they are
written in, and gives the nodes of the result exactly the handles that it draws. A statement that cannot
be made out has been reported; nothing that carries a handle is dropped with it. A whole program without
reports is read up to the token that ends it.
-/

namespace ArrowScript.Grammar
open Place

variable {s t : State}

/-! ## Shapes of readings -/

/-- With fewer than `n` tokens left, blocks are read in written order. -/
def ReadsBlock (n : Nat) (block : SyntaxProblem → Parser Block) : Prop :=
  ∀ ⦃s t : State⦄ ⦃problem : SyntaxProblem⦄ ⦃r : Block⦄, s.pending.length < n →
    Runs (block problem) s r t → ∃ pieces, r.Written pieces ∧ Reads (before s) (past t) pieces r.ids

/-- With fewer than `n` tokens left, functions are read in written order. -/
def ReadsFunction (n : Nat) (functionDef : Parser FunctionDef) : Prop :=
  ∀ ⦃s t : State⦄ ⦃r : FunctionDef⦄, s.pending.length < n → s.token.kind = .kwFunction →
    Runs functionDef s r t → ∃ pieces, r.Written pieces ∧ Reads (before s) (past t) pieces r.ids

/-- With fewer than `n` tokens left, statements are read in written order or reported. -/
def ReadsStatement (n : Nat) (statement? : Parser (Option Statement)) : Prop :=
  ∀ ⦃s t : State⦄ ⦃r : Option Statement⦄, s.pending.length < n → Runs statement? s r t →
    (∃ statement pieces, r = some statement ∧ statement.Written pieces ∧
      Reads (before s) (past t) pieces statement.ids) ∨
    (r = none ∧ Reads (before s) (past t) [] [] ∧ ¬ t.Clean)

/-- Statements that start with a name are declarations and expressions. -/
def ReadsNamed (n : Nat) (named? : Parser (Option Statement)) : Prop :=
  ∀ ⦃s t : State⦄ ⦃r : Option Statement⦄, s.pending.length < n → s.token.kind = .identifier →
    Runs named? s r t →
    (∃ declaration, r = some (.variable declaration) ∧
      Reads (before s) (past t) declaration.pieces [declaration.id]) ∨
    (∃ expression, r = some (.expression expression) ∧
      Reads (before s) (past t) expression.pieces []) ∨
    (r = none ∧ Reads (before s) (past t) [] [] ∧ ¬ t.Clean)

/-! ## Blocks -/

/-- Stepping off a statement takes at most the end of its line. -/
lemma finishStatement_reads {u : Unit} (h : Runs finishStatement s u t) :
    Reads (past s) (before t) [] [] ∧ t.pending.length ≤ s.pending.length - 1 := by
  simp only [finishStatement, run_bind, run_discard, run_advanceWith, run_kind] at h
  obtain ⟨_, _, ⟨_, _, rfl⟩, _, _, ⟨rfl, rfl⟩, h⟩ := h
  have first := Reads.moved .toLineEnds s
  have length := length_moved .toLineEnds s
  split at h
  case h_1 lineEnd =>
    obtain rfl := run_advance.mp h
    have second := length_moved .insensitive (s.moved .toLineEnds)
    refine ⟨?_, by omega⟩
    exact (first.trans (Reads.skip (by rw [lineEnd]; rfl))).trans (Reads.moved .insensitive _)
  case h_2 | h_3 =>
    obtain ⟨_, rfl⟩ := run_pure.mp h
    exact ⟨first, length⟩
  case h_4 =>
    obtain rfl := run_report.mp h
    exact ⟨first.trans (Reads.noted _ _ false), length⟩

/-- Statements are read up to the end of their block. -/
lemma statements_reads {statement? : Parser (Option Statement)} {block : BlockKind} {n : Nat}
    (reads : ReadsStatement n statement?) {bound : Nat} {r : List Statement}
    (enough : s.pending.length < n) (bounded : s.pending.length < bound)
    (h : Runs (statements statement? block bound) s r t) :
    ∃ pieces, statementsWritten r pieces ∧ Reads (before s) (before t) pieces (statementIds r) ∧
      (t.Clean → endsBlock block t.token.kind) := by
  induction bound generalizing s r with
  | zero => omega
  | succ bound ih =>
    simp only [statements, run_bind, run_kind] at h
    obtain ⟨_, _, ⟨rfl, rfl⟩, h⟩ := h
    split at h
    · next ends =>
      obtain ⟨rfl, rfl⟩ := run_pure.mp h
      exact ⟨[], by rw [statementsWritten], Reads.refl _, fun _ => ends⟩
    · next going =>
      -- There is a token left, as the list has not come to its end.
      have pos : 0 < s.pending.length := length_pos_of_kind fun e => by
        simp [endsBlock, e] at going
      simp only [run_bind] at h
      obtain ⟨first, u, hf, h⟩ := h
      rcases reads enough hf with ⟨statement, pieces, rfl, written, head⟩ | ⟨rfl, head, dirty⟩
      · simp only [run_bind, run_pure] at h
        obtain ⟨_, v, hv, rest, _, hr, rfl, rfl⟩ := h
        obtain ⟨finish, shorter⟩ := finishStatement_reads hv
        have length := head.length_le
        obtain ⟨others, hw, tail, ends⟩ := ih (by omega) (by omega) hr
        refine ⟨pieces ++ others, ?_, ?_, ends⟩
        · rw [statementsWritten]
          exact ⟨pieces, others, written, hw, rfl⟩
        · rw [statementIds]
          exact ((head.trans finish).trans tail).cast (by simp) (by simp)
      · simp only [run_bind, run_tryAdvance] at h
        obtain ⟨_, _, ⟨rfl, rfl⟩, h⟩ := h
        have next := head.trans (Reads.moved .insensitive u)
        have length := head.length_le
        have shorter := length_moved .insensitive u
        split at h
        · obtain ⟨others, hw, tail, ends⟩ := ih (by omega) (by omega) h
          exact ⟨others, hw, next.trans tail, ends⟩
        · obtain ⟨rfl, rfl⟩ := run_pure.mp h
          refine ⟨[], by rw [statementsWritten], ?_, fun clean => ?_⟩
          · rw [statementIds]
            exact next
          -- Nothing but the end of the tokens stops the list here, and then a problem was reported.
          · exact absurd ((Reads.moved .insensitive u).clean clean) dirty

/-- A block reads its opening, its statements and its closing. -/
lemma block_reads {statement? : Parser (Option Statement)} {n : Nat}
    (reads : ReadsStatement n statement?) : ReadsBlock n (block statement? n) := by
  intro s t problem r enough h
  simp only [block, run_bind, run_freshId, run_span, run_advance, run_pure] at h
  obtain ⟨_, _, ⟨rfl, rfl⟩, _, _, ⟨rfl, rfl⟩, _, u, ho, _, _, rfl, inner, v, hs, _, _, hc,
    rfl, rfl⟩ := h
  have opened := ((Reads.numbered s false).trans (Reads.here _ false)).trans
    (Reads.expected ho rfl)
  have length := opened.length_le
  have shorter := length_moved .insensitive u
  obtain ⟨pieces, written, body, -⟩ := statements_reads reads (by omega) (by omega) hs
  have whole := ((opened.trans (Reads.moved .insensitive u)).trans body).trans
    (Reads.expected hc rfl)
  refine ⟨.mark s.token.span :: pieces, ?_, ?_⟩
  · rw [Block.Written]
    exact ⟨pieces, written, rfl⟩
  · rw [Block.ids]
    exact whole.cast (by simp [State.numbered]) (by simp)

/-! ## Definitions -/

/-- A parameter reads its name and its type. -/
lemma parameter_reads {bound : Nat} {r : Parameter} (bounded : s.pending.length < bound)
    (h : Runs (parameter bound) s r t) : Reads (before s) (past t) r.pieces [r.id] := by
  simp only [parameter, run_bind, run_span, run_advance, run_freshId, run_pure] at h
  obtain ⟨_, u, hn, _, _, ⟨rfl, rfl⟩, _, _, rfl, _, v, hc, _, _, rfl, written, w, ht, _, _,
    ⟨rfl, rfl⟩, rfl, rfl⟩ := h
  have named := (Reads.expected_leaf hn rfl).trans (Reads.moved .insensitive u)
  have upto := (named.trans (Reads.expected hc rfl)).trans (Reads.moved .insensitive v)
  have length := upto.length_le
  have type := typeRef_reads bound (by omega) ht
  exact ((upto.trans type).trans (Reads.numbered w true)).cast
    (by simp [Parameter.pieces]) (by simp)

/-- Parameters read their pieces one after the other. -/
lemma parameters_reads {bound : Nat} {r : List Parameter} (bounded : s.pending.length < bound)
    (h : Runs (parameters bound) s r t) :
    Reads (before s) (past t) (r.flatMap Parameter.pieces) (r.map Parameter.id) := by
  simp only [parameters, run_bind, run_standsOn] at h
  obtain ⟨_, _, ⟨rfl, rfl⟩, h⟩ := h
  split at h
  · next closing =>
    obtain ⟨rfl, rfl⟩ := run_pure.mp h
    exact Reads.skip (by rw [of_decide_eq_true closing]; rfl)
  · have list := commaList_reads (fun parameter => [parameter.id])
      (fun _ _ _ enough h => parameter_reads enough h) rfl bounded bounded h
    exact list.cast rfl (by rw [List.map_eq_flatMap])

/-- The name of a type parameter is a leaf. -/
lemma typeParameter_reads (n : Nat) : ReadsAs n typeParameter fun name => [.leaf name] := by
  intro s t r _ h
  simp only [typeParameter, run_bind, run_span] at h
  obtain ⟨_, _, he, rfl, rfl⟩ := h
  exact Reads.expected_leaf he rfl

/-- Type parameters are read together with the move behind them. -/
lemma optionalTypeParameters_reads {bound : Nat} {r : Option (List Span)}
    (bounded : s.pending.length ≤ bound) (h : Runs (optionalTypeParameters bound) s r t) :
    Reads (before s) (before t) (typeParameterPieces r) [] := by
  simp only [optionalTypeParameters, run_bind, run_standsOn] at h
  obtain ⟨_, _, ⟨rfl, rfl⟩, h⟩ := h
  split at h
  · next opening =>
    simp only [run_bind, run_advance, run_pure] at h
    obtain ⟨names, u, hn, _, _, rfl, rfl, rfl⟩ := h
    have list := inAngles_reads (typeParameter_reads bound) (of_decide_eq_true opening) bounded hn
    refine (list.trans (Reads.moved .insensitive u)).cast ?_ (.refl _)
    simp [typeParameterPieces, List.map_eq_flatMap]
  · obtain ⟨rfl, rfl⟩ := run_pure.mp h
    exact Reads.refl _

/-- The type that a function returns is read together with the move behind it. -/
lemma optionalReturn_reads {bound : Nat} {r : Option TypeRef} (bounded : s.pending.length < bound)
    (h : Runs (optionalReturn bound) s r t) :
    Reads (before s) (before t) (r.elim [] TypeRef.pieces) [] := by
  simp only [optionalReturn, run_bind, run_standsOn] at h
  obtain ⟨_, _, ⟨rfl, rfl⟩, h⟩ := h
  split at h
  · next colon =>
    simp only [run_bind, run_advance, run_pure] at h
    obtain ⟨_, _, rfl, written, u, ht, _, _, rfl, rfl, rfl⟩ := h
    have upto := (Reads.skip (s := s) (by rw [of_decide_eq_true colon]; rfl)).trans
      (Reads.moved .insensitive s)
    have length := upto.length_le
    exact (upto.trans (typeRef_reads bound (by omega) ht)).trans (Reads.moved .insensitive u)
      |>.cast (by simp) (.refl _)
  · obtain ⟨rfl, rfl⟩ := run_pure.mp h
    exact Reads.refl _

/-- The head of a function is read up to where its body begins. -/
lemma functionHead_reads {block : SyntaxProblem → Parser Block} {bound : Nat} {r : FunctionDef}
    (enough : s.pending.length < bound + 1) (keyword : s.token.kind = .kwFunction)
    (h : Runs (functionDef block bound) s r t) :
    ∃ u, u.pending.length < bound ∧ Runs (block .functionWithoutBody) u r.body t ∧ r.keyword = s.token.span ∧
      Reads (before s) (before u) (.mark r.keyword :: .leaf r.name :: (typeParameterPieces r.typeParameters ++
        (r.parameters.flatMap Parameter.pieces ++ r.returns.elim [] TypeRef.pieces)))
        (r.id :: r.parameters.map Parameter.id) := by
  simp only [functionDef, run_bind, run_span, run_freshId, run_advance, run_pure] at h
  obtain ⟨_, _, ⟨rfl, rfl⟩, _, _, ⟨rfl, rfl⟩, _, _, rfl, _, u, hn, _, _, ⟨rfl, rfl⟩, _, _, rfl,
    names, v, hp, _, w, ho, _, _, rfl, parameters, x, hl, _, _, rfl, returns, y, hr, body, z, hb,
    rfl, rfl⟩ := h
  have pos : 0 < s.pending.length := length_pos_of_kind (by rw [keyword]; decide)
  have start := ((Reads.numbered s false).trans
    (Reads.mark (s := s.numbered) (by
      show s.token.kind.isMark
      rw [keyword]
      rfl))).trans (Reads.moved .insensitive s.numbered)
  have shorter : (s.numbered.moved .insensitive).pending.length ≤ s.pending.length - 1 :=
    length_moved .insensitive s.numbered
  have named := (Reads.expected_leaf hn rfl).trans (Reads.moved .insensitive u)
  have length := named.length_le
  have typed := optionalTypeParameters_reads (by omega) hp
  have opened := (typed.trans (Reads.expected ho rfl)).trans (Reads.moved .insensitive w)
  have length' := opened.length_le
  have list := (parameters_reads (by omega) hl).trans (Reads.moved .insensitive x)
  have length'' := list.length_le
  have result := optionalReturn_reads (by omega) hr
  have left := result.length_le
  have whole := (((start.trans named).trans opened).trans list).trans result
  exact ⟨y, by omega, hb, rfl, whole.cast (by simp [State.numbered]) (by simp)⟩

/-- A function reads its head and its body. -/
lemma functionDef_reads {block : SyntaxProblem → Parser Block} {bound : Nat}
    (reads : ReadsBlock bound block) : ReadsFunction (bound + 1) (functionDef block bound) := by
  intro s t r enough keyword h
  obtain ⟨u, length, run, -, head⟩ := functionHead_reads enough keyword h
  obtain ⟨pieces, written, inner⟩ := reads length run
  refine ⟨_, ?_, (head.trans inner).cast rfl ?_⟩
  · cases r
    rw [FunctionDef.Written]
    exact ⟨pieces, written, by simp⟩
  · cases r
    rw [FunctionDef.ids]
    simp

/-! ## Statements that start with a name -/

/-- What a move that stops on fewer tokens leads to is peeked at alike, unless it is trivia. -/
lemma peekKind_insensitive (sensitivity : Sensitivity)
    (h : (s.cursor.peekKind sensitivity).isTrivia = false) :
    s.cursor.peekKind .insensitive = s.cursor.peekKind sensitivity := by
  have skips : ∀ kind : Token.Kind, sensitivity.skips kind → Sensitivity.insensitive.skips kind := by
    intro kind
    cases kind <;> simp [Sensitivity.skips, Sensitivity.insensitive]
  have stops : ∀ kind : Token.Kind, kind.isTrivia = false →
      Sensitivity.insensitive.skips kind = false := by
    intro kind
    cases kind <;> simp [Sensitivity.skips, Token.Kind.isTrivia]
  unfold Cursor.peekKind Cursor.next? at *
  cases e : s.cursor.pending with
  | nil => rfl
  | cons token rest =>
    simp only [e, Option.elim_some] at h ⊢
    clear e
    induction rest with
    | nil => rfl
    | cons next rest ih =>
      by_cases skip : sensitivity.skips next.kind
      · simp only [List.find?_cons, skip, skips _ skip, Bool.not_true] at h ⊢
        exact ih h
      · simp only [List.find?_cons, Bool.not_eq_true] at skip h ⊢
        simp only [skip, Bool.not_false, Option.getD_some] at h ⊢
        rw [stops _ h]
        rfl

/-- The type that a declaration is written with reads its names. -/
lemma writtenType_reads {bound : Nat} {written : Option TypeRef} (bounded : s.pending.length ≤ bound)
    (pos : 0 < s.pending.length) (h : WrittenTypeRead bound s written t) :
    Reads (past s) (past t) (written.elim [] TypeRef.pieces) [] := by
  rcases h with ⟨_, type, ht, rfl⟩ | ⟨_, rfl, rfl⟩
  · have shorter := length_moved .insensitive s
    exact (Reads.moved .insensitive s).trans (typeRef_reads bound (by omega) ht)
  · exact Reads.refl _

/-- The value that a declaration starts with reads its pieces. -/
lemma initial_reads {bound : Nat} {typed : Bool} {initial : Option Expression}
    (bounded : s.pending.length ≤ bound) (h : InitialRead bound typed s initial t) :
    Reads (past s) (past t) (initial.elim [] Expression.pieces) [] := by
  rcases h with ⟨arrow, value, hv, rfl⟩ | ⟨_, rfl, ⟨_, rfl⟩ | ⟨_, rfl⟩⟩
  · have peek : s.cursor.peekKind .insensitive = .arrow := by
      rw [peekKind_insensitive .toLineEnds (by rw [arrow]; rfl), arrow]
    have two := two_le_length_of_peek (s := s) (by rw [peek]; decide)
    have once := length_moved .insensitive s
    have twice := length_moved .insensitive (s.moved .insensitive)
    have upto := (onto_reads peek rfl).trans (Reads.moved .insensitive _)
    exact upto.trans (expression_reads bound (by omega) hv)
  · exact Reads.refl _
  · exact Reads.noted _ s true

/-- The rest of a declaration reads its type and its initial value. -/
lemma declaration_reads {name : Span} {bound : Nat} {r : Declaration}
    (colon : s.token.kind = .colon) (bounded : s.pending.length ≤ bound)
    (h : Runs (declaration name bound) s r t) :
    r.name = name ∧ Reads (before s) (past t)
      (r.written.elim [] TypeRef.pieces ++ r.initial.elim [] Expression.pieces) [r.id] := by
  obtain ⟨u, written, initial, e⟩ := run_declaration h
  have pos : 0 < s.pending.length := length_pos_of_kind (by rw [colon]; decide)
  have start := (Reads.skip (s := s) (by rw [colon]; rfl)).trans (Reads.numbered s true)
  have typed := start.trans (writtenType_reads bounded pos written)
  have length := typed.length_le
  have whole := typed.trans (initial_reads (by omega) initial)
  rw [e]
  exact ⟨rfl, whole.cast (by simp) (by simp)⟩

/-- A chain starts where it is read. -/
lemma span_of_chain {bound : Nat} {path : Chain} (h : Runs (chain bound) s (some path) t) :
    path.span = s.token.span := by
  simp only [chain, chain?, run_bind, run_span, run_pure] at h
  obtain ⟨_, _, ⟨rfl, rfl⟩, links, _, _, e, rfl⟩ := h
  obtain ⟨_, _, rfl⟩ := Option.map_eq_some_iff.mp e
  rfl

/-- A chain that is one name reads that name. -/
lemma singleName_reads {bound : Nat} {path : Chain} (single : path.isSingleName)
    (identifier : s.token.kind = .identifier) (h : Runs (chain bound) s (some path) t)
    (reads : Reads (before s) (past t) path.pieces []) :
    Reads (before s) (past t) [.leaf path.span] [] := by
  have start := span_of_chain h
  refine { reads with fromTokens := ?_, leaves := fun clean => ?_ }
  · rw [start]
    simp only [List.mem_singleton, forall_eq]
    exact fromTokens_token s
  · have leaves := reads.leaves clean
    obtain ⟨links, span, type⟩ := path
    match links, single with
    | [.name identifier'], _ =>
      have first := leafSpans_of_leaf (s := s) (by rw [identifier]; rfl)
      rw [rest_before, first] at leaves
      have same : s.token.span = identifier'.span := by
        simpa [Chain.pieces, linkPieces, Link.pieces] using (List.cons.inj leaves).1
      rw [rest_before, first, start, leavesOf_leaf, leavesOf_nil, List.cons_append, List.nil_append]
      simpa [Chain.pieces, linkPieces, Link.pieces, same] using leaves

/-- A statement that starts with a name reads its pieces. -/
lemma namedStatement?_reads (bound : Nat) : ReadsNamed (bound + 1) (namedStatement? bound) := by
  intro s t r bounded identifier h
  simp only [namedStatement?, run_bind] at h
  obtain ⟨target, u, hc, h⟩ := h
  have pos : 0 < s.pending.length := length_pos_of_kind (by rw [identifier]; decide)
  obtain ⟨head, dirty⟩ := chain_reads bound (by omega) (by omega) hc
  have length := head.length_le
  cases target with
  | none =>
    obtain ⟨rfl, rfl⟩ := run_pure.mp h
    exact .inr (.inr ⟨rfl, head, dirty rfl⟩)
  | some target =>
    simp only [run_bind, run_peek] at h
    obtain ⟨_, _, ⟨rfl, rfl⟩, h⟩ := h
    have once := length_moved .insensitive u
    -- A chain begins a declaration, an assignment or stands on its own, as the next token says.
    split at h
    · next colon =>
      simp only [run_bind, run_advance] at h
      obtain ⟨_, _, rfl, h⟩ := h
      have two := two_le_length_of_peek (s := u) (by rw [colon]; decide)
      have kind := (kind_moved .insensitive u).trans colon
      split at h
      · next single =>
        simp only [run_bind, run_pure] at h
        obtain ⟨declaration, _, hd, rfl, rfl⟩ := h
        have name := singleName_reads single identifier hc head
        obtain ⟨e, rest⟩ := declaration_reads kind (by omega) hd
        refine .inl ⟨declaration, rfl, ?_⟩
        rw [Declaration.pieces, e]
        exact ((name.trans (Reads.moved .insensitive u)).trans rest).cast (by simp) (by simp)
      · simp only [run_bind, run_report, run_pure] at h
        obtain ⟨_, _, rfl, rfl, rfl⟩ := h
        have noted := (head.trans (Reads.moved .insensitive u)).trans (Reads.noted
          .declaresNoVariable (u.moved .insensitive) false)
        exact .inr (.inr ⟨rfl, noted.thin (Reads.not_clean_noted _ _ _) (by simp),
          Reads.not_clean_noted _ _ _⟩)
    · next arrow =>
      simp only [run_bind, run_advance, run_span, run_pure] at h
      obtain ⟨_, _, rfl, _, _, ⟨rfl, rfl⟩, _, _, rfl, value, _, hv, rfl, rfl⟩ := h
      have two := two_le_length_of_peek (s := u) (by rw [arrow]; decide)
      have twice := length_moved .insensitive (u.moved .insensitive)
      have kind := (kind_moved .insensitive u).trans arrow
      have sign := (head.trans (Reads.moved .insensitive u)).trans
        (Reads.mark (by rw [kind]; rfl))
      have whole := (sign.trans (Reads.moved .insensitive _)).trans
        (expression_reads bound (by omega) hv)
      refine .inr (.inl ⟨_, rfl, whole.cast ?_ (.refl _)⟩)
      cases value
      simp [Expression.untyped, Expression.pieces, Expr.pieces]
    · split at h
      · obtain ⟨rfl, rfl⟩ := run_pure.mp h
        exact .inr (.inl ⟨_, rfl, head⟩)
      · simp only [run_bind, run_report, run_pure] at h
        obtain ⟨_, _, rfl, rfl, rfl⟩ := h
        have noted := head.trans (Reads.noted .solitaryChain u true)
        exact .inr (.inr ⟨rfl, noted.thin (Reads.not_clean_noted _ _ _) (by simp),
          Reads.not_clean_noted _ _ _⟩)

/-! ## Types -/

/-- Members are read in written order; the fields and methods of a type each keep theirs. -/
lemma members_reads {functionDef : Parser FunctionDef} {named? : Parser (Option Statement)} {n : Nat}
    (function : ReadsFunction n functionDef) (named : ReadsNamed n named?) {bound : Nat}
    {r : List Declaration × List FunctionDef} (enough : s.pending.length < n)
    (h : Runs (members functionDef named? bound) s r t) :
    ∃ bodies pieces, functionsWritten r.2 bodies ∧
      Interleaves (r.1.map Declaration.pieces) bodies pieces ∧
      Reads (before s) (before t) pieces.flatten (r.1.map Declaration.id ++ functionIds r.2) := by
  have stop : ∀ {s : State}, ∃ bodies pieces, functionsWritten [] bodies ∧
      Interleaves (([] : List Declaration).map Declaration.pieces) bodies pieces ∧
      Reads (before s) (before s) pieces.flatten
        (([] : List Declaration).map Declaration.id ++ functionIds []) := by
    intro s
    refine ⟨[], [], by rw [functionsWritten], .nil, ?_⟩
    rw [functionIds]
    exact Reads.refl _
  induction bound generalizing s r with
  | zero =>
    obtain ⟨rfl, rfl⟩ := run_pure.mp h
    exact stop
  | succ bound ih =>
    -- behind a member that cannot be kept, which has been reported, the others follow
    have dropped : ∀ {u : State} {r : List Declaration × List FunctionDef},
        Reads (before s) (past u) [] [] →
        Runs (members functionDef named? bound) (u.moved .insensitive) r t →
        ∃ bodies pieces, functionsWritten r.2 bodies ∧
          Interleaves (r.1.map Declaration.pieces) bodies pieces ∧
          Reads (before s) (before t) pieces.flatten
            (r.1.map Declaration.id ++ functionIds r.2) := by
      intro u r head h
      have upto := head.trans (Reads.moved .insensitive u)
      have length := upto.length_le
      obtain ⟨bodies, pieces, written, mixed, rest⟩ := ih (by omega) h
      exact ⟨bodies, pieces, written, mixed, upto.trans rest⟩
    simp only [members, run_bind, run_kind] at h
    obtain ⟨_, _, ⟨rfl, rfl⟩, h⟩ := h
    split at h
    · obtain ⟨rfl, rfl⟩ := run_pure.mp h
      exact stop
    · obtain ⟨rfl, rfl⟩ := run_pure.mp h
      exact stop
    · next identifier =>
      simp only [run_bind] at h
      obtain ⟨statement, u, hs, h⟩ := h
      rcases named enough identifier hs with
        ⟨field, rfl, head⟩ | ⟨expression, rfl, head⟩ | ⟨rfl, head, -⟩
      · simp only [run_bind, run_advance, run_pure] at h
        obtain ⟨_, _, rfl, rest, _, hr, rfl, rfl⟩ := h
        have upto := head.trans (Reads.moved .insensitive u)
        have length := upto.length_le
        obtain ⟨bodies, pieces, written, mixed, tail⟩ := ih (by omega) hr
        refine ⟨bodies, field.pieces :: pieces, written, .left mixed, ?_⟩
        exact (upto.trans tail).cast (by simp) (by simp)
      · simp only [Option.isSome_some, if_true, run_bind, run_report, run_advance] at h
        obtain ⟨_, _, rfl, _, _, rfl, h⟩ := h
        have noted := head.trans (Reads.noted .memberNotVariable u true)
        exact dropped (noted.thin (Reads.not_clean_noted _ _ _) (by simp)) h
      · simp only [Option.isSome_none, Bool.false_eq_true, if_false, run_bind, run_advance] at h
        obtain ⟨_, _, rfl, h⟩ := h
        exact dropped head h
    · next keyword =>
      simp only [run_bind, run_advance, run_pure] at h
      obtain ⟨method, u, hm, _, _, rfl, rest, _, hr, rfl, rfl⟩ := h
      obtain ⟨body, first, head⟩ := function enough keyword hm
      have upto := head.trans (Reads.moved .insensitive u)
      have length := upto.length_le
      obtain ⟨bodies, pieces, written, mixed, tail⟩ := ih (by omega) hr
      refine ⟨body :: bodies, body :: pieces, ?_, .right mixed, ?_⟩
      · rw [functionsWritten]
        exact ⟨body, bodies, first, written, rfl⟩
      · rw [functionIds]
        refine (upto.trans tail).cast (by simp) ?_
        rw [List.append_nil, ← List.append_assoc, ← List.append_assoc]
        exact List.perm_append_comm.append_right _
    · simp only [run_bind, run_report, run_advance] at h
      obtain ⟨_, _, rfl, _, _, rfl, h⟩ := h
      have noted := Reads.noted .memberNotDefinition s false
      exact dropped (noted.thin (Reads.not_clean_noted _ _ _) (by simp)) h

/-- The head of a type is read up to where its members begin. -/
lemma typeHead_reads {functionDef : Parser FunctionDef} {bound : Nat} {r : TypeDef}
    (keyword : s.token.kind = .kwType) (bounded : s.pending.length ≤ bound)
    (h : Runs (typeDef functionDef bound) s r t) :
    ∃ u v, u.pending.length ≤ bound ∧
      Runs (members functionDef (namedStatement? bound) bound) u (r.fields, r.methods) v ∧
      Runs (expect .rightBrace (.typeUnclosed r.name.content)) v () t ∧ r.keyword = s.token.span ∧
      Reads (before s) (before u)
        (.mark r.keyword :: .leaf r.name :: typeParameterPieces r.typeParameters) [r.id] := by
  simp only [typeDef, run_bind, run_span, run_freshId, run_advance, run_pure] at h
  obtain ⟨_, _, ⟨rfl, rfl⟩, _, _, ⟨rfl, rfl⟩, _, _, rfl, _, u, hn, _, _, ⟨rfl, rfl⟩, _, _, rfl,
    names, v, hp, _, w, ho, _, _, rfl, members, x, hm, _, _, hc, rfl, rfl⟩ := h
  have start := ((Reads.numbered s false).trans
    (Reads.mark (s := s.numbered) (by
      show s.token.kind.isMark
      rw [keyword]
      rfl))).trans (Reads.moved .insensitive s.numbered)
  have named := (start.trans (Reads.expected_leaf hn rfl)).trans (Reads.moved .insensitive u)
  have length := named.length_le
  have typed := named.trans (optionalTypeParameters_reads (by omega) hp)
  have opened := (typed.trans (Reads.expected ho rfl)).trans (Reads.moved .insensitive w)
  have length' := opened.length_le
  exact ⟨_, x, by omega, hm, hc, rfl, opened.cast (by simp [State.numbered]) (by simp)⟩

/-- A type reads its head and its members. -/
lemma typeDef_reads {functionDef : Parser FunctionDef} {bound : Nat}
    (reads : ReadsFunction (bound + 1) functionDef) {r : TypeDef} (keyword : s.token.kind = .kwType)
    (bounded : s.pending.length ≤ bound) (h : Runs (typeDef functionDef bound) s r t) :
    ∃ pieces, r.Written pieces ∧ Reads (before s) (past t) pieces r.ids := by
  obtain ⟨u, v, length, run, closed, -, head⟩ := typeHead_reads keyword bounded h
  obtain ⟨bodies, pieces, written, mixed, inner⟩ :=
    members_reads reads (namedStatement?_reads bound) (by omega) run
  have whole := (head.trans inner).trans (Reads.expected closed rfl)
  refine ⟨_, ?_, whole.cast rfl ?_⟩
  · cases r
    rw [TypeDef.Written]
    exact ⟨bodies, pieces, written, mixed, by simp⟩
  · cases r
    rw [TypeDef.ids]
    simp

/-! ## Control -/

/-- A return reads its value, which stands on the same line. -/
lemma returning_reads {bound : Nat} {r : Statement} (keyword : s.token.kind = .kwReturn)
    (bounded : s.pending.length ≤ bound) (h : Runs (returning bound) s r t) :
    ∃ pieces, r.Written pieces ∧ Reads (before s) (past t) pieces r.ids := by
  simp only [returning, run_bind, run_span, run_peekWith] at h
  obtain ⟨_, _, ⟨rfl, rfl⟩, _, _, ⟨rfl, rfl⟩, h⟩ := h
  have head := Reads.mark (s := s) (by rw [keyword]; rfl)
  split at h
  · obtain ⟨rfl, rfl⟩ := run_pure.mp h
    refine ⟨_, by rw [Statement.Written], ?_⟩
    rw [Statement.ids]
    exact head
  · simp only [run_bind, run_advance, run_pure] at h
    obtain ⟨_, _, rfl, value, _, hv, rfl, rfl⟩ := h
    have pos : 0 < s.pending.length := length_pos_of_kind (by rw [keyword]; decide)
    have shorter := length_moved .insensitive s
    have whole := (head.trans (Reads.moved .insensitive s)).trans
      (expression_reads bound (by omega) hv)
    refine ⟨_, by rw [Statement.Written], ?_⟩
    rw [Statement.ids]
    exact whole

/-- The condition of a loop is read up to where its body begins. -/
lemma whileHead_reads {block : SyntaxProblem → Parser Block} {bound : Nat} {r : Statement}
    (keyword : s.token.kind = .kwWhile) (bounded : s.pending.length ≤ bound)
    (h : Runs (whileLoop block bound) s r t) :
    ∃ condition body u, r = .whileLoop s.token.span condition body ∧ u.pending.length < bound ∧
      Runs (block .whileWithoutBody) u body t ∧
      Reads (before s) (before u) (.mark s.token.span :: condition.pieces) [] := by
  simp only [whileLoop, run_bind, run_span, run_advance, run_pure] at h
  obtain ⟨_, _, ⟨rfl, rfl⟩, _, _, rfl, condition, u, hc, _, _, rfl, body, _, hb, rfl, rfl⟩ := h
  have pos : 0 < s.pending.length := length_pos_of_kind (by rw [keyword]; decide)
  have shorter := length_moved .insensitive s
  have head := (Reads.mark (s := s) (by rw [keyword]; rfl)).trans (Reads.moved .insensitive s)
  have guard := expression_reads bound (by omega) hc
  have length := guard.length_le
  have next := length_moved .insensitive u
  have whole := (head.trans guard).trans (Reads.moved .insensitive u)
  exact ⟨condition, body, _, rfl, by omega, hb, whole.cast (by simp) (.refl _)⟩

/-- A loop reads its condition and its body. -/
lemma whileLoop_reads {block : SyntaxProblem → Parser Block} {bound : Nat}
    (reads : ReadsBlock bound block) {r : Statement} (keyword : s.token.kind = .kwWhile)
    (bounded : s.pending.length ≤ bound) (h : Runs (whileLoop block bound) s r t) :
    ∃ pieces, r.Written pieces ∧ Reads (before s) (past t) pieces r.ids := by
  obtain ⟨condition, body, u, rfl, length, run, head⟩ := whileHead_reads keyword bounded h
  obtain ⟨pieces, written, inner⟩ := reads length run
  refine ⟨_, ?_, (head.trans inner).cast rfl (.refl _)⟩
  rw [Statement.Written]
  exact ⟨pieces, written, by simp⟩

/-- With at most `n` tokens left, what is done when a condition fails is read in written order. -/
def ReadsOtherwise (n : Nat) (otherwise : Parser Otherwise) : Prop :=
  ∀ ⦃s t : State⦄ ⦃r : Otherwise⦄, s.pending.length ≤ n → Runs otherwise s r t →
    ∃ pieces, r.Written pieces ∧ Reads (past s) (past t) pieces r.ids

/-- The condition of a conditional is read up to where its body begins. -/
lemma conditionalHead_reads {block : SyntaxProblem → Parser Block} {otherwise : Parser Otherwise} {bound : Nat}
    {r : Conditional} (keyword : s.token.kind = .kwIf) (bounded : s.pending.length ≤ bound)
    (h : Runs (conditional block bound otherwise) s r t) :
    ∃ u v, u.pending.length < bound ∧ Runs (block .ifWithoutBody) u r.body v ∧ Runs otherwise v r.otherwise t ∧
      r.keyword = s.token.span ∧ Reads (before s) (before u) (.mark r.keyword :: r.condition.pieces) [] := by
  simp only [conditional, run_bind, run_span, run_advance, run_pure] at h
  obtain ⟨_, _, ⟨rfl, rfl⟩, _, _, rfl, condition, u, hc, _, _, rfl, body, v, hb, rest, _, ho, rfl,
    rfl⟩ := h
  have pos : 0 < s.pending.length := length_pos_of_kind (by rw [keyword]; decide)
  have shorter := length_moved .insensitive s
  have head := (Reads.mark (s := s) (by rw [keyword]; rfl)).trans (Reads.moved .insensitive s)
  have guard := expression_reads bound (by omega) hc
  have length := guard.length_le
  have next := length_moved .insensitive u
  have whole := (head.trans guard).trans (Reads.moved .insensitive u)
  exact ⟨_, v, by omega, hb, ho, rfl, whole.cast (by simp) (.refl _)⟩

/-- A conditional reads its condition, its body and what follows. -/
lemma conditional_reads {block : SyntaxProblem → Parser Block} {otherwise : Parser Otherwise}
    {bound : Nat} (reads : ReadsBlock bound block) (others : ReadsOtherwise bound otherwise)
    {r : Conditional} (keyword : s.token.kind = .kwIf) (bounded : s.pending.length ≤ bound)
    (h : Runs (conditional block bound otherwise) s r t) :
    ∃ pieces, r.Written pieces ∧ Reads (before s) (past t) pieces r.ids := by
  obtain ⟨u, v, length, hb, ho, -, head⟩ := conditionalHead_reads keyword bounded h
  obtain ⟨pieces, written, inner⟩ := reads length hb
  have left := inner.length_le
  obtain ⟨more, hm, tail⟩ := others (by omega) ho
  refine ⟨_, ?_, ((head.trans inner).trans tail).cast rfl ?_⟩
  · cases r
    rw [Conditional.Written]
    exact ⟨pieces, more, written, hm, by simp⟩
  · cases r
    rw [Conditional.ids]
    simp

/-- What is done when a condition fails is read from behind the block of the condition. -/
lemma otherwise_reads {block : SyntaxProblem → Parser Block} {bound : Nat}
    (reads : ReadsBlock bound block) (rounds : Nat) :
    ReadsOtherwise bound (otherwise block bound rounds) := by
  have none : ∀ {s : State}, ∃ pieces, Otherwise.nothing.Written pieces ∧
      Reads (past s) (past s) pieces Otherwise.nothing.ids := by
    intro s
    refine ⟨[], by rw [Otherwise.Written], ?_⟩
    rw [Otherwise.ids]
    exact Reads.refl _
  induction rounds with
  | zero =>
    intro s t r _ h
    obtain ⟨rfl, rfl⟩ := run_pure.mp h
    exact none
  | succ rounds ih =>
    intro s t r bounded h
    simp only [otherwise, run_bind, run_peek] at h
    obtain ⟨_, _, ⟨rfl, rfl⟩, h⟩ := h
    split at h
    · obtain ⟨rfl, rfl⟩ := run_pure.mp h
      exact none
    · next keyword =>
      rw [ne_eq, Decidable.not_not] at keyword
      simp only [run_bind, run_advance, run_kind] at h
      obtain ⟨_, _, rfl, _, _, rfl, _, _, ⟨rfl, rfl⟩, h⟩ := h
      have two := two_le_length_of_peek (s := s) (by rw [keyword]; decide)
      have once := length_moved .insensitive s
      have twice := length_moved .insensitive (s.moved .insensitive)
      have upto := (onto_reads keyword rfl).trans (Reads.moved .insensitive _)
      split at h
      · next next =>
        simp only [run_bind, run_pure] at h
        obtain ⟨conditional, _, hc, rfl, rfl⟩ := h
        obtain ⟨pieces, written, rest⟩ := conditional_reads reads ih next (by omega) hc
        refine ⟨pieces, by rwa [Otherwise.Written], ?_⟩
        rw [Otherwise.ids]
        exact upto.trans rest
      · simp only [run_bind, run_pure] at h
        obtain ⟨block, _, hb, rfl, rfl⟩ := h
        obtain ⟨pieces, written, rest⟩ := reads (by omega) hb
        refine ⟨pieces, by rwa [Otherwise.Written], ?_⟩
        rw [Otherwise.ids]
        exact upto.trans rest
      · simp only [run_bind, run_report, run_pure] at h
        obtain ⟨_, _, rfl, rfl, rfl⟩ := h
        refine ⟨[], by rw [Otherwise.Written], ?_⟩
        rw [Otherwise.ids]
        exact (upto.trans (Reads.noted .invalidElse _ false)).thin
          (Reads.not_clean_noted _ _ _) (by simp)

/-- A chain behind a keyword is read, or what stands there is reported. -/
lemma chainBehind?_reads {absent invalid : SyntaxProblem} {bound : Nat} {r : Option Chain}
    (pos : 0 < s.pending.length) (bounded : s.pending.length ≤ bound)
    (h : Runs (chainBehind? absent invalid bound) s r t) :
    Reads (past s) (past t) (r.elim [] Chain.pieces) [] ∧ (r = none → ¬ t.Clean) := by
  simp only [chainBehind?, run_bind, run_peekWith] at h
  obtain ⟨_, _, ⟨rfl, rfl⟩, h⟩ := h
  split at h
  · simp only [run_bind, run_report, run_pure] at h
    obtain ⟨_, _, rfl, rfl, rfl⟩ := h
    exact ⟨Reads.noted _ s true, fun _ => Reads.not_clean_noted _ _ _⟩
  · simp only [run_bind, run_advance] at h
    obtain ⟨_, _, rfl, target, u, hc, h⟩ := h
    have shorter := length_moved .insensitive s
    obtain ⟨inner, -⟩ := chain_reads bound (by omega) (by omega) hc
    have upto := (Reads.moved .insensitive s).trans inner
    cases target with
    | none =>
      simp only [run_bind, run_report, run_pure] at h
      obtain ⟨_, _, rfl, rfl, rfl⟩ := h
      exact ⟨upto.trans (Reads.noted _ u true), fun _ => Reads.not_clean_noted _ _ _⟩
    | some target =>
      simp only at h
      split at h
      · obtain ⟨rfl, rfl⟩ := run_pure.mp h
        exact ⟨upto, nofun⟩
      · simp only [run_bind, run_report, run_pure] at h
        obtain ⟨_, _, rfl, rfl, rfl⟩ := h
        exact ⟨(upto.trans (Reads.noted invalid u true)).cast (by simp) (.refl _), nofun⟩

/-- An import reads the chain behind its keyword. -/
lemma importing?_reads {bound : Nat} {r : Option Statement} (keyword : s.token.kind = .kwImport)
    (bounded : s.pending.length ≤ bound) (h : Runs (importing? bound) s r t) :
    (∃ statement pieces, r = some statement ∧ statement.Written pieces ∧
      Reads (before s) (past t) pieces statement.ids) ∨
    (r = none ∧ Reads (before s) (past t) [] [] ∧ ¬ t.Clean) := by
  simp only [importing?, run_bind, run_span, run_pure] at h
  obtain ⟨_, _, ⟨rfl, rfl⟩, target, _, hc, rfl, rfl⟩ := h
  have pos : 0 < s.pending.length := length_pos_of_kind (by rw [keyword]; decide)
  obtain ⟨inner, dirty⟩ := chainBehind?_reads pos bounded hc
  have whole := (Reads.mark (s := s) (by rw [keyword]; rfl)).trans inner
  cases target with
  | none => exact .inr ⟨rfl, whole.thin (dirty rfl) (by simp), dirty rfl⟩
  | some target =>
    refine .inl ⟨_, _, rfl, by rw [Statement.Written], ?_⟩
    rw [Statement.ids]
    exact whole

/-- A path reads the chain behind its keyword. -/
lemma path?_reads {bound : Nat} {r : Option Statement} (keyword : s.token.kind = .kwPath)
    (bounded : s.pending.length ≤ bound) (h : Runs (path? bound) s r t) :
    (∃ statement pieces, r = some statement ∧ statement.Written pieces ∧
      Reads (before s) (past t) pieces statement.ids) ∨
    (r = none ∧ Reads (before s) (past t) [] [] ∧ ¬ t.Clean) := by
  simp only [path?, run_bind, run_span, run_pure] at h
  obtain ⟨_, _, ⟨rfl, rfl⟩, target, _, hc, rfl, rfl⟩ := h
  have pos : 0 < s.pending.length := length_pos_of_kind (by rw [keyword]; decide)
  obtain ⟨inner, dirty⟩ := chainBehind?_reads pos bounded hc
  have whole := (Reads.mark (s := s) (by rw [keyword]; rfl)).trans inner
  cases target with
  | none => exact .inr ⟨rfl, whole.thin (dirty rfl) (by simp), dirty rfl⟩
  | some target =>
    refine .inl ⟨_, _, rfl, by rw [Statement.Written], ?_⟩
    rw [Statement.ids]
    exact whole

/-! ## Programs -/

/-- A statement is read in written order or reported. -/
lemma statement?_reads (bound : Nat) : ReadsStatement bound (statement? bound) := by
  induction bound with
  | zero => exact fun _ _ _ bounded => absurd bounded (Nat.not_lt_zero _)
  | succ bound ih =>
    intro s t r enough h
    have block := block_reads ih
    have bounded : s.pending.length ≤ bound := by omega
    -- Where no statement can begin, nothing is kept and a problem is reported.
    have refused : ∀ {problem : SyntaxProblem} {r : Option Statement},
        Runs (do report problem; pure none) s r t →
        r = none ∧ Reads (before s) (past t) [] [] ∧ ¬ t.Clean := by
      intro problem r h
      simp only [run_bind, run_report, run_pure] at h
      obtain ⟨_, _, rfl, rfl, rfl⟩ := h
      have noted := Reads.noted problem s false
      exact ⟨rfl, noted.thin (Reads.not_clean_noted _ _ _) (by simp),
        Reads.not_clean_noted _ _ _⟩
    have kept : ∀ {statement : Statement} {pieces : List Piece}, statement.Written pieces →
        Reads (before s) (past t) pieces statement.ids →
        ∃ kept pieces, some statement = some kept ∧ kept.Written pieces ∧
          Reads (before s) (past t) pieces kept.ids :=
      fun written reads => ⟨_, _, rfl, written, reads⟩
    simp only [statement?, run_bind, run_kind] at h
    obtain ⟨_, _, ⟨rfl, rfl⟩, h⟩ := h
    split at h
    · next keyword =>
      simp only [run_bind, run_pure] at h
      obtain ⟨definition, _, hd, rfl, rfl⟩ := h
      obtain ⟨pieces, written, reads⟩ :=
        typeDef_reads (functionDef_reads block) keyword bounded hd
      refine .inl (kept (by rwa [Statement.Written]) ?_)
      rwa [Statement.ids]
    · next keyword =>
      simp only [run_bind, run_pure] at h
      obtain ⟨definition, _, hd, rfl, rfl⟩ := h
      obtain ⟨pieces, written, reads⟩ := functionDef_reads block enough keyword hd
      refine .inl (kept (by rwa [Statement.Written]) ?_)
      rwa [Statement.ids]
    · next keyword =>
      simp only [run_bind, run_pure] at h
      obtain ⟨statement, _, hs, rfl, rfl⟩ := h
      obtain ⟨pieces, written, reads⟩ := returning_reads keyword bounded hs
      exact .inl (kept written reads)
    · next keyword =>
      simp only [run_bind, run_span, run_pure] at h
      obtain ⟨_, _, ⟨rfl, rfl⟩, rfl, rfl⟩ := h
      refine .inl (kept (by rw [Statement.Written]) ?_)
      rw [Statement.ids]
      exact Reads.mark (by rw [keyword]; rfl)
    · next keyword =>
      simp only [run_bind, run_span, run_pure] at h
      obtain ⟨_, _, ⟨rfl, rfl⟩, rfl, rfl⟩ := h
      refine .inl (kept (by rw [Statement.Written]) ?_)
      rw [Statement.ids]
      exact Reads.mark (by rw [keyword]; rfl)
    · next keyword =>
      simp only [run_bind, run_pure] at h
      obtain ⟨statement, _, hs, rfl, rfl⟩ := h
      obtain ⟨pieces, written, reads⟩ := whileLoop_reads block keyword bounded hs
      exact .inl (kept written reads)
    · next keyword =>
      simp only [run_bind, run_pure] at h
      obtain ⟨conditional, _, hc, rfl, rfl⟩ := h
      obtain ⟨pieces, written, reads⟩ :=
        conditional_reads block (otherwise_reads block bound) keyword bounded hc
      refine .inl (kept (by rwa [Statement.Written]) ?_)
      rwa [Statement.ids]
    · next keyword => exact importing?_reads keyword bounded h
    · next keyword => exact path?_reads keyword bounded h
    · next identifier =>
      rcases namedStatement?_reads bound enough identifier h with
        ⟨declaration, rfl, reads⟩ | ⟨expression, rfl, reads⟩ | refused
      · refine .inl (kept (by rw [Statement.Written]) ?_)
        rwa [Statement.ids]
      · refine .inl (kept (by rw [Statement.Written]) ?_)
        rwa [Statement.ids]
      · exact .inr refused
    · exact .inr (refused h)
    · exact .inr (refused h)

/-- A program is read up to the token that ends it. -/
lemma program_reads {bound : Nat} {r : Block} (bounded : s.pending.length < bound)
    (h : Runs (program bound) s r t) :
    ∃ pieces, r.Written pieces ∧ Reads (before s) (before t) pieces r.ids ∧
      (t.Clean → t.token.kind = .endOfFile) := by
  simp only [program, run_bind, run_freshId, run_span, run_pure] at h
  obtain ⟨_, _, ⟨rfl, rfl⟩, _, _, ⟨rfl, rfl⟩, inner, _, hs, rfl, rfl⟩ := h
  have start := (Reads.numbered s false).trans (Reads.here _ false)
  obtain ⟨pieces, written, body, ends⟩ :=
    statements_reads (s := s.numbered) (statement?_reads bound) bounded bounded hs
  refine ⟨.mark s.token.span :: pieces, ?_, ?_, fun clean => ?_⟩
  · rw [Block.Written]
    exact ⟨pieces, written, rfl⟩
  · rw [Block.ids]
    exact (start.trans body).cast (by simp [State.numbered]) (by simp)
  · simpa [endsBlock] using ends clean

end ArrowScript.Grammar
