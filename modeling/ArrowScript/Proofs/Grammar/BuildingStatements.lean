import ArrowScript.Proofs.Grammar.Building

/-!
# Building proper programs

Every routine for statements and definitions builds what is proper if it reports nothing, and reports at least as
often as it leaves a gap. What it drops, because no statement or member can be made of it, has been reported. So a
program that is parsed without reports is proper, and no program has more gaps than reports (`parse_proper`).
-/

namespace ArrowScript.Grammar

variable {s t : State} {l : List Token} {n : Nat}

/-- With fewer than `n` tokens left, proper blocks are built. -/
def BuildsBlock (l : List Token) (n : Nat) (block : SyntaxProblem → Parser Block) : Prop :=
  ∀ problem, BuildsAs l n (block problem) Block.gaps (Block.Proper l)

/-- With fewer than `n` tokens left, and from `function` on, proper functions are built. -/
def BuildsFunction (l : List Token) (n : Nat) (functionDef : Parser FunctionDef) : Prop :=
  ∀ ⦃s t : State⦄ ⦃r : FunctionDef⦄, s.pending.length < n → s.token.kind = .kwFunction →
    Runs functionDef s r t → Builds l s t r.gaps (r.Proper l)

/-- What is built of a statement that may be dropped; it is dropped only with a problem noted. -/
abbrev BuildsStatement (l : List Token) (s t : State) (r : Option Statement) : Prop :=
  Builds l s t (r.elim 1 Statement.gaps) (r.elim False (Statement.Proper l))

/-- With fewer than `n` tokens left, proper statements are built. -/
abbrev BuildsStatements (l : List Token) (n : Nat) (statement? : Parser (Option Statement)) : Prop :=
  ∀ ⦃s t : State⦄ ⦃r : Option Statement⦄, s.pending.length < n → Runs statement? s r t →
    BuildsStatement l s t r

/-- A statement that is kept is built. -/
lemma buildsStatement_some {statement : Statement} : BuildsStatement l s t (some statement) ↔
    Builds l s t statement.gaps (statement.Proper l) :=
  Iff.rfl

/-! ## Blocks -/

/-- Stepping off a statement changes nothing that was built. -/
lemma finishStatement_builds {u : Unit} (h : Runs finishStatement s u t) : Builds l s t 0 True := by
  simp only [finishStatement, run_bind, run_discard, run_advanceWith, run_kind] at h
  obtain ⟨_, _, ⟨_, _, rfl⟩, _, _, ⟨rfl, rfl⟩, h⟩ := h
  have first := Builds.moved (l := l) .toLineEnds s
  split at h
  case h_1 =>
    obtain rfl := run_advance.mp h
    exact first.followed (.moved .insensitive _)
  case h_2 | h_3 =>
    obtain ⟨_, rfl⟩ := run_pure.mp h
    exact first
  case h_4 =>
    obtain rfl := run_report.mp h
    exact first.noting _ _ (Nat.zero_le _)

/-- The statements of a block are proper. -/
lemma statements_builds {statement? : Parser (Option Statement)} {block : BlockKind}
    (builds : BuildsStatements l n statement?) {bound : Nat} {r : List Statement}
    (enough : s.pending.length < n) (bounded : s.pending.length < bound)
    (h : Runs (statements statement? block bound) s r t) :
    Builds l s t (statementGaps r) (statementsProper l r) := by
  induction bound generalizing s r with
  | zero => omega
  | succ bound ih =>
    simp only [statements, run_bind, run_kind] at h
    obtain ⟨_, _, ⟨rfl, rfl⟩, h⟩ := h
    split at h
    · obtain ⟨rfl, rfl⟩ := run_pure.mp h
      rw [statementGaps, statementsProper]
      exact .refl s
    · next going =>
      have pos : 0 < s.pending.length := length_pos_of_kind fun e => by
        simp [endsBlock, e] at going
      simp only [run_bind] at h
      obtain ⟨first, u, hf, h⟩ := h
      have head := builds enough hf
      have length := head.length_le
      cases first with
      | some statement =>
        simp only [run_bind, run_pure] at h
        obtain ⟨_, v, hv, rest, _, hr, rfl, rfl⟩ := h
        obtain ⟨-, shorter⟩ := finishStatement_reads hv
        rw [statementGaps, statementsProper]
        exact (head.followed (finishStatement_builds hv)).trans (ih (by omega) (by omega) hr)
      | none =>
        simp only [run_bind, run_tryAdvance] at h
        obtain ⟨_, _, ⟨rfl, rfl⟩, h⟩ := h
        have next := head.followed (.moved .insensitive u)
        have shorter := length_moved .insensitive u
        split at h
        · exact (ih (by omega) (by omega) h).after next
        · obtain ⟨rfl, rfl⟩ := run_pure.mp h
          rw [statementGaps]
          exact next.mono (Nat.zero_le _) False.elim

/-- A block is proper. -/
lemma block_builds {statement? : Parser (Option Statement)} (builds : BuildsStatements l n statement?) :
    BuildsBlock l n (block statement? n) := by
  intro problem s t r enough h
  simp only [block, run_bind, run_freshId, run_span, run_advance, run_pure] at h
  obtain ⟨_, _, ⟨rfl, rfl⟩, _, _, ⟨rfl, rfl⟩, _, u, ho, _, _, rfl, inner, v, hs, _, _, hc, rfl, rfl⟩ := h
  have opened := (Builds.numbered (l := l) s).followed (.expected ho)
  have length := opened.length_le
  have shorter := length_moved .insensitive u
  have body := statements_builds builds (by omega) (by omega) hs
  rw [Block.gaps, Block.Proper]
  exact (body.after (opened.followed (.moved .insensitive u))).followed (.expected hc)

/-! ## Definitions -/

/-- A parameter is proper. -/
lemma parameter_builds {bound : Nat} :
    BuildsAs l bound (parameter bound) (fun _ => 0) (Parameter.Proper l) := by
  intro s t r bounded h
  simp only [parameter, run_bind, run_span, run_advance, run_freshId, run_pure] at h
  obtain ⟨_, u, hn, _, _, ⟨rfl, rfl⟩, _, _, rfl, _, v, hc, _, _, rfl, written, w, ht, _, _, ⟨rfl, rfl⟩, rfl,
    rfl⟩ := h
  have named := (Builds.named (l := l) hn).followed (.moved .insensitive u)
  have upto := (named.followed (.expected hc)).followed (.moved .insensitive v)
  have length := upto.length_le
  have type := typeRef_builds (l := l) bound (by omega) ht
  exact ((upto.trans type).followed (.numbered w)).imp fun both => ⟨both.1, both.2⟩

/-- Parameters are proper. -/
lemma parameters_builds {bound : Nat} {r : List Parameter} (bounded : s.pending.length < bound)
    (h : Runs (parameters bound) s r t) : Builds l s t 0 (∀ parameter ∈ r, parameter.Proper l) := by
  simp only [parameters, run_bind, run_standsOn] at h
  obtain ⟨_, _, ⟨rfl, rfl⟩, h⟩ := h
  split at h
  · obtain ⟨rfl, rfl⟩ := run_pure.mp h
    exact (Builds.refl s).imp fun _ => List.forall_mem_nil _
  · exact (commaList_builds parameter_builds bounded bounded h).imp And.right

/-- A type parameter is a name. -/
lemma typeParameter_builds : BuildsAs l n typeParameter (fun _ => 0) (IsName l) := by
  intro s t r _ h
  simp only [typeParameter, run_bind, run_span] at h
  obtain ⟨_, _, he, rfl, rfl⟩ := h
  exact .named he

/-- The type parameters of a definition are proper. -/
lemma optionalTypeParameters_builds {bound : Nat} {r : Option (List Span)} (bounded : s.pending.length ≤ bound)
    (h : Runs (optionalTypeParameters bound) s r t) : Builds l s t 0 (typeParametersProper l r) := by
  simp only [optionalTypeParameters, run_bind, run_standsOn] at h
  obtain ⟨_, _, ⟨rfl, rfl⟩, h⟩ := h
  split at h
  · next opening =>
    simp only [run_bind, run_advance, run_pure] at h
    obtain ⟨names, u, hn, _, _, rfl, rfl, rfl⟩ := h
    have list := inAngles_builds (l := l) typeParameter_builds (of_decide_eq_true opening) bounded hn
    exact (list.followed (.moved .insensitive u)).imp fun proper => by simpa [typeParametersProper] using proper
  · obtain ⟨rfl, rfl⟩ := run_pure.mp h
    exact (Builds.refl s).imp fun _ _ mem => absurd mem (Option.not_mem_none _)

/-- The type that a function returns is proper. -/
lemma optionalReturn_builds {bound : Nat} {r : Option TypeRef} (bounded : s.pending.length < bound)
    (h : Runs (optionalReturn bound) s r t) : Builds l s t 0 (∀ written ∈ r, written.Proper l) := by
  simp only [optionalReturn, run_bind, run_standsOn] at h
  obtain ⟨_, _, ⟨rfl, rfl⟩, h⟩ := h
  split at h
  · simp only [run_bind, run_advance, run_pure] at h
    obtain ⟨_, _, rfl, written, u, ht, _, _, rfl, rfl, rfl⟩ := h
    have upto := Builds.moved (l := l) .insensitive s
    have length := upto.length_le
    have type := (typeRef_builds bound (by omega) ht).after upto
    exact (type.followed (.moved .insensitive u)).imp fun proper => by simpa using proper
  · obtain ⟨rfl, rfl⟩ := run_pure.mp h
    exact (Builds.refl s).imp fun _ _ mem => absurd mem (Option.not_mem_none _)

/-- A function is proper. -/
lemma functionDef_builds {block : SyntaxProblem → Parser Block} {bound : Nat}
    (builds : BuildsBlock l bound block) : BuildsFunction l (bound + 1) (functionDef block bound) := by
  intro s t r enough keyword h
  simp only [functionDef, run_bind, run_span, run_freshId, run_advance, run_pure] at h
  obtain ⟨_, _, ⟨rfl, rfl⟩, _, _, ⟨rfl, rfl⟩, _, _, rfl, _, u, hn, _, _, ⟨rfl, rfl⟩, _, _, rfl,
    names, v, hp, _, w, ho, _, _, rfl, parameters, x, hl, _, _, rfl, returns, y, hr, body, z, hb,
    rfl, rfl⟩ := h
  have pos : 0 < s.pending.length := length_pos_of_kind (by rw [keyword]; decide)
  have shorter : (s.numbered.moved .insensitive).pending.length ≤ s.pending.length - 1 :=
    length_moved .insensitive s.numbered
  have start := (Builds.numbered (l := l) s).followed (.moved .insensitive s.numbered)
  have named := ((Builds.named hn).after start).followed (.moved .insensitive u)
  have length := ((Builds.named (l := l) hn).followed (.moved .insensitive u)).length_le
  have typed := optionalTypeParameters_builds (l := l) (by omega) hp
  have opened := (typed.followed (.expected ho)).followed (.moved .insensitive w)
  have length' := opened.length_le
  have list := (parameters_builds (l := l) (by omega) hl).followed (.moved .insensitive x)
  have length'' := list.length_le
  have result := optionalReturn_builds (l := l) (by omega) hr
  have left := result.length_le
  have inner := builds .functionWithoutBody (by omega) hb
  rw [FunctionDef.gaps, FunctionDef.Proper]
  refine ((((named.trans opened).trans list).trans result).trans inner).mono (by simp) ?_
  rintro ⟨⟨⟨⟨name, typeParameters⟩, parameters⟩, returns⟩, body⟩
  exact ⟨name, typeParameters, parameters, returns, body⟩

/-! ## Statements that start with a name -/

/-- The type that a declaration is written with is proper. -/
lemma writtenType_builds {bound : Nat} {written : Option TypeRef} (bounded : s.pending.length ≤ bound)
    (pos : 0 < s.pending.length) (h : WrittenTypeRead bound s written t) :
    Builds l s t 0 (∀ type ∈ written, type.Proper l) := by
  rcases h with ⟨_, type, ht, rfl⟩ | ⟨_, rfl, rfl⟩
  · have shorter := length_moved .insensitive s
    have proper := (typeRef_builds (l := l) bound (by omega) ht).after (.moved .insensitive s)
    exact proper.imp fun proper => by simpa using proper
  · exact (Builds.refl s).imp fun _ => nofun

/-- The value that a declaration starts with is proper; there is one if there is no type. -/
lemma initial_builds {bound : Nat} {typed : Bool} {initial : Option Expression} (bounded : s.pending.length ≤ bound)
    (h : InitialRead bound typed s initial t) :
    Builds l s t (initial.elim 0 Expression.gaps)
      ((typed ∨ initial.isSome) ∧ ∀ value ∈ initial, value.Proper l) := by
  rcases h with ⟨arrow, value, hv, rfl⟩ | ⟨_, rfl, ⟨typed, rfl⟩ | ⟨_, rfl⟩⟩
  · have peek : s.cursor.peekKind .insensitive = .arrow := by
      rw [peekKind_insensitive .toLineEnds (by rw [arrow]; rfl), arrow]
    have two := two_le_length_of_peek (s := s) (by rw [peek]; decide)
    have once := length_moved .insensitive s
    have twice := length_moved .insensitive (s.moved .insensitive)
    have upto := (Builds.moved (l := l) .insensitive s).followed (.moved .insensitive _)
    exact ((expression_builds bound (by omega) hv).after upto).imp fun proper => by simpa using proper
  · exact (Builds.refl s).imp fun _ => ⟨.inl typed, nofun⟩
  · exact (Builds.noted ..).mono (Nat.zero_le 1) False.elim

/-- The rest of a declaration is proper behind its name. -/
lemma declaration_builds {name : Span} {bound : Nat} {r : Declaration} (colon : s.token.kind = .colon)
    (bounded : s.pending.length ≤ bound) (h : Runs (declaration name bound) s r t) :
    Builds l s t r.gaps (IsName l name → r.Proper l) := by
  obtain ⟨u, written, initial, e⟩ := run_declaration h
  have pos : 0 < s.pending.length := length_pos_of_kind (by rw [colon]; decide)
  have typed := (writtenType_builds (s := s.numbered) (l := l) bounded pos written).after (.numbered s)
  have length := typed.length_le
  refine (typed.trans (initial_builds (by omega) initial)).mono (by simp [Declaration.gaps]) ?_
  rintro ⟨written, some, initial⟩ named
  have named' : IsName l r.name := by rwa [e]
  exact ⟨named', some, written, initial⟩

/-- A statement that starts with a name is proper or reported. -/
lemma namedStatement?_builds {bound : Nat} {r : Option Statement} (bounded : s.pending.length < bound + 1)
    (identifier : s.token.kind = .identifier) (h : Runs (namedStatement? bound) s r t) :
    BuildsStatement l s t r := by
  simp only [namedStatement?, run_bind] at h
  obtain ⟨target, u, hc, h⟩ := h
  have pos : 0 < s.pending.length := length_pos_of_kind (by rw [identifier]; decide)
  have head := chain_builds (l := l) bound (by omega) (by omega) hc
  have length := head.length_le
  cases target with
  | none =>
    obtain ⟨rfl, rfl⟩ := run_pure.mp h
    exact head
  | some target =>
    simp only [run_bind, run_peek] at h
    obtain ⟨_, _, ⟨rfl, rfl⟩, h⟩ := h
    have once := length_moved .insensitive u
    have onto := head.followed (.moved .insensitive u)
    split at h
    · next colon =>
      simp only [run_bind, run_advance] at h
      obtain ⟨_, _, rfl, h⟩ := h
      have two := two_le_length_of_peek (s := u) (by rw [colon]; decide)
      have kind := (kind_moved .insensitive u).trans colon
      split at h
      · next single =>
        simp only [run_bind, run_pure] at h
        obtain ⟨declaration, _, hd, rfl, rfl⟩ := h
        -- the name of a declaration is where its chain starts
        have named : Builds l s _ target.gaps (IsName l target.span ∧ _) :=
          onto.start (span_of_chain hc ▸ isName_token identifier)
        have rest := declaration_builds (l := l) kind (by omega) hd
        rw [buildsStatement_some, Statement.gaps, Statement.Proper]
        exact (named.trans rest).mono (Nat.le_add_left ..) fun both => both.2 both.1.1
      · simp only [run_bind, run_report, run_pure] at h
        obtain ⟨_, _, rfl, rfl, rfl⟩ := h
        exact onto.noting .declaresNoVariable _ (Nat.le_add_left 1 _)
    · next arrow =>
      simp only [run_bind, run_advance, run_span, run_pure] at h
      obtain ⟨_, _, rfl, _, _, ⟨rfl, rfl⟩, _, _, rfl, ⟨root, type⟩, _, hv, rfl, rfl⟩ := h
      have two := two_le_length_of_peek (s := u) (by rw [arrow]; decide)
      have twice := length_moved .insensitive (u.moved .insensitive)
      have value := expression_builds (l := l) bound (by omega) hv
      rw [Expression.gaps] at value
      rw [buildsStatement_some, Statement.gaps, Statement.Proper, Expression.untyped, Expression.gaps, Expr.gaps,
        Expr.gaps, Expression.ProperStatement]
      exact (onto.followed (.moved .insensitive _)).trans value
    · split at h
      · next call =>
        obtain ⟨rfl, rfl⟩ := run_pure.mp h
        rw [buildsStatement_some, Statement.gaps, Statement.Proper, Expression.untyped, Expression.gaps, Expr.gaps,
          Expression.ProperStatement]
        exact head.imp fun proper => ⟨proper, call⟩
      · simp only [run_bind, run_report, run_pure] at h
        obtain ⟨_, _, rfl, rfl, rfl⟩ := h
        exact head.noting .solitaryChain _ (Nat.le_add_left 1 _)

/-! ## Types -/

/-- The fields and methods of a type are proper; other members are reported. -/
lemma members_builds {functionDef : Parser FunctionDef} {named? : Parser (Option Statement)}
    (function : BuildsFunction l n functionDef)
    (named : ∀ ⦃s t r⦄, s.pending.length < n → s.token.kind = .identifier → Runs named? s r t →
      BuildsStatement l s t r)
    {bound : Nat} {r : List Declaration × List FunctionDef} (enough : s.pending.length < n)
    (h : Runs (members functionDef named? bound) s r t) :
    Builds l s t (declarationGaps r.1 + functionGaps r.2)
      ((∀ field ∈ r.1, field.Proper l) ∧ functionsProper l r.2) := by
  have stop (s : State) : Builds l s s (declarationGaps [] + functionGaps [])
      ((∀ field ∈ ([] : List Declaration), field.Proper l) ∧ functionsProper l []) := by
    rw [functionGaps, functionsProper]
    exact (Builds.refl s).imp fun _ => ⟨List.forall_mem_nil _, trivial⟩
  induction bound generalizing s r with
  | zero =>
    obtain ⟨rfl, rfl⟩ := run_pure.mp h
    exact stop s
  | succ bound ih =>
    -- behind a member that cannot be kept, which has been reported, the others follow
    have dropped : ∀ {u : State} {r : List Declaration × List FunctionDef}, Builds l s u 1 False →
        Runs (members functionDef named? bound) (u.moved .insensitive) r t →
        Builds l s t (declarationGaps r.1 + functionGaps r.2)
          ((∀ field ∈ r.1, field.Proper l) ∧ functionsProper l r.2) := by
      intro u r head h
      have upto := head.followed (.moved .insensitive u)
      have length := upto.length_le
      exact (ih (by omega) h).after upto
    simp only [members, run_bind, run_kind] at h
    obtain ⟨_, _, ⟨rfl, rfl⟩, h⟩ := h
    split at h
    · obtain ⟨rfl, rfl⟩ := run_pure.mp h
      exact stop s
    · obtain ⟨rfl, rfl⟩ := run_pure.mp h
      exact stop s
    · next identifier =>
      simp only [run_bind] at h
      obtain ⟨statement, u, hs, h⟩ := h
      have head := named enough identifier hs
      split at h
      · next field =>
        simp only [run_bind, run_advance, run_pure] at h
        obtain ⟨_, _, rfl, rest, _, hr, rfl, rfl⟩ := h
        rw [buildsStatement_some, Statement.gaps, Statement.Proper] at head
        have upto := head.followed (.moved .insensitive u)
        have length := upto.length_le
        refine (upto.trans (ih (by omega) hr)).mono (Nat.le_of_eq (Nat.add_assoc ..)) ?_
        rintro ⟨field, fields, methods⟩
        exact ⟨by simpa using ⟨field, fields⟩, methods⟩
      · cases statement with
        | some statement =>
          simp only [Option.isSome_some, if_true, run_bind, run_report, run_advance] at h
          obtain ⟨_, _, rfl, _, _, rfl, h⟩ := h
          exact dropped (head.noting .memberNotVariable _ (Nat.le_add_left 1 _)) h
        | none =>
          simp only [Option.isSome_none, Bool.false_eq_true, if_false, run_bind, run_advance] at h
          obtain ⟨_, _, rfl, h⟩ := h
          exact dropped head h
    · next keyword =>
      simp only [run_bind, run_advance, run_pure] at h
      obtain ⟨method, u, hm, _, _, rfl, rest, _, hr, rfl, rfl⟩ := h
      have upto := (function enough keyword hm).followed (.moved .insensitive u)
      have length := upto.length_le
      rw [functionGaps, functionsProper]
      refine (upto.trans (ih (by omega) hr)).mono (Nat.le_of_eq (Nat.add_left_comm ..)) ?_
      rintro ⟨method, fields, methods⟩
      exact ⟨fields, method, methods⟩
    · simp only [run_bind, run_report, run_advance] at h
      obtain ⟨_, _, rfl, _, _, rfl, h⟩ := h
      exact dropped (.noted .memberNotDefinition _ s) h

/-- A type is proper. -/
lemma typeDef_builds {functionDef : Parser FunctionDef} {bound : Nat}
    (builds : BuildsFunction l (bound + 1) functionDef) {r : TypeDef} (bounded : s.pending.length ≤ bound)
    (h : Runs (typeDef functionDef bound) s r t) : Builds l s t r.gaps (r.Proper l) := by
  simp only [typeDef, run_bind, run_span, run_freshId, run_advance, run_pure] at h
  obtain ⟨_, _, ⟨rfl, rfl⟩, _, _, ⟨rfl, rfl⟩, _, _, rfl, _, u, hn, _, _, ⟨rfl, rfl⟩, _, _, rfl,
    names, v, hp, _, w, ho, _, _, rfl, members, x, hm, _, _, hc, rfl, rfl⟩ := h
  have start := (Builds.numbered (l := l) s).followed (.moved .insensitive s.numbered)
  have named := ((Builds.named hn).after start).followed (.moved .insensitive u)
  have length := named.length_le
  have typed := named.trans (optionalTypeParameters_builds (by omega) hp)
  have opened := (typed.followed (.expected ho)).followed (.moved .insensitive w)
  have length' := opened.length_le
  have inner := members_builds builds (fun _ _ _ => namedStatement?_builds) (by omega) hm
  rw [TypeDef.gaps, TypeDef.Proper]
  refine ((opened.trans inner).followed (.expected hc)).mono (by simp) ?_
  rintro ⟨⟨name, typeParameters⟩, fields, methods⟩
  exact ⟨name, typeParameters, fields, methods⟩

/-! ## Control -/

/-- The value of a return is proper. -/
lemma returning_builds {bound : Nat} {r : Statement} (keyword : s.token.kind = .kwReturn)
    (bounded : s.pending.length ≤ bound) (h : Runs (returning bound) s r t) :
    Builds l s t r.gaps (r.Proper l) := by
  simp only [returning, run_bind, run_span, run_peekWith] at h
  obtain ⟨_, _, ⟨rfl, rfl⟩, _, _, ⟨rfl, rfl⟩, h⟩ := h
  split at h
  · obtain ⟨rfl, rfl⟩ := run_pure.mp h
    rw [Statement.gaps, Statement.Proper]
    exact (Builds.refl s).imp fun _ _ mem => absurd mem (Option.not_mem_none _)
  · simp only [run_bind, run_advance, run_pure] at h
    obtain ⟨_, _, rfl, value, _, hv, rfl, rfl⟩ := h
    have pos : 0 < s.pending.length := length_pos_of_kind (by rw [keyword]; decide)
    have shorter := length_moved .insensitive s
    have proper := (expression_builds (l := l) bound (by omega) hv).after (.moved .insensitive s)
    rw [Statement.gaps, Statement.Proper]
    exact proper.imp fun proper => by simpa using proper

/-- The condition and the body of a loop are proper. -/
lemma whileLoop_builds {block : SyntaxProblem → Parser Block} {bound : Nat}
    (builds : BuildsBlock l bound block) {r : Statement} (keyword : s.token.kind = .kwWhile)
    (bounded : s.pending.length ≤ bound) (h : Runs (whileLoop block bound) s r t) :
    Builds l s t r.gaps (r.Proper l) := by
  simp only [whileLoop, run_bind, run_span, run_advance, run_pure] at h
  obtain ⟨_, _, ⟨rfl, rfl⟩, _, _, rfl, condition, u, hc, _, _, rfl, body, _, hb, rfl, rfl⟩ := h
  have pos : 0 < s.pending.length := length_pos_of_kind (by rw [keyword]; decide)
  have shorter := length_moved .insensitive s
  have guard := (expression_builds (l := l) bound (by omega) hc).after (.moved .insensitive s)
  have length := guard.length_le
  have next := length_moved .insensitive u
  rw [Statement.gaps, Statement.Proper]
  exact (guard.followed (.moved .insensitive u)).trans (builds .whileWithoutBody (by omega) hb)

/-- The parts of a conditional are proper. -/
lemma conditional_builds {block : SyntaxProblem → Parser Block} {otherwise : Parser Otherwise} {bound : Nat}
    (builds : BuildsBlock l bound block)
    (others : BuildsAs l (bound + 1) otherwise Otherwise.gaps (Otherwise.Proper l)) {r : Conditional}
    (keyword : s.token.kind = .kwIf) (bounded : s.pending.length ≤ bound)
    (h : Runs (conditional block bound otherwise) s r t) : Builds l s t r.gaps (r.Proper l) := by
  simp only [conditional, run_bind, run_span, run_advance, run_pure] at h
  obtain ⟨_, _, ⟨rfl, rfl⟩, _, _, rfl, condition, u, hc, _, _, rfl, body, v, hb, rest, _, ho, rfl, rfl⟩ := h
  have pos : 0 < s.pending.length := length_pos_of_kind (by rw [keyword]; decide)
  have shorter := length_moved .insensitive s
  have guard := (expression_builds (l := l) bound (by omega) hc).after (.moved .insensitive s)
  have length := guard.length_le
  have next := length_moved .insensitive u
  have body := builds .ifWithoutBody (by omega) hb
  have left := body.length_le
  rw [Conditional.gaps, Conditional.Proper]
  refine (((guard.followed (.moved .insensitive u)).trans body).trans (others (by omega) ho)).imp ?_
  rintro ⟨⟨condition, body⟩, otherwise⟩
  exact ⟨condition, body, otherwise⟩

/-- What is done when a condition fails is proper. -/
lemma otherwise_builds {block : SyntaxProblem → Parser Block} {bound : Nat}
    (builds : BuildsBlock l bound block) (rounds : Nat) :
    BuildsAs l (bound + 1) (otherwise block bound rounds) Otherwise.gaps (Otherwise.Proper l) := by
  have none (s : State) : Builds l s s Otherwise.nothing.gaps (Otherwise.nothing.Proper l) := by
    rw [Otherwise.gaps, Otherwise.Proper]
    exact .refl s
  induction rounds with
  | zero =>
    intro s t r _ h
    obtain ⟨rfl, rfl⟩ := run_pure.mp h
    exact none s
  | succ rounds ih =>
    intro s t r bounded h
    simp only [otherwise, run_bind, run_peek] at h
    obtain ⟨_, _, ⟨rfl, rfl⟩, h⟩ := h
    split at h
    · obtain ⟨rfl, rfl⟩ := run_pure.mp h
      exact none s
    · next keyword =>
      rw [ne_eq, Decidable.not_not] at keyword
      simp only [run_bind, run_advance, run_kind] at h
      obtain ⟨_, _, rfl, _, _, rfl, _, _, ⟨rfl, rfl⟩, h⟩ := h
      have two := two_le_length_of_peek (s := s) (by rw [keyword]; decide)
      have once := length_moved .insensitive s
      have twice := length_moved .insensitive (s.moved .insensitive)
      have upto := (Builds.moved (l := l) .insensitive s).followed (.moved .insensitive _)
      split at h
      · next next =>
        simp only [run_bind, run_pure] at h
        obtain ⟨conditional, _, hc, rfl, rfl⟩ := h
        rw [Otherwise.gaps, Otherwise.Proper]
        exact (conditional_builds builds ih next (by omega) hc).after upto
      · simp only [run_bind, run_pure] at h
        obtain ⟨block, _, hb, rfl, rfl⟩ := h
        rw [Otherwise.gaps, Otherwise.Proper]
        exact (builds .invalidElse (by omega) hb).after upto
      · simp only [run_bind, run_report, run_pure] at h
        obtain ⟨_, _, rfl, rfl, rfl⟩ := h
        rw [Otherwise.gaps]
        exact upto.noting .invalidElse _ (Nat.zero_le _)

/-- A chain behind a keyword has plain names only, or is reported. -/
lemma chainBehind?_builds {absent invalid : SyntaxProblem} {bound : Nat} {r : Option Chain}
    (pos : 0 < s.pending.length) (bounded : s.pending.length ≤ bound)
    (h : Runs (chainBehind? absent invalid bound) s r t) :
    Builds l s t (r.elim 1 Chain.gaps) (r.elim False fun target => target.isPlain ∧ target.Proper l) := by
  simp only [chainBehind?, run_bind, run_peekWith] at h
  obtain ⟨_, _, ⟨rfl, rfl⟩, h⟩ := h
  split at h
  · simp only [run_bind, run_report, run_pure] at h
    obtain ⟨_, _, rfl, rfl, rfl⟩ := h
    exact .noted ..
  · simp only [run_bind, run_advance] at h
    obtain ⟨_, _, rfl, target, u, hc, h⟩ := h
    have shorter := length_moved .insensitive s
    have inner := (chain_builds (l := l) bound (by omega) (by omega) hc).after (.moved .insensitive s)
    cases target with
    | none =>
      simp only [run_bind, run_report, run_pure] at h
      obtain ⟨_, _, rfl, rfl, rfl⟩ := h
      exact inner.noting absent _ (Nat.le_add_left 1 _)
    | some target =>
      simp only at h
      split at h
      · next plain =>
        obtain ⟨rfl, rfl⟩ := run_pure.mp h
        exact inner.imp fun proper => ⟨plain, proper⟩
      · simp only [run_bind, run_report, run_pure] at h
        obtain ⟨_, _, rfl, rfl, rfl⟩ := h
        exact inner.noting invalid _ (Nat.le_succ _)

/-- An import names what it imports by a proper chain of plain names. -/
lemma importing?_builds {bound : Nat} {r : Option Statement} (keyword : s.token.kind = .kwImport)
    (bounded : s.pending.length ≤ bound) (h : Runs (importing? bound) s r t) : BuildsStatement l s t r := by
  simp only [importing?, run_bind, run_span, run_pure] at h
  obtain ⟨_, _, ⟨rfl, rfl⟩, target, _, hc, rfl, rfl⟩ := h
  have pos : 0 < s.pending.length := length_pos_of_kind (by rw [keyword]; decide)
  have inner := chainBehind?_builds (l := l) pos bounded hc
  cases target with
  | none => exact inner
  | some target =>
    rw [Option.map_some, buildsStatement_some, Statement.gaps, Statement.Proper]
    exact inner

/-- A path is a proper chain of plain names. -/
lemma path?_builds {bound : Nat} {r : Option Statement} (keyword : s.token.kind = .kwPath)
    (bounded : s.pending.length ≤ bound) (h : Runs (path? bound) s r t) : BuildsStatement l s t r := by
  simp only [path?, run_bind, run_span, run_pure] at h
  obtain ⟨_, _, ⟨rfl, rfl⟩, target, _, hc, rfl, rfl⟩ := h
  have pos : 0 < s.pending.length := length_pos_of_kind (by rw [keyword]; decide)
  have inner := chainBehind?_builds (l := l) pos bounded hc
  cases target with
  | none => exact inner
  | some target =>
    rw [Option.map_some, buildsStatement_some, Statement.gaps, Statement.Proper]
    exact inner

/-! ## Programs -/

/-- A statement is proper, or it is dropped and reported. -/
lemma statement?_builds (bound : Nat) : BuildsStatements l bound (statement? bound) := by
  induction bound with
  | zero => exact fun _ _ _ bounded => absurd bounded (Nat.not_lt_zero _)
  | succ bound ih =>
    intro s t r enough h
    have block := block_builds ih
    have bounded : s.pending.length ≤ bound := by omega
    have refused : ∀ {problem : SyntaxProblem} {r : Option Statement},
        Runs (do report problem; pure none) s r t → BuildsStatement l s t r := by
      intro problem r h
      simp only [run_bind, run_report, run_pure] at h
      obtain ⟨_, _, rfl, rfl, rfl⟩ := h
      exact .noted ..
    simp only [statement?, run_bind, run_kind] at h
    obtain ⟨_, _, ⟨rfl, rfl⟩, h⟩ := h
    split at h
    · simp only [run_bind, run_pure] at h
      obtain ⟨definition, _, hd, rfl, rfl⟩ := h
      rw [buildsStatement_some, Statement.gaps, Statement.Proper]
      exact typeDef_builds (functionDef_builds block) bounded hd
    · next keyword =>
      simp only [run_bind, run_pure] at h
      obtain ⟨definition, _, hd, rfl, rfl⟩ := h
      rw [buildsStatement_some, Statement.gaps, Statement.Proper]
      exact functionDef_builds block enough keyword hd
    · next keyword =>
      simp only [run_bind, run_pure] at h
      obtain ⟨statement, _, hs, rfl, rfl⟩ := h
      exact returning_builds keyword bounded hs
    · simp only [run_bind, run_span, run_pure] at h
      obtain ⟨_, _, ⟨rfl, rfl⟩, rfl, rfl⟩ := h
      rw [buildsStatement_some, Statement.gaps, Statement.Proper]
      exact .refl s
    · simp only [run_bind, run_span, run_pure] at h
      obtain ⟨_, _, ⟨rfl, rfl⟩, rfl, rfl⟩ := h
      rw [buildsStatement_some, Statement.gaps, Statement.Proper]
      exact .refl s
    · next keyword =>
      simp only [run_bind, run_pure] at h
      obtain ⟨statement, _, hs, rfl, rfl⟩ := h
      exact whileLoop_builds block keyword bounded hs
    · next keyword =>
      simp only [run_bind, run_pure] at h
      obtain ⟨conditional, _, hc, rfl, rfl⟩ := h
      rw [buildsStatement_some, Statement.gaps, Statement.Proper]
      exact conditional_builds block (otherwise_builds block bound) keyword bounded hc
    · next keyword => exact importing?_builds keyword bounded h
    · next keyword => exact path?_builds keyword bounded h
    · next identifier => exact namedStatement?_builds enough identifier h
    · exact refused h
    · exact refused h

/-- A program is proper. -/
lemma program_builds {bound : Nat} {r : Block} (bounded : s.pending.length < bound)
    (h : Runs (program bound) s r t) : Builds l s t r.gaps (r.Proper l) := by
  simp only [program, run_bind, run_freshId, run_span, run_pure] at h
  obtain ⟨_, _, ⟨rfl, rfl⟩, _, _, ⟨rfl, rfl⟩, inner, _, hs, rfl, rfl⟩ := h
  rw [Block.gaps, Block.Proper]
  exact (statements_builds (s := s.numbered) (statement?_builds bound) bounded bounded hs).after (.numbered s)

/-- The tokens that parsing starts with are among those it is given. -/
lemma pending_onFirst_subset (tokens : List Token) : (Cursor.onFirst tokens).pending ⊆ tokens := by
  unfold Cursor.onFirst
  split
  · split
    · exact List.dropLast_subset tokens
    · exact List.Subset.refl tokens
  · exact List.nil_subset tokens

/-- Parsing builds its program from a state without reports. -/
lemma parse_builds (tokens : List Token) : ∃ s t, s.pending ⊆ tokens ∧ s.findings = #[] ∧
    (parse tokens).findings = t.findings.toList ∧
    Builds tokens s t (parse tokens).program.root.gaps ((parse tokens).program.root.Proper tokens) := by
  have skipped := List.dropWhile_sublist (l := (Cursor.onFirst tokens).pending)
    fun token => Sensitivity.insensitive.skips token.kind
  have builds := program_builds (l := tokens) (s := ⟨(Cursor.onFirst tokens).skip .insensitive, 0, #[]⟩)
    (Nat.lt_succ_of_le skipped.length_le) rfl
  exact ⟨_, _, List.Subset.trans skipped.subset (pending_onFirst_subset tokens), rfl, rfl, builds⟩

/-- A program that is parsed without reports is proper. -/
lemma proper_of_findings {tokens : List Token} (clean : (parse tokens).findings = []) :
    (parse tokens).program.root.Proper tokens := by
  obtain ⟨s, t, within, -, findings, builds⟩ := parse_builds tokens
  rw [findings, Array.toList_eq_nil_iff] at clean
  exact builds.proper within (by rw [State.Clean, clean, Array.size_empty])

/-- A program that is parsed without reports is proper for its tokens: it misses no term, all its names are
those of tokens of the right kind, and every part that the grammar asks for is there. Whatever the tokens are,
there are at most as many missing terms as reports. -/
theorem parse_proper :
    (∀ tokens, (parse tokens).findings = [] → (parse tokens).program.root.Proper tokens) ∧
    ∀ tokens, (parse tokens).program.root.gaps ≤ (parse tokens).findings.length := by
  refine ⟨fun tokens => proper_of_findings, fun tokens => ?_⟩
  obtain ⟨s, t, -, none, findings, builds⟩ := parse_builds tokens
  have reported := builds.reported
  rw [none, Array.size_empty, Nat.zero_add] at reported
  rwa [findings, Array.length_toList]

/-- The tokens of `x : int -> new f(1)` give a proper program; those of `x -> -` give one with a gap. -/
theorem parse_proper_declaration :
    ∃ tokens broken, (parse tokens).findings = [] ∧ (parse tokens).program.root.Proper tokens ∧
      (parse broken).program.root.gaps = 1 ∧
      (parse broken).program.root.gaps ≤ (parse broken).findings.length := by
  let tokenAt (kind : Token.Kind) (offset : Nat) : Token := ⟨kind, ⟨none, "", offset, 1, 1, offset + 1⟩⟩
  let tokens := [tokenAt .identifier 0, tokenAt .colon 1, tokenAt .builtinType 2, tokenAt .arrow 3, tokenAt .kwNew 4,
    tokenAt .identifier 5, tokenAt .leftParen 6, tokenAt .integer 7, tokenAt .rightParen 8, tokenAt .endOfFile 9]
  let broken := [tokenAt .identifier 0, tokenAt .arrow 1, tokenAt .minus 2, tokenAt .endOfFile 3]
  have clean : (parse tokens).findings = [] := by decide +kernel
  have gap : (parse broken).program.root.gaps = 1 := by decide +kernel
  clear_value tokens broken
  exact ⟨tokens, broken, clean, parse_proper.1 tokens clean, gap, parse_proper.2 broken⟩

end ArrowScript.Grammar
