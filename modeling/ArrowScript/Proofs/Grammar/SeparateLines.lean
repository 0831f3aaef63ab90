import ArrowScript.Proofs.Grammar.Layout
import ArrowScript.Proofs.Grammar.Steady

/-!
# Statements on lines of their own

Every routine for statements ends on the last token of its statement, so that stepping off it finds the line end behind
it. A block that is read without reports is laid out in the tokens that it took, statement after statement; where a
statement follows another one, it was not reported that they share a line, and so a line has ended between them.
-/

namespace ArrowScript.Grammar

open Place
open Token (EndsOnce)

variable {s t u : State} {bound n : Nat}

/-! ## Tokens between two places -/

/-- What is skipped is trivia. -/
lemma onlyTrivia_takeWhile (sensitivity : Sensitivity) (tokens : List Token) :
    OnlyTrivia (tokens.takeWhile fun token => sensitivity.skips token.kind) :=
  fun token mem => Sensitivity.isTrivia_of_skips (List.all_eq_true.mp List.all_takeWhile token mem)

/-- A move goes past trivia. -/
lemma moved_gap (sensitivity : Sensitivity) (s : State) :
    ∃ gap, s.pending.tail = gap ++ (s.moved sensitivity).pending ∧ OnlyTrivia gap :=
  ⟨_, by rw [pending_moved, List.takeWhile_append_dropWhile], onlyTrivia_takeWhile sensitivity _⟩

/-- A routine that ends on a token takes some tokens, beginning with the current one. -/
lemma Reads.own {pieces : List Piece} {nodes : List NodeId} (reads : Reads (before s) (past t) pieces nodes)
    (clean : t.Clean) :
    ∃ own, s.pending = own ++ t.pending.tail ∧ own.head? = some s.token ∧ leafSpans own = leavesOf pieces := by
  have on : 0 < t.pending.length := List.length_pos_iff.mpr (reads.onToken clean nofun rfl)
  have left : t.pending.length ≤ s.pending.length := reads.length_le
  obtain ⟨own, split⟩ : t.pending.tail <:+ s.pending := (List.tail_suffix _).trans reads.pending
  have pos : 0 < s.pending.length := Nat.lt_of_lt_of_le on left
  refine ⟨own, split.symm, ?_, ?_⟩
  · cases own with
    | nil =>
      -- At least the token that the routine ended on was taken.
      have same := congrArg List.length split
      rw [List.nil_append, List.length_tail] at same
      omega
    | cons token rest =>
      have front := pending_eq_cons pos
      rw [← split, List.cons_append] at front
      exact congrArg some (List.cons.inj front).1
  · have leaves := reads.leaves clean
    rw [rest_before, rest_past, ← split, leafSpans_append] at leaves
    exact List.append_cancel_right leaves

/-- An expected token is there, if nothing is reported. -/
lemma expected_of_clean {k : Token.Kind} {problem : SyntaxProblem} {x : Unit} (h : Runs (expect k problem) s x t)
    (clean : t.Clean) : s = t ∧ s.token.kind = k := by
  rcases run_expect.mp h with ⟨kind, same⟩ | ⟨-, rfl⟩
  · exact ⟨same, kind⟩
  · exact absurd clean (Reads.not_clean_noted _ _ _)

/-! ## Shapes of layouts -/

/-- With fewer than `n` tokens left, blocks that are read without reports are laid out in lines. -/
def LaysBlock (n : Nat) (block : SyntaxProblem → Parser Block) : Prop :=
  ∀ ⦃s t : State⦄ ⦃problem : SyntaxProblem⦄ ⦃r : Block⦄, s.pending.length < n → Runs (block problem) s r t →
    t.Clean → ∃ own, s.pending = own ++ t.pending.tail ∧ r.OnLines own

/-- With fewer than `n` tokens left, functions that are read without reports are laid out in lines. -/
def LaysFunction (n : Nat) (functionDef : Parser FunctionDef) : Prop :=
  ∀ ⦃s t : State⦄ ⦃r : FunctionDef⦄, s.pending.length < n → s.token.kind = .kwFunction → Runs functionDef s r t →
    t.Clean → ∃ own, s.pending = own ++ t.pending.tail ∧ r.OnLines own

/-- With fewer than `n` tokens left, statements that are read without reports begin on the current token, and are laid
out in lines. -/
def LaysStatement (n : Nat) (statement? : Parser (Option Statement)) : Prop :=
  ∀ ⦃s t : State⦄ ⦃r : Statement⦄, s.pending.length < n → Runs statement? s (some r) t → t.Clean →
    s.token = r.first ∧ ∃ own, s.pending = own ++ t.pending.tail ∧ r.OnLines own

/-! ## Blocks -/

/-- Behind a statement a line ends, or the block, unless it is reported that a statement shares the line. -/
lemma finishStatement_gap {x : Unit} (h : Runs finishStatement s x t) (clean : t.Clean) :
    ∃ gap, s.pending.tail = gap ++ t.pending ∧ OnlyTrivia gap ∧
      (BreaksLine gap ∨ t.token.kind = .endOfFile ∨ t.token.kind = .rightBrace) := by
  simp only [finishStatement, run_bind, run_discard, run_advanceWith, run_kind] at h
  obtain ⟨_, u, ⟨_, _, rfl⟩, _, _, ⟨rfl, rfl⟩, h⟩ := h
  obtain ⟨gap, split, trivia⟩ := moved_gap .toLineEnds s
  split at h
  · next line =>
    obtain rfl := run_advance.mp h
    have pos : 0 < (s.moved .toLineEnds).pending.length := length_pos_of_kind (by rw [line]; decide)
    obtain ⟨behind, split', trivia'⟩ := moved_gap .insensitive (s.moved .toLineEnds)
    have whole : OnlyTrivia (gap ++ (s.moved .toLineEnds).token :: behind) := by
      refine List.forall_mem_append.mpr ⟨trivia, List.forall_mem_cons.mpr ⟨?_, trivia'⟩⟩
      rw [line]
      rfl
    refine ⟨_, ?_, whole, .inl (whole.breaksLine ⟨(s.moved .toLineEnds).token, by simp, line⟩)⟩
    rw [split, pending_eq_cons pos, split', List.append_assoc, List.cons_append]
  · next file =>
    obtain ⟨-, rfl⟩ := run_pure.mp h
    exact ⟨gap, split, trivia, .inr (.inl file)⟩
  · next brace =>
    obtain ⟨-, rfl⟩ := run_pure.mp h
    exact ⟨gap, split, trivia, .inr (.inr brace)⟩
  · obtain rfl := run_report.mp h
    exact absurd clean (Reads.not_clean_noted _ _ _)

/-- Statements up to the end of their block stand on lines of their own. -/
lemma statements_lay {statement? : Parser (Option Statement)} {block : BlockKind} {r : List Statement}
    (reads : ReadsStatement n statement?) (lays : LaysStatement n statement?) (enough : s.pending.length < n)
    (bounded : s.pending.length < bound) (h : Runs (statements statement? block bound) s r t) (clean : t.Clean) :
    ∃ inner, s.pending = inner ++ t.pending ∧ statementsOnLines r inner := by
  induction bound generalizing s r with
  | zero => omega
  | succ bound ih =>
    simp only [statements, run_bind, run_kind] at h
    obtain ⟨_, _, ⟨rfl, rfl⟩, h⟩ := h
    split at h
    · obtain ⟨rfl, rfl⟩ := run_pure.mp h
      exact ⟨[], rfl, by rw [statementsOnLines]⟩
    · next going =>
      have pos : 0 < s.pending.length := length_pos_of_kind fun e => by simp [endsBlock, e] at going
      simp only [run_bind] at h
      obtain ⟨first, u, hf, h⟩ := h
      rcases reads enough hf with ⟨statement, pieces, rfl, written, head⟩ | ⟨rfl, head, dirty⟩
      · simp only [run_bind, run_pure] at h
        obtain ⟨_, v, hv, rest, _, hr, rfl, rfl⟩ := h
        obtain ⟨finish, shorter⟩ := finishStatement_reads hv
        have length := head.length_le
        obtain ⟨_, -, tail, -⟩ := statements_reads reads (by omega) (by omega) hr
        have finished := tail.clean clean
        obtain ⟨others, split, lines⟩ := ih (by omega) (by omega) hr
        obtain ⟨begins, own, taken, inside⟩ := lays enough hf (finish.clean finished)
        obtain ⟨own', taken', starts, leaves⟩ := head.own (finish.clean finished)
        obtain rfl : own' = own := List.append_cancel_right (taken'.symm.trans taken)
        obtain ⟨gap, behind, trivia, ended⟩ := finishStatement_gap hv finished
        refine ⟨own' ++ (gap ++ others), by rw [taken, behind, split]; simp, ?_⟩
        rw [statementsOnLines]
        refine ⟨own', gap, others, rfl, ⟨begins ▸ starts, pieces, written, leaves⟩, inside, trivia, fun more => ?_,
          lines⟩
        -- Another statement begins here, so the block does not end here.
        obtain ⟨next, more, rfl⟩ := List.exists_cons_of_ne_nil more
        have here : v.token = next.first := by
          show v.pending.headD v.cursor.closingToken = next.first
          rw [split, List.headD_eq_head?_getD, List.head?_append, head?_of_statementsOnLines lines, Option.some_or,
            Option.getD_some]
        rw [here] at ended
        rcases ended with breaks | file | brace
        · exact breaks
        · exact absurd file next.first_kind_ne.1
        · exact absurd brace next.first_kind_ne.2
      · simp only [run_bind, run_tryAdvance] at h
        obtain ⟨_, _, ⟨rfl, rfl⟩, h⟩ := h
        have next := head.trans (Reads.moved .insensitive u)
        have length := head.length_le
        have shorter := length_moved .insensitive u
        split at h
        · obtain ⟨_, -, tail, -⟩ := statements_reads reads (by omega) (by omega) h
          exact absurd ((Reads.moved .insensitive u).clean (tail.clean clean)) dirty
        · obtain ⟨rfl, rfl⟩ := run_pure.mp h
          exact absurd ((Reads.moved .insensitive u).clean clean) dirty

/-- A block has its statements on lines of their own, between its braces. -/
lemma block_lays {statement? : Parser (Option Statement)} (reads : ReadsStatement n statement?)
    (lays : LaysStatement n statement?) : LaysBlock n (block statement? n) := by
  intro s t problem r enough h clean
  simp only [block, run_bind, run_freshId, run_span, run_advance, run_pure] at h
  obtain ⟨_, _, ⟨rfl, rfl⟩, _, _, ⟨rfl, rfl⟩, _, u, ho, _, _, rfl, inner, v, hs, _, _, hc, rfl, rfl⟩ := h
  obtain ⟨rfl, closes⟩ := expected_of_clean hc clean
  have length : u.pending.length ≤ s.pending.length := (Reads.expected ho rfl).length_le
  have shorter := length_moved .insensitive u
  obtain ⟨_, -, body, -⟩ := statements_reads reads (by omega) (by omega) hs
  obtain ⟨rfl, opens⟩ := expected_of_clean ho ((Reads.moved .insensitive u).clean (body.clean clean))
  obtain ⟨blank, behind, trivia⟩ := moved_gap .insensitive s.numbered
  obtain ⟨tokens, split, lines⟩ := statements_lay reads lays (by omega) (by omega) hs clean
  have first : s.pending = s.token :: s.pending.tail := pending_eq_cons (length_pos_of_kind fun e => by cases e.symm.trans opens)
  have last := pending_eq_cons (length_pos_of_kind (s := v) (by simp [closes]))
  refine ⟨(s.token :: blank) ++ (tokens ++ [v.token]), ?_, ?_⟩
  · calc s.pending = s.token :: (blank ++ (tokens ++ v.pending)) := by rw [first, ← split, ← behind]; rfl
      _ = _ := by rw [last]; simp
  · rw [Block.OnLines]
    refine ⟨_, tokens, _, rfl, ⟨⟨blank, ?_, trivia⟩, closes⟩, lines⟩
    rw [← opens]
    rfl

/-! ## Definitions -/

/-- A function ends with its body. -/
lemma functionDef_lays {block : SyntaxProblem → Parser Block} (lays : LaysBlock bound block) :
    LaysFunction (bound + 1) (functionDef block bound) := by
  intro s t r enough keyword h clean
  obtain ⟨u, length, run, -, head⟩ := functionHead_reads enough keyword h
  obtain ⟨own, split, lines⟩ := lays length run clean
  obtain ⟨front, whole⟩ := head.pending
  refine ⟨front ++ own, by rw [List.append_assoc, ← split]; exact whole.symm, ?_⟩
  cases r
  rw [FunctionDef.OnLines]
  exact ⟨front, own, rfl, lines⟩

/-- More tokens around functions. -/
lemma functionsOnLines_within {definitions : List FunctionDef} {tokens : List Token} (front behind : List Token)
    (h : functionsOnLines definitions tokens) : functionsOnLines definitions (front ++ (tokens ++ behind)) := by
  induction definitions generalizing front tokens with
  | nil =>
    rw [functionsOnLines]
    trivial
  | cons definition rest ih =>
    rw [functionsOnLines] at h ⊢
    obtain ⟨before, own, others, rfl, first, lines⟩ := h
    exact ⟨front ++ before, own, others ++ behind, by simp, first, ih [] lines⟩

/-- The methods among the members of a type have their statements on lines of their own. -/
lemma members_lay {functionDef : Parser FunctionDef} {named? : Parser (Option Statement)}
    (function : ReadsFunction n functionDef) (lays : LaysFunction n functionDef) (named : ReadsNamed n named?)
    {r : List Declaration × List FunctionDef} (enough : s.pending.length < n)
    (h : Runs (members functionDef named? bound) s r t) (clean : t.Clean) :
    ∃ inner, s.pending = inner ++ t.pending ∧ functionsOnLines r.2 inner := by
  have stop : ∀ {s : State}, ∃ inner, s.pending = inner ++ s.pending ∧ functionsOnLines [] inner :=
    ⟨[], rfl, by rw [functionsOnLines]; trivial⟩
  induction bound generalizing s r with
  | zero =>
    obtain ⟨rfl, rfl⟩ := run_pure.mp h
    exact stop
  | succ bound ih =>
    -- behind anything that is not a method the other members follow
    have skipped : ∀ {u : State} {r : List Declaration × List FunctionDef} {pieces nodes},
        Reads (before s) (past u) pieces nodes → Runs (members functionDef named? bound) (u.moved .insensitive) r t →
        ∃ inner, s.pending = inner ++ t.pending ∧ functionsOnLines r.2 inner := by
      intro u r pieces nodes head h
      have upto := head.trans (Reads.moved .insensitive u)
      have length := upto.length_le
      obtain ⟨others, split, lines⟩ := ih (by omega) h
      obtain ⟨front, whole⟩ := upto.pending
      refine ⟨front ++ (others ++ []), ?_, functionsOnLines_within front [] lines⟩
      rw [List.append_nil, List.append_assoc, ← split]
      exact whole.symm
    simp only [members, run_bind, run_kind] at h
    obtain ⟨_, _, ⟨rfl, rfl⟩, h⟩ := h
    split at h
    · obtain ⟨rfl, rfl⟩ := run_pure.mp h
      exact stop
    · obtain ⟨rfl, rfl⟩ := run_pure.mp h
      exact stop
    · next identifier =>
      simp only [run_bind] at h
      obtain ⟨statement, u, hs, h⟩ := h
      rcases named enough identifier hs with ⟨field, rfl, head⟩ | ⟨expression, rfl, head⟩ | ⟨rfl, head, -⟩
      · simp only [run_bind, run_advance, run_pure] at h
        obtain ⟨_, _, rfl, rest, _, hr, rfl, rfl⟩ := h
        exact skipped (r := rest) head hr
      · simp only [Option.isSome_some, if_true, run_bind, run_report, run_advance] at h
        obtain ⟨_, _, rfl, _, _, rfl, h⟩ := h
        exact skipped (head.trans (Reads.noted .memberNotVariable u true)) h
      · simp only [Option.isSome_none, Bool.false_eq_true, if_false, run_bind, run_advance] at h
        obtain ⟨_, _, rfl, h⟩ := h
        exact skipped head h
    · next keyword =>
      simp only [run_bind, run_advance, run_pure] at h
      obtain ⟨method, u, hm, _, _, rfl, rest, _, hr, rfl, rfl⟩ := h
      obtain ⟨_, _, head⟩ := function enough keyword hm
      have length := head.length_le
      have shorter := length_moved .insensitive u
      obtain ⟨_, _, -, -, tail⟩ := members_reads function named (by omega) hr
      obtain ⟨others, split, lines⟩ := ih (by omega) hr
      obtain ⟨own, taken, first⟩ := lays enough keyword hm ((Reads.moved .insensitive u).clean (tail.clean clean))
      obtain ⟨gap, behind, -⟩ := moved_gap .insensitive u
      refine ⟨own ++ (gap ++ (others ++ [])), by rw [taken, behind, split]; simp, ?_⟩
      rw [functionsOnLines]
      exact ⟨[], own, _, rfl, first, functionsOnLines_within gap [] lines⟩
    · simp only [run_bind, run_report, run_advance] at h
      obtain ⟨_, _, rfl, _, _, rfl, h⟩ := h
      -- only what a problem was noted for is neither a field nor a method
      have length := length_moved .insensitive (s.noted .memberNotDefinition s.token.span)
      have left : _ ≤ s.pending.length := Nat.le_trans length (Nat.sub_le _ _)
      obtain ⟨_, _, -, -, tail⟩ := members_reads function named (Nat.lt_of_le_of_lt left enough) h
      exact absurd ((Reads.moved .insensitive _).clean (tail.clean clean)) (Reads.not_clean_noted _ _ _)

/-- The methods of a type have their statements on lines of their own. -/
lemma typeDef_lays {functionDef : Parser FunctionDef} (function : ReadsFunction (bound + 1) functionDef)
    (lays : LaysFunction (bound + 1) functionDef) {r : TypeDef} (keyword : s.token.kind = .kwType)
    (bounded : s.pending.length ≤ bound) (h : Runs (typeDef functionDef bound) s r t) (clean : t.Clean) :
    ∃ own, s.pending = own ++ t.pending.tail ∧ r.OnLines own := by
  obtain ⟨u, v, length, run, closed, -, head⟩ := typeHead_reads keyword bounded h
  obtain ⟨rfl, closes⟩ := expected_of_clean closed clean
  obtain ⟨inner, split, lines⟩ :=
    members_lay function lays (namedStatement?_reads bound) (Nat.lt_succ_of_le length) run clean
  obtain ⟨front, whole⟩ := head.pending
  have last := pending_eq_cons (length_pos_of_kind (s := v) (by simp [closes]))
  refine ⟨front ++ (inner ++ [v.token]), ?_, ?_⟩
  · calc s.pending = front ++ u.pending := whole.symm
      _ = _ := by rw [split, last]; simp
  · cases r
    rw [TypeDef.OnLines]
    exact functionsOnLines_within front [v.token] lines

/-! ## Control -/

/-- The body of a loop has its statements on lines of their own. -/
lemma whileLoop_lays {block : SyntaxProblem → Parser Block} (lays : LaysBlock bound block) {r : Statement}
    (keyword : s.token.kind = .kwWhile) (bounded : s.pending.length ≤ bound) (h : Runs (whileLoop block bound) s r t)
    (clean : t.Clean) : s.token = r.first ∧ ∃ own, s.pending = own ++ t.pending.tail ∧ r.OnLines own := by
  obtain ⟨condition, body, u, rfl, length, run, head⟩ := whileHead_reads keyword bounded h
  obtain ⟨own, split, lines⟩ := lays length run clean
  obtain ⟨front, whole⟩ := head.pending
  refine ⟨by rw [Statement.first, ← keyword], front ++ own, by rw [List.append_assoc, ← split]; exact whole.symm, ?_⟩
  rw [Statement.OnLines]
  exact ⟨front, own, rfl, lines⟩

/-- With at most `n` tokens left, what is done when a condition fails is laid out in lines, if it is read without
reports. -/
def LaysOtherwise (n : Nat) (otherwise : Parser Otherwise) : Prop :=
  ∀ ⦃s t : State⦄ ⦃r : Otherwise⦄, s.pending.length ≤ n → Runs otherwise s r t → t.Clean →
    ∃ own, s.pending.tail = own ++ t.pending.tail ∧ r.OnLines own

/-- The blocks of a conditional have their statements on lines of their own. -/
lemma conditional_lays {block : SyntaxProblem → Parser Block} {otherwise : Parser Otherwise}
    (reads : ReadsBlock bound block) (lays : LaysBlock bound block) (follows : ReadsOtherwise bound otherwise)
    (others : LaysOtherwise bound otherwise) {r : Conditional} (keyword : s.token.kind = .kwIf)
    (bounded : s.pending.length ≤ bound) (h : Runs (conditional block bound otherwise) s r t) (clean : t.Clean) :
    ∃ own, s.pending = own ++ t.pending.tail ∧ r.OnLines own := by
  obtain ⟨u, v, length, hb, ho, -, head⟩ := conditionalHead_reads keyword bounded h
  obtain ⟨_, -, inner⟩ := reads length hb
  have left : v.pending.length ≤ bound := Nat.le_trans inner.length_le (Nat.le_of_lt length)
  obtain ⟨_, -, tail⟩ := follows left ho
  obtain ⟨own, split, lines⟩ := lays length hb (tail.clean clean)
  obtain ⟨rest, behind, more⟩ := others left ho clean
  obtain ⟨front, whole⟩ := head.pending
  refine ⟨front ++ (own ++ rest), ?_, ?_⟩
  · calc s.pending = front ++ u.pending := whole.symm
      _ = _ := by rw [split, behind]; simp
  · cases r
    rw [Conditional.OnLines]
    exact ⟨front, own, rest, rfl, lines, more⟩

/-- What is done when a condition fails has its statements on lines of their own. -/
lemma otherwise_lays {block : SyntaxProblem → Parser Block} (reads : ReadsBlock bound block)
    (lays : LaysBlock bound block) (rounds : Nat) : LaysOtherwise bound (otherwise block bound rounds) := by
  have none : ∀ {s : State}, ∃ own, s.pending.tail = own ++ s.pending.tail ∧ Otherwise.nothing.OnLines own :=
    ⟨[], rfl, by rw [Otherwise.OnLines]⟩
  induction rounds with
  | zero =>
    intro s t r _ h _
    obtain ⟨rfl, rfl⟩ := run_pure.mp h
    exact none
  | succ rounds ih =>
    intro s t r bounded h clean
    simp only [otherwise, run_bind, run_peek] at h
    obtain ⟨_, _, ⟨rfl, rfl⟩, h⟩ := h
    split at h
    · obtain ⟨rfl, rfl⟩ := run_pure.mp h
      exact none
    · next keyword =>
      rw [ne_eq, Decidable.not_not] at keyword
      simp only [run_bind, run_advance, run_kind] at h
      obtain ⟨_, _, rfl, _, _, rfl, _, _, ⟨rfl, rfl⟩, h⟩ := h
      have two := two_le_length_of_peek (s := s) (by rw [keyword]; decide)
      have once := length_moved .insensitive s
      have twice := length_moved .insensitive (s.moved .insensitive)
      -- what is moved past in front of the condition or the block
      obtain ⟨gap, behind, -⟩ := moved_gap .insensitive s
      obtain ⟨front, whole⟩ := pending_moved_suffix .insensitive (s.moved .insensitive)
      have ahead : s.pending.tail = (gap ++ front) ++ ((s.moved .insensitive).moved .insensitive).pending := by
        rw [behind, List.append_assoc, whole]
      split at h
      · next next =>
        simp only [run_bind, run_pure] at h
        obtain ⟨conditional, _, hc, rfl, rfl⟩ := h
        obtain ⟨own, split, lines⟩ :=
          conditional_lays reads lays (otherwise_reads reads rounds) ih next (by omega) hc clean
        refine ⟨(gap ++ front) ++ own, by rw [ahead, split]; simp, ?_⟩
        rw [Otherwise.OnLines]
        exact ⟨_, own, rfl, lines⟩
      · simp only [run_bind, run_pure] at h
        obtain ⟨block, _, hb, rfl, rfl⟩ := h
        obtain ⟨own, split, lines⟩ := lays (by omega) hb clean
        refine ⟨(gap ++ front) ++ own, by rw [ahead, split]; simp, ?_⟩
        rw [Otherwise.OnLines]
        exact ⟨_, own, rfl, lines⟩
      · simp only [run_bind, run_report, run_pure] at h
        obtain ⟨_, _, rfl, rfl, rfl⟩ := h
        exact absurd clean (Reads.not_clean_noted _ _ _)

/-! ## First tokens -/

/-- A token is given by its kind and its span. -/
lemma token_eq {token : Token} {k : Token.Kind} (kind : token.kind = k) : token = ⟨k, token.span⟩ :=
  kind ▸ rfl

/-- A return begins with its keyword. -/
lemma returning_first {r : Statement} (keyword : s.token.kind = .kwReturn) (h : Runs (returning bound) s r t) :
    s.token = r.first ∧ ∀ own, r.OnLines own := by
  simp only [returning, run_bind, run_span, run_peekWith] at h
  obtain ⟨_, _, ⟨rfl, rfl⟩, _, _, ⟨rfl, rfl⟩, h⟩ := h
  split at h
  · obtain ⟨rfl, rfl⟩ := run_pure.mp h
    exact ⟨token_eq keyword, fun own => by simp [Statement.OnLines]⟩
  · simp only [run_bind, run_pure] at h
    obtain ⟨_, _, _, _, _, _, rfl, rfl⟩ := h
    exact ⟨token_eq keyword, fun own => by simp [Statement.OnLines]⟩

/-- A declaration, an assignment or a call begins with the name that it starts with. -/
lemma namedStatement?_first {r : Statement} (identifier : s.token.kind = .identifier)
    (h : Runs (namedStatement? bound) s (some r) t) : s.token = r.first ∧ ∀ own, r.OnLines own := by
  simp only [namedStatement?, run_bind] at h
  obtain ⟨target, u, hc, h⟩ := h
  cases target with
  | none => cases (run_pure.mp h).1
  | some target =>
    have start := token_eq identifier
    rw [← span_of_chain hc] at start
    simp only [run_bind, run_peek] at h
    obtain ⟨_, _, ⟨rfl, rfl⟩, h⟩ := h
    split at h
    · simp only [run_bind, run_advance] at h
      obtain ⟨_, _, rfl, h⟩ := h
      split at h
      · simp only [run_bind, run_pure] at h
        obtain ⟨declaration, _, hd, e, rfl⟩ := h
        obtain ⟨_, _, _, named⟩ := run_declaration hd
        cases e
        refine ⟨?_, fun own => by simp [Statement.OnLines]⟩
        rw [start, Statement.first, named]
      · simp only [run_bind, run_report, run_pure] at h
        obtain ⟨_, _, _, e, _⟩ := h
        cases e
    · simp only [run_bind, run_advance, run_span, run_pure] at h
      obtain ⟨_, _, _, _, _, _, _, _, _, value, _, hv, e, _⟩ := h
      cases e
      exact ⟨start, fun own => by simp [Statement.OnLines]⟩
    · split at h
      · cases (run_pure.mp h).1
        exact ⟨start, fun own => by simp [Statement.OnLines]⟩
      · simp only [run_bind, run_report, run_pure] at h
        obtain ⟨_, _, _, e, _⟩ := h
        cases e

/-! ## Programs -/

/-- Statements begin on the current token, and their blocks have their statements on lines of their own. -/
lemma statement?_lays (bound : Nat) : LaysStatement bound (statement? bound) := by
  induction bound with
  | zero => exact fun _ _ _ bounded => absurd bounded (Nat.not_lt_zero _)
  | succ bound ih =>
    intro s t r enough h clean
    have reads := block_reads (statement?_reads bound)
    have lays := block_lays (statement?_reads bound) ih
    have bounded : s.pending.length ≤ bound := Nat.le_of_lt_succ enough
    -- Statements without blocks take some tokens, and that is all there is to say of these.
    have plain (begins : s.token = r.first ∧ ∀ own, r.OnLines own) :
        s.token = r.first ∧ ∃ own, s.pending = own ++ t.pending.tail ∧ r.OnLines own := by
      rcases statement?_reads (bound + 1) enough h with ⟨_, pieces, e, -, whole⟩ | ⟨e, -⟩
      · obtain ⟨own, split, -⟩ := whole.own clean
        exact ⟨begins.1, own, split, begins.2 own⟩
      · cases e
    have run := h
    simp only [statement?, run_bind, run_kind] at run
    obtain ⟨_, _, ⟨rfl, rfl⟩, run⟩ := run
    split at run
    · next keyword =>
      simp only [run_bind, run_pure] at run
      obtain ⟨definition, _, hd, e, rfl⟩ := run
      cases e
      obtain ⟨u, v, -, -, -, first, -⟩ := typeHead_reads keyword bounded hd
      refine ⟨by rw [Statement.first, first]; exact token_eq keyword, ?_⟩
      obtain ⟨own, split, lines⟩ :=
        typeDef_lays (functionDef_reads reads) (functionDef_lays lays) keyword bounded hd clean
      exact ⟨own, split, by rwa [Statement.OnLines]⟩
    · next keyword =>
      simp only [run_bind, run_pure] at run
      obtain ⟨definition, _, hd, e, rfl⟩ := run
      cases e
      obtain ⟨u, -, -, first, -⟩ := functionHead_reads enough keyword hd
      refine ⟨by rw [Statement.first, first]; exact token_eq keyword, ?_⟩
      obtain ⟨own, split, lines⟩ := functionDef_lays lays enough keyword hd clean
      exact ⟨own, split, by rwa [Statement.OnLines]⟩
    · next keyword =>
      simp only [run_bind, run_pure] at run
      obtain ⟨_, _, hs, e, rfl⟩ := run
      cases e
      exact plain (returning_first keyword hs)
    · next keyword =>
      simp only [run_bind, run_span, run_pure] at run
      obtain ⟨_, _, ⟨rfl, rfl⟩, e, rfl⟩ := run
      cases e
      exact plain ⟨token_eq keyword, fun own => by simp [Statement.OnLines]⟩
    · next keyword =>
      simp only [run_bind, run_span, run_pure] at run
      obtain ⟨_, _, ⟨rfl, rfl⟩, e, rfl⟩ := run
      cases e
      exact plain ⟨token_eq keyword, fun own => by simp [Statement.OnLines]⟩
    · next keyword =>
      simp only [run_bind, run_pure] at run
      obtain ⟨_, _, hs, e, rfl⟩ := run
      cases e
      exact whileLoop_lays lays keyword bounded hs clean
    · next keyword =>
      simp only [run_bind, run_pure] at run
      obtain ⟨definition, _, hd, e, rfl⟩ := run
      cases e
      obtain ⟨_, _, -, -, -, first, -⟩ := conditionalHead_reads keyword bounded hd
      refine ⟨by rw [Statement.first, first]; exact token_eq keyword, ?_⟩
      obtain ⟨own, split, lines⟩ := conditional_lays reads lays (otherwise_reads reads bound)
        (otherwise_lays reads lays bound) keyword bounded hd clean
      exact ⟨own, split, by rwa [Statement.OnLines]⟩
    · next keyword =>
      simp only [importing?, run_bind, run_span, run_pure] at run
      obtain ⟨_, _, ⟨rfl, rfl⟩, target, _, -, e, rfl⟩ := run
      obtain ⟨_, -, rfl⟩ := Option.map_eq_some_iff.mp e
      exact plain ⟨token_eq keyword, fun own => by simp [Statement.OnLines]⟩
    · next keyword =>
      simp only [path?, run_bind, run_span, run_pure] at run
      obtain ⟨_, _, ⟨rfl, rfl⟩, target, _, -, e, rfl⟩ := run
      obtain ⟨_, -, rfl⟩ := Option.map_eq_some_iff.mp e
      exact plain ⟨token_eq keyword, fun own => by simp [Statement.OnLines]⟩
    · next identifier => exact plain (namedStatement?_first identifier run)
    · simp only [run_bind, run_pure] at run
      obtain ⟨_, _, _, e, _⟩ := run
      cases e
    · simp only [run_bind, run_pure] at run
      obtain ⟨_, _, _, e, _⟩ := run
      cases e

/-- The statements of a program stand on lines of their own. -/
lemma program_lays {r : Block} (bounded : s.pending.length < bound) (h : Runs (program bound) s r t) (clean : t.Clean) :
    r.kind = .program ∧ ∃ inner, s.pending = inner ++ t.pending ∧ statementsOnLines r.statements inner := by
  simp only [program, run_bind, run_freshId, run_span, run_pure] at h
  obtain ⟨_, _, ⟨rfl, rfl⟩, _, _, ⟨rfl, rfl⟩, inner, _, hs, rfl, rfl⟩ := h
  exact ⟨rfl, statements_lay (s := s.numbered) (statement?_reads bound) (statement?_lays bound) bounded bounded hs clean⟩

/-- Statements never share a line. If tokens that end with their only end of file are parsed without reports, then the
program is laid out in them with the statements of every block on lines of their own: between two statements of a block
there is nothing but trivia, in which a line ends. -/
theorem parse_separates_statements {tokens : List Token} (once : EndsOnce tokens)
    (clean : (parse tokens).findings = []) : (parse tokens).program.root.OnLines tokens := by
  obtain ⟨body, last, rfl, kind, once⟩ := once
  obtain ⟨t, run, found⟩ : ∃ t, Runs (program ((Cursor.onFirst (body ++ [last])).pending.length + 1))
      (.start (body ++ [last])) (parse (body ++ [last])).program.root t ∧
      (parse (body ++ [last])).findings = t.findings.toList := ⟨_, rfl, rfl⟩
  generalize (parse (body ++ [last])).program.root = root at run ⊢
  have clean : t.Clean := by
    rw [found, Array.toList_eq_nil_iff] at clean
    rw [State.Clean, clean, Array.size_empty]
  have enough := Nat.lt_succ_of_le (start_onward (body ++ [last])).length_le
  obtain ⟨_, -, reads, ends⟩ := program_reads enough run
  obtain ⟨program, inner, split, lines⟩ := program_lays enough run clean
  -- The tokens before the end of file are the trivia at the front and what was read.
  have front : (State.start (body ++ [last])).pending =
      body.dropWhile fun token => Sensitivity.insensitive.skips token.kind := by
    rw [State.start, onFirst_append kind]
    rfl
  have within : t.pending ⊆ body :=
    List.Subset.trans reads.pending.subset (front ▸ (List.dropWhile_suffix _).subset)
  have finished : t.pending = [] := pending_eq_nil (fun token mem => once token (within mem)) (ends clean)
  rw [front, finished, List.append_nil] at split
  obtain ⟨id, kind', statements, span⟩ := root
  obtain rfl : kind' = .program := program
  rw [Block.OnLines]
  refine ⟨_, inner, last, ?_, ⟨onlyTrivia_takeWhile .insensitive body, kind⟩, lines⟩
  rw [← split, ← List.append_assoc, List.takeWhile_append_dropWhile]

/-- The tokens of `a : int`, a line end, a comment and `return`, are laid out on two lines. -/
theorem parse_separates_statements_pair :
    ∃ tokens, EndsOnce tokens ∧ (parse tokens).findings = [] ∧ (parse tokens).program.root.statements.length = 2 ∧
      (parse tokens).program.root.OnLines tokens := by
  let tokenAt (kind : Token.Kind) (offset : Nat) : Token := ⟨kind, ⟨none, "", offset, 1, 1, offset + 1⟩⟩
  let tokens := [tokenAt .identifier 0, tokenAt .colon 1, tokenAt .builtinType 2, tokenAt .endOfLine 3,
    tokenAt .comment 4, tokenAt .kwReturn 5, tokenAt .endOfFile 6]
  have once : EndsOnce tokens := ⟨tokens.dropLast, tokenAt .endOfFile 6, rfl, rfl, by decide⟩
  have clean : (parse tokens).findings = [] := by decide +kernel
  exact ⟨tokens, once, clean, by decide +kernel, parse_separates_statements once clean⟩

end ArrowScript.Grammar
