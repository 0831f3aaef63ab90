import ArrowScript.Proofs.Grammar.IdleTrivia
import ArrowScript.Proofs.Grammar.Renumbering
import ArrowScript.Proofs.Grammar.Termination

/-!
# Parsing past idle trivia

Two states are alongside each other if they have noted the same, stand on the same token and differ only in idle
trivia behind it and in how many handles were given out before. An action is steady if a run of it from one of
them can be made from the other one, too, with the same result and to a state alongside. Looking and moving are
steady as long as no trivia is looked at for its own sake; the two places where it is, the brackets of an array and
the end of a statement, are taken as a whole. The routines of the grammar that give out no handles are steady
because they are put together from steady ones. The others are parallel to themselves: they give the same tree
under later handles.
-/

namespace ArrowScript.Grammar

open Token (Thinned kindPast)

variable {α β : Type} {s t : State} {shift : Nat}

/-! ## Looking ahead -/

/-- Without sensitivity all trivia is skipped. -/
lemma Sensitivity.insensitive_skips (k : Token.Kind) : insensitive.skips k = k.isTrivia := by
  cases k <;> rfl

/-- What is skipped is trivia. -/
lemma Sensitivity.isTrivia_of_skips {sensitivity : Sensitivity} {k : Token.Kind} (h : sensitivity.skips k) :
    k.isTrivia := by
  cases k <;> first | rfl | exact absurd h (by simp [skips])

/-- The next kind is the first past those that are skipped. -/
lemma peekKind_eq {sensitivity : Sensitivity} {passed : List Token.Kind}
    (skips : ∀ k, sensitivity.skips k = decide (k ∈ passed)) (s : State) :
    s.cursor.peekKind sensitivity = kindPast passed s.pending.tail := by
  have find (rest : List Token) : rest.find? (fun token => !sensitivity.skips token.kind) =
      rest.find? ((fun k => decide (k ∉ passed)) ∘ Token.kind) := by
    congr
    funext token
    simp [skips]
  cases e : s.cursor.pending with
  | nil => simp [Cursor.peekKind, Cursor.next?, State.pending, e, kindPast]
  | cons token rest =>
    simp only [Cursor.peekKind, Cursor.next?, State.pending, e, kindPast, List.tail_cons, List.find?_map, find]
    cases rest.find? ((fun k => decide (k ∉ passed)) ∘ Token.kind) <;> rfl

/-- Past blanks and comments. -/
lemma peekKind_toLineEnds (s : State) :
    s.cursor.peekKind .toLineEnds = kindPast [.comment, .whitespace] s.pending.tail :=
  peekKind_eq (fun k => by cases k <;> rfl) s

/-- What comes next past blanks and comments is a line end or no trivia. -/
lemma isTrivia_of_no_line (line : s.cursor.peekKind .toLineEnds ≠ .endOfLine) :
    (s.cursor.peekKind .toLineEnds).isTrivia = false := by
  have stop := Token.kindPast_notMem (show Token.Kind.endOfFile ∉ [.comment, .whitespace] by simp) s.pending.tail
  rw [← peekKind_toLineEnds] at stop
  revert stop line
  cases s.cursor.peekKind .toLineEnds <;> simp [Token.Kind.isTrivia]

/-- Past comments. -/
lemma peekKind_toLayout (s : State) : s.cursor.peekKind .toLayout = kindPast [.comment] s.pending.tail :=
  peekKind_eq (fun k => by cases k <;> rfl) s

/-- The span that is shown for the next token is that of the token that a move leads to. -/
lemma peekSpan_eq (s : State) : s.cursor.peekSpan = (s.moved .insensitive).token.span := by
  have closing := (frame_moved .insensitive s).1
  have pending := pending_moved .insensitive s
  cases e : s.cursor.pending with
  | nil =>
    simp only [State.pending, e, List.tail_nil, List.dropWhile_nil] at pending
    simp [Cursor.peekSpan, Cursor.next?, State.token, Cursor.current, Cursor.closingToken, e, pending, closing]
  | cons token rest =>
    simp only [State.pending, e, List.tail_cons] at pending
    simp only [Cursor.peekSpan, Cursor.next?, State.token, Cursor.current, Cursor.closingToken, e, pending, closing,
      headD_skipped, Option.elim_some]

/-! ## Moving past what another move stops on -/

/-- A move changes what is pending and nothing else. -/
lemma moved_eq (sensitivity : Sensitivity) (s : State) : s.moved sensitivity =
    ⟨⟨s.pending.tail.dropWhile fun token => sensitivity.skips token.kind, s.cursor.closing⟩, s.nextId,
      s.findings⟩ := by
  obtain ⟨closing, findings, nextId⟩ := frame_moved sensitivity s
  rw [← pending_moved, ← closing, ← findings, ← nextId]

/-- Skipping more after less is skipping more. -/
lemma skip_skipped (sensitivity : Sensitivity) (tokens : List Token) :
    ((tokens.dropWhile fun token => sensitivity.skips token.kind).dropWhile
      fun token => Sensitivity.insensitive.skips token.kind) =
      tokens.dropWhile fun token => Sensitivity.insensitive.skips token.kind := by
  induction tokens with
  | nil => rfl
  | cons token rest ih =>
    rw [List.dropWhile_cons]
    split
    · next skip =>
      have skip := Sensitivity.isTrivia_of_skips skip
      rw [ih, List.dropWhile_cons, if_pos ((Sensitivity.insensitive_skips _).trans skip)]
    · rfl

/-- A move that does not stop on trivia goes past all trivia. -/
lemma moved_of_solid {sensitivity : Sensitivity} (solid : (s.cursor.peekKind sensitivity).isTrivia = false) :
    s.moved sensitivity = s.moved .insensitive := by
  -- There is nothing left to skip where the move has stopped.
  have stays : ((s.moved sensitivity).pending.dropWhile fun token => Sensitivity.insensitive.skips token.kind) =
      (s.moved sensitivity).pending := by
    rw [← kind_moved] at solid
    cases e : (s.moved sensitivity).cursor.pending with
    | nil => simp only [State.pending, e, List.dropWhile_nil]
    | cons token rest =>
      simp only [State.token, Cursor.current, e, List.headD_cons] at solid
      simp [State.pending, e, Sensitivity.insensitive_skips, solid]
  rw [moved_eq, moved_eq, ← skip_skipped, ← pending_moved, stays]

/-- A move off trivia that another move has stopped on goes past all trivia. -/
lemma moved_of_trivia {sensitivity : Sensitivity} (trivia : (s.cursor.peekKind sensitivity).isTrivia) :
    (s.moved sensitivity).moved .insensitive = s.moved .insensitive := by
  -- The token that is moved off would be skipped anyway.
  have goes : ((s.moved sensitivity).pending.tail.dropWhile fun token => Sensitivity.insensitive.skips token.kind) =
      (s.moved sensitivity).pending.dropWhile fun token => Sensitivity.insensitive.skips token.kind := by
    rw [← kind_moved] at trivia
    cases e : (s.moved sensitivity).cursor.pending with
    | nil => simp only [State.pending, e, List.tail_nil]
    | cons token rest =>
      simp only [State.token, Cursor.current, e, List.headD_cons] at trivia
      simp [State.pending, e, Sensitivity.insensitive_skips, trivia]
  obtain ⟨closing, findings, nextId⟩ := frame_moved sensitivity s
  rw [moved_eq, goes, closing, findings, nextId, pending_moved, skip_skipped, ← moved_eq]

/-! ## States alongside each other -/

/-- Two states differ only in idle trivia behind the current token, and in the number of the next handle. -/
structure Alongside (shift : Nat) (s t : State) : Prop where
  head : t.pending.head? = s.pending.head?
  tail : Thinned s.pending.tail t.pending.tail
  closing : t.cursor.closing = s.cursor.closing
  nextId : t.nextId = s.nextId + shift
  findings : t.findings = s.findings

namespace Alongside

/-- Both stand on the same token. -/
lemma token (h : Alongside shift s t) : t.token = s.token := by
  simp only [State.token, Cursor.current, Cursor.closingToken, List.headD_eq_head?_getD, h.closing, h.head]

/-- There is a token to move off in both or in neither. -/
lemma more (h : Alongside shift s t) : t.pending ≠ [] ↔ s.pending ≠ [] := by
  rw [← List.isSome_head?, ← List.isSome_head?, h.head]

/-- A move past all trivia leads to the same token. -/
lemma moved (h : Alongside shift s t) : Alongside shift (s.moved .insensitive) (t.moved .insensitive) := by
  have next := h.tail.past_trivia
  simp only [← Sensitivity.insensitive_skips, ← pending_moved] at next
  refine ⟨next.1, next.2, ?_, ?_, ?_⟩
  · simp only [frame_moved, h.closing]
  · simp only [frame_moved, h.nextId]
  · simp only [frame_moved, h.findings]

/-- Noting a problem. -/
lemma noted (h : Alongside shift s t) (problem : SyntaxProblem) (x : Span) :
    Alongside shift (s.noted problem x) (t.noted problem x) :=
  ⟨h.head, h.tail, h.closing, h.nextId, by simp only [State.noted, h.findings]⟩

/-- Giving out a handle. -/
lemma numbered (h : Alongside shift s t) : Alongside shift s.numbered t.numbered :=
  ⟨h.head, h.tail, h.closing, (congrArg (· + 1) h.nextId).trans (Nat.add_right_comm ..), h.findings⟩

/-- The next kind past all trivia is the same. -/
lemma peek (h : Alongside shift s t) : t.cursor.peekKind .insensitive = s.cursor.peekKind .insensitive := by
  rw [← kind_moved, ← kind_moved, h.moved.token]

/-- The next kind up to a line end is the same. -/
lemma peekToLineEnds (h : Alongside shift s t) : t.cursor.peekKind .toLineEnds = s.cursor.peekKind .toLineEnds := by
  rw [peekKind_toLineEnds, peekKind_toLineEnds, h.tail.kindPast_line]

/-- Comments apart, a bracket comes next in both or in neither. -/
lemma peekToLayout (h : Alongside shift s t) {k : Token.Kind} (bracket : k ∈ [Token.Kind.leftBracket, .rightBracket]) :
    t.cursor.peekKind .toLayout = k ↔ s.cursor.peekKind .toLayout = k := by
  rw [peekKind_toLayout, peekKind_toLayout, h.tail.kindPast_bracket bracket]

/-- The next span past all trivia is the same. -/
lemma peekSpan (h : Alongside shift s t) : t.cursor.peekSpan = s.cursor.peekSpan := by
  rw [peekSpan_eq, peekSpan_eq, h.moved.token]

/-- All kinds ahead are the same, trivia apart. -/
lemma lookahead (h : Alongside shift s t) : t.cursor.lookahead = s.cursor.lookahead := by
  have kinds := h.tail.kinds
  have head := h.head
  simp only [State.pending] at kinds head
  unfold Cursor.lookahead
  split <;> split <;> simp_all

end Alongside

/-! ## Steady actions -/

/-- What one action does from a state another does from all states alongside, with a result that depends on that of
the first one. -/
def Parallel (shift : Nat) (f : α → α) (action other : Parser α) : Prop :=
  ∀ s t, Alongside shift s t → ∀ a s', Runs action s a s' → ∃ t', Runs other t (f a) t' ∧ Alongside shift s' t'

/-- What an action does from a state it does from all states alongside, with the same result. -/
def Steady (action : Parser α) : Prop :=
  ∀ shift, Parallel shift id action action

namespace Parallel

variable {f : α → α} {g : β → β} {action other : Parser β} {next next' : β → Parser α}

/-- Results on their own. -/
lemma pure {a b : α} (e : f a = b) : Parallel shift f (Pure.pure a) (Pure.pure b) := by
  intro s t h c s' run
  obtain ⟨rfl, rfl⟩ := run_pure.mp run
  exact ⟨t, run_pure.mpr ⟨e.symm, rfl⟩, h⟩

/-- Sequences of parallel actions. -/
lemma bind (h : Parallel shift g action other) (rest : ∀ b, Parallel shift f (next b) (next' (g b))) :
    Parallel shift f (action >>= next) (other >>= next') := by
  intro s t along a s' run
  obtain ⟨b, u, first, second⟩ := run_bind.mp run
  obtain ⟨v, first', along⟩ := h s t along b u first
  obtain ⟨t', second', along⟩ := rest b u v along a s' second
  exact ⟨t', run_bind.mpr ⟨g b, v, first', second'⟩, along⟩

/-- A handle is given out later. -/
lemma freshId (shift : Nat) : Parallel shift (NodeId.later shift) Grammar.freshId Grammar.freshId := by
  intro s t h a s' run
  obtain ⟨rfl, rfl⟩ := run_freshId.mp run
  exact ⟨_, run_freshId.mpr ⟨congrArg NodeId.mk h.nextId, rfl⟩, h.numbered⟩

end Parallel

namespace Steady

/-- A result on its own. -/
lemma pure (a : α) : Steady (Pure.pure a) :=
  fun _ => .pure rfl

/-- A sequence of steady actions. -/
lemma bind {action : Parser β} {next : β → Parser α} (h : Steady action) (rest : ∀ b, Steady (next b)) :
    Steady (action >>= next) :=
  fun shift => .bind (h shift) fun b => rest b shift

/-- Parallel actions behind a steady one. -/
lemma andThen {f : α → α} {action : Parser β} {next next' : β → Parser α} (h : Steady action)
    (rest : ∀ b, Parallel shift f (next b) (next' b)) : Parallel shift f (action >>= next) (action >>= next') :=
  .bind (h shift) rest

/-- Dropping the result. -/
lemma discard {action : Parser α} (h : Steady action) : Steady (Functor.discard action) := by
  intro shift s t along a s' run
  obtain ⟨b, inner⟩ := run_discard.mp run
  obtain ⟨t', inner', along⟩ := h shift s t along b s' inner
  exact ⟨t', run_discard.mpr ⟨b, inner'⟩, along⟩

lemma kind : Steady Grammar.kind := by
  intro _ s t h a s' run
  obtain ⟨rfl, rfl⟩ := run_kind.mp run
  exact ⟨t, run_kind.mpr ⟨congrArg Token.kind h.token, rfl⟩, h⟩

lemma span : Steady Grammar.span := by
  intro _ s t h a s' run
  obtain ⟨rfl, rfl⟩ := run_span.mp run
  exact ⟨t, run_span.mpr ⟨congrArg Token.span h.token, rfl⟩, h⟩

lemma standsOn (k : Token.Kind) : Steady (Grammar.standsOn k) :=
  .bind .kind fun _ => .pure _

lemma peek : Steady Grammar.peek := by
  intro _ s t h a s' run
  obtain ⟨rfl, rfl⟩ := run_peek.mp run
  exact ⟨t, run_peek.mpr ⟨h.peek, rfl⟩, h⟩

lemma peekToLineEnds : Steady (peekWith .toLineEnds) := by
  intro _ s t h a s' run
  obtain ⟨rfl, rfl⟩ := run_peekWith.mp run
  exact ⟨t, run_peekWith.mpr ⟨h.peekToLineEnds, rfl⟩, h⟩

lemma peekSpan : Steady Grammar.peekSpan := by
  intro _ s t h a s' run
  obtain ⟨rfl, rfl⟩ := run_peekSpan.mp run
  exact ⟨t, run_peekSpan.mpr ⟨h.peekSpan, rfl⟩, h⟩

lemma genericCallAhead : Steady Grammar.genericCallAhead := by
  intro _ s t h a s' run
  obtain ⟨rfl, rfl⟩ := run_genericCallAhead.mp run
  exact ⟨t, run_genericCallAhead.mpr ⟨congrArg typeArgumentsBeforeCall h.lookahead, rfl⟩, h⟩

lemma tryAdvance : Steady Grammar.tryAdvance := by
  intro _ s t h a s' run
  obtain ⟨rfl, rfl⟩ := run_tryAdvance.mp run
  exact ⟨_, run_tryAdvance.mpr ⟨decide_eq_decide.mpr h.more, rfl⟩, h.moved⟩

lemma advance : Steady Grammar.advance :=
  tryAdvance.discard

lemma reportAt (problem : SyntaxProblem) (x : Span) : Steady (Grammar.reportAt problem x) := by
  intro _ s t h a s' run
  obtain rfl := run_reportAt.mp run
  exact ⟨_, run_reportAt.mpr rfl, h.noted problem x⟩

lemma report (problem : SyntaxProblem) : Steady (Grammar.report problem) :=
  .bind .span fun _ => .reportAt _ _

lemma expect (k : Token.Kind) (problem : SyntaxProblem) : Steady (Grammar.expect k problem) := by
  refine .bind (.standsOn k) fun there => ?_
  split
  · exact .pure ()
  · exact .report problem

lemma closeWith (k : Token.Kind) (problem : SyntaxProblem) : Steady (Grammar.closeWith k problem) := by
  refine .bind .peek fun next => ?_
  simp only
  split
  · exact .bind .advance fun _ => .span
  · exact .bind .peekSpan fun _ => .bind (.reportAt _ _) fun _ => .span

/-! ### Brackets and ends of lines -/

/-- Moving onto a bracket if it comes next, comments apart. -/
lemma ontoBracket {k : Token.Kind} (bracket : k ∈ [Token.Kind.leftBracket, .rightBracket]) {next other : Parser α}
    (h : Steady next) (g : Steady other) : Steady (do
      if (← peekWith .toLayout) = k then
        Functor.discard (advanceWith .toLayout)
        next
      else other) := by
  have look (u : State) : Runs (peekWith .toLayout) u (u.cursor.peekKind .toLayout) u :=
    run_peekWith.mpr ⟨rfl, rfl⟩
  have solid : k.isTrivia = false := by
    simp only [List.mem_cons, List.not_mem_nil, or_false] at bracket
    rcases bracket with rfl | rfl <;> rfl
  intro shift s t along a s' run
  obtain ⟨_, _, looked, run⟩ := run_bind.mp run
  obtain ⟨rfl, rfl⟩ := run_peekWith.mp looked
  by_cases there : s.cursor.peekKind .toLayout = k
  · have there' := (along.peekToLayout bracket).mpr there
    rw [if_pos there] at run
    simp only [run_bind, run_discard, run_advanceWith] at run
    obtain ⟨_, _, ⟨_, _, rfl⟩, run⟩ := run
    -- As a bracket is no trivia, the move past comments is the move past all trivia.
    rw [moved_of_solid (by rw [there, solid])] at run
    obtain ⟨t', run', along⟩ := h _ _ _ along.moved _ _ run
    rw [← moved_of_solid (by rw [there', solid])] at run'
    refine ⟨t', run_bind.mpr ⟨_, _, look t, ?_⟩, along⟩
    rw [if_pos there']
    simp only [run_bind, run_discard, run_advanceWith]
    exact ⟨(), _, ⟨_, rfl, rfl⟩, run'⟩
  · have there' := mt (along.peekToLayout bracket).mp there
    rw [if_neg there] at run
    obtain ⟨t', run', along⟩ := g _ _ _ along _ _ run
    refine ⟨t', run_bind.mpr ⟨_, _, look t, ?_⟩, along⟩
    rwa [if_neg there']

lemma arrayBrackets : Steady Grammar.arrayBrackets := by
  unfold Grammar.arrayBrackets
  exact .ontoBracket (by simp) (.ontoBracket (by simp) (.pure true) (.bind (.report _) fun _ => .pure true))
    (.pure false)

/-- Where a line end comes next, a statement is finished by going past all trivia. -/
lemma run_finishStatement (line : s.cursor.peekKind .toLineEnds = .endOfLine) :
    Runs Grammar.finishStatement s () (s.moved .insensitive) := by
  simp only [Grammar.finishStatement, run_bind, run_discard, run_advanceWith, run_kind]
  refine ⟨(), _, ⟨_, rfl, rfl⟩, _, _, ⟨kind_moved .., rfl⟩, ?_⟩
  rw [line]
  exact run_advance.mpr (moved_of_trivia (by rw [line]; rfl))

/-- The line end that a statement ends with may be another one in the other state, but is left in both. -/
lemma finishStatement : Steady Grammar.finishStatement := by
  have ends : Steady leaveLine := by
    unfold leaveLine
    refine .bind .kind fun k => ?_
    split
    · exact .advance
    · exact .pure ()
    · exact .pure ()
    · exact .report _
  intro shift s t along a s' run
  have peek := along.peekToLineEnds
  -- With a line end ahead both runs go past all trivia; otherwise the token that comes next is the same.
  by_cases line : s.cursor.peekKind .toLineEnds = .endOfLine
  · obtain ⟨rfl, rfl⟩ := Prod.mk.inj ((run_finishStatement line).symm.trans run)
    exact ⟨_, run_finishStatement (peek.trans line), along.moved⟩
  · have solid := isTrivia_of_no_line line
    have move : Runs (Functor.discard (advanceWith .toLineEnds)) t () (t.moved .toLineEnds) :=
      run_discard.mpr ⟨_, run_advanceWith.mpr ⟨rfl, rfl⟩⟩
    obtain ⟨_, _, moved, run⟩ := run_bind.mp run
    obtain ⟨_, moved⟩ := run_discard.mp moved
    obtain ⟨-, rfl⟩ := run_advanceWith.mp moved
    rw [moved_of_solid solid] at run
    obtain ⟨t', run', along⟩ := ends _ _ _ along.moved _ _ run
    rw [← moved_of_solid (peek ▸ solid)] at run'
    exact ⟨t', run_bind.mpr ⟨_, _, move, run'⟩, along⟩

end Steady

end ArrowScript.Grammar
