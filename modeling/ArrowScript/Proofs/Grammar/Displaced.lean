import ArrowScript.Proofs.Grammar.Local
import ArrowScript.Proofs.Grammar.Respanning

/-!
# Parsing displaced tokens

The parser looks at the kinds of tokens alone and hands their spans on. So it does the same with tokens of the same
kinds at other spans, and all spans that it hands on are the other ones. It never hands on the span of trivia: every
move ends on a token that is no trivia, apart from the brackets of an array and the end of a statement, which are taken
as a whole. So the spans of trivia may be anything.
-/

namespace ArrowScript

/-- A token is of the same kind and in the same file as another, and where the other has moved to unless they are
trivia. -/
structure Token.Displaced (move : Span → Span) (token other : Token) : Prop where
  kind : other.kind = token.kind
  file : other.span.file = token.span.file
  span : token.kind.isTrivia = false → other.span = move token.span

namespace Grammar

/-- Two states differ in the spans of tokens, and the current one is no trivia. -/
structure Displaced (move : Span → Span) (s t : State) : Prop where
  tokens : List.Forall₂ (Token.Displaced move) s.pending t.pending
  solid : s.token.kind.isTrivia = false
  closing : t.cursor.closing = move s.cursor.closing
  nextId : t.nextId = s.nextId
  findings : t.findings = s.findings.map (Finding.relocate move)

variable {α β γ δ : Type} {move : Span → Span} {s t : State}

/-- Displaced tokens are of the same kinds. -/
lemma map_kind_displaced {tokens others : List Token} (h : List.Forall₂ (Token.Displaced move) tokens others) :
    others.map Token.kind = tokens.map Token.kind := by
  induction h with
  | nil => rfl
  | cons first _ ih => rw [List.map_cons, List.map_cons, first.kind, ih]

/-- Displaced tokens are skipped alike. -/
lemma dropWhile_displaced {tokens others : List Token} (h : List.Forall₂ (Token.Displaced move) tokens others)
    (skips : Token.Kind → Bool) : List.Forall₂ (Token.Displaced move)
      (tokens.dropWhile fun token => skips token.kind) (others.dropWhile fun token => skips token.kind) := by
  induction h with
  | nil => exact .nil
  | @cons token other _ _ first rest ih =>
    rw [List.dropWhile_cons, List.dropWhile_cons, first.kind]
    split
    · exact ih
    · exact .cons first rest

/-- The next kind depends on the kinds of the pending tokens. -/
lemma peekKind_congr (kinds : t.pending.map Token.kind = s.pending.map Token.kind) (sensitivity : Sensitivity) :
    t.cursor.peekKind sensitivity = s.cursor.peekKind sensitivity := by
  have skips (k : Token.Kind) : sensitivity.skips k =
      decide (k ∈ [Token.Kind.comment, .whitespace, .endOfLine].filter sensitivity.skips) := by
    cases k <;> simp [Sensitivity.skips]
  rw [peekKind_eq skips, peekKind_eq skips, Token.kindPast, Token.kindPast, List.map_tail, List.map_tail, kinds]

namespace Displaced

/-- The pending tokens are of the same kinds. -/
lemma kinds (h : Displaced move s t) : t.pending.map Token.kind = s.pending.map Token.kind :=
  map_kind_displaced h.tokens

/-- The current token is where it has moved to. -/
lemma token (h : Displaced move s t) : t.token = ⟨s.token.kind, move s.token.span⟩ := by
  obtain ⟨tokens, solid, closing, -, -⟩ := h
  unfold State.pending at tokens
  unfold State.token Cursor.current Cursor.closingToken at solid ⊢
  revert tokens solid
  rcases s.cursor.pending with _ | ⟨token, rest⟩ <;> rintro tokens solid
  · rw [List.forall₂_nil_left_iff.mp tokens]
    exact congrArg (Token.mk _) closing
  · obtain ⟨other, others, first, -, e⟩ := List.forall₂_cons_left_iff.mp tokens
    rw [e]
    exact Token.mk.injEq .. ▸ ⟨first.kind, first.span solid⟩

/-- There is a token to move off in both or in neither. -/
lemma more (h : Displaced move s t) : t.pending ≠ [] ↔ s.pending ≠ [] := by
  have length := congrArg List.length h.kinds
  rw [List.length_map, List.length_map] at length
  rw [← List.length_pos_iff, ← List.length_pos_iff, length]

/-- A move past all trivia leads to displaced tokens. -/
lemma moved (h : Displaced move s t) : Displaced move (s.moved .insensitive) (t.moved .insensitive) := by
  have rest := List.forall₂_drop 1 h.tokens
  rw [List.drop_one, List.drop_one] at rest
  refine ⟨?_, ?_, ?_, ?_, ?_⟩
  · rw [pending_moved, pending_moved]
    exact dropWhile_displaced rest _
  · rw [kind_moved]
    exact isTrivia_peek s
  · rw [(frame_moved .insensitive s).1, (frame_moved .insensitive t).1, h.closing]
  · rw [(frame_moved .insensitive s).2.2, (frame_moved .insensitive t).2.2, h.nextId]
  · rw [(frame_moved .insensitive s).2.1, (frame_moved .insensitive t).2.1, h.findings]

/-- Noting a problem. -/
lemma noted (h : Displaced move s t) (problem : SyntaxProblem) (x : Span) :
    Displaced move (s.noted problem x) (t.noted problem (move x)) :=
  ⟨h.tokens, h.solid, h.closing, h.nextId, by simp only [State.noted, h.findings, Array.map_push]; rfl⟩

/-- Giving out a handle. -/
lemma numbered (h : Displaced move s t) : Displaced move s.numbered t.numbered :=
  ⟨h.tokens, h.solid, h.closing, congrArg (· + 1) h.nextId, h.findings⟩

/-- The next span past all trivia is where it has moved to. -/
lemma peekSpan (h : Displaced move s t) : t.cursor.peekSpan = move s.cursor.peekSpan := by
  rw [peekSpan_eq, peekSpan_eq, h.moved.token]

/-- All kinds ahead are the same. -/
lemma lookahead (h : Displaced move s t) : t.cursor.lookahead = s.cursor.lookahead := by
  have kinds := h.kinds
  unfold State.pending at kinds
  unfold Cursor.lookahead
  split <;> split <;> simp_all

end Displaced

/-! ## Displacing actions -/

/-- What one action does with some tokens another does with displaced ones, with a result that depends on that of the
first. -/
def Displaces (move : Span → Span) (f : α → β) (action : Parser α) (other : Parser β) : Prop :=
  ∀ s t, Displaced move s t → ∀ a s', Runs action s a s' → ∃ t', Runs other t (f a) t' ∧ Displaced move s' t'

namespace Displaces

variable {f : α → β} {g : γ → δ} {action : Parser γ} {other : Parser δ}

/-- Results on their own. -/
lemma pure {a : α} {b : β} (e : b = f a) : Displaces move f (Pure.pure a) (Pure.pure b) := by
  intro s t h c s' run
  obtain ⟨rfl, rfl⟩ := run_pure.mp run
  exact ⟨t, run_pure.mpr ⟨e, rfl⟩, h⟩

/-- Sequences of actions. -/
lemma bind {next : γ → Parser α} {next' : δ → Parser β} (h : Displaces move g action other)
    (rest : ∀ c, Displaces move f (next c) (next' (g c))) : Displaces move f (action >>= next) (other >>= next') := by
  intro s t displaced a s' run
  obtain ⟨c, u, first, second⟩ := run_bind.mp run
  obtain ⟨v, first', displaced⟩ := h s t displaced c u first
  obtain ⟨t', second', displaced⟩ := rest c u v displaced a s' second
  exact ⟨t', run_bind.mpr ⟨g c, v, first', second'⟩, displaced⟩

/-- Sequences that begin with actions of the same result. -/
lemma andThen {action other : Parser γ} {next : γ → Parser α} {next' : γ → Parser β}
    (h : Displaces move id action other) (rest : ∀ c, Displaces move f (next c) (next' c)) :
    Displaces move f (action >>= next) (other >>= next') :=
  bind h rest

/-- Dropping the result. -/
lemma discard (h : Displaces move g action other) :
    Displaces move id (Functor.discard action) (Functor.discard other) := by
  intro s t displaced a s' run
  obtain ⟨c, inner⟩ := run_discard.mp run
  obtain ⟨t', inner', displaced⟩ := h s t displaced c s' inner
  exact ⟨t', run_discard.mpr ⟨g c, inner'⟩, displaced⟩

lemma kind : Displaces move id Grammar.kind Grammar.kind := by
  intro s t h a s' run
  obtain ⟨rfl, rfl⟩ := run_kind.mp run
  exact ⟨t, run_kind.mpr ⟨by rw [h.token, id], rfl⟩, h⟩

lemma span : Displaces move move Grammar.span Grammar.span := by
  intro s t h a s' run
  obtain ⟨rfl, rfl⟩ := run_span.mp run
  exact ⟨t, run_span.mpr ⟨congrArg Token.span h.token, rfl⟩, h⟩

lemma standsOn (k : Token.Kind) : Displaces move id (Grammar.standsOn k) (Grammar.standsOn k) :=
  .andThen .kind fun _ => .pure rfl

lemma peekWith (sensitivity : Sensitivity) :
    Displaces move id (Grammar.peekWith sensitivity) (Grammar.peekWith sensitivity) := by
  intro s t h a s' run
  obtain ⟨rfl, rfl⟩ := run_peekWith.mp run
  exact ⟨t, run_peekWith.mpr ⟨peekKind_congr h.kinds sensitivity, rfl⟩, h⟩

lemma peek : Displaces move id Grammar.peek Grammar.peek :=
  peekWith .insensitive

lemma peekSpan : Displaces move move Grammar.peekSpan Grammar.peekSpan := by
  intro s t h a s' run
  obtain ⟨rfl, rfl⟩ := run_peekSpan.mp run
  exact ⟨t, run_peekSpan.mpr ⟨h.peekSpan, rfl⟩, h⟩

lemma genericCallAhead : Displaces move id Grammar.genericCallAhead Grammar.genericCallAhead := by
  intro s t h a s' run
  obtain ⟨rfl, rfl⟩ := run_genericCallAhead.mp run
  exact ⟨t, run_genericCallAhead.mpr ⟨congrArg typeArgumentsBeforeCall h.lookahead, rfl⟩, h⟩

lemma tryAdvance : Displaces move id Grammar.tryAdvance Grammar.tryAdvance := by
  intro s t h a s' run
  obtain ⟨rfl, rfl⟩ := run_tryAdvance.mp run
  exact ⟨_, run_tryAdvance.mpr ⟨decide_eq_decide.mpr h.more, rfl⟩, h.moved⟩

lemma advance : Displaces move id Grammar.advance Grammar.advance :=
  tryAdvance.discard

lemma freshId : Displaces move id Grammar.freshId Grammar.freshId := by
  intro s t h a s' run
  obtain ⟨rfl, rfl⟩ := run_freshId.mp run
  exact ⟨_, run_freshId.mpr ⟨congrArg NodeId.mk h.nextId, rfl⟩, h.numbered⟩

lemma reportAt (problem : SyntaxProblem) (x : Span) :
    Displaces move id (Grammar.reportAt problem x) (Grammar.reportAt problem (move x)) := by
  intro s t h a s' run
  obtain rfl := run_reportAt.mp run
  exact ⟨_, run_reportAt.mpr rfl, h.noted problem x⟩

lemma report (problem : SyntaxProblem) : Displaces move id (Grammar.report problem) (Grammar.report problem) :=
  .bind .span fun _ => .reportAt problem _

lemma expect (k : Token.Kind) (problem : SyntaxProblem) :
    Displaces move id (Grammar.expect k problem) (Grammar.expect k problem) := by
  refine .andThen (.standsOn k) fun there => ?_
  split
  · exact .pure rfl
  · exact .report problem

lemma closeWith (k : Token.Kind) (problem : SyntaxProblem) :
    Displaces move move (Grammar.closeWith k problem) (Grammar.closeWith k problem) := by
  refine .andThen .peek fun next => ?_
  simp only
  split
  · exact .andThen .advance fun _ => .span
  · exact .bind .peekSpan fun _ => .andThen (.reportAt problem _) fun _ => .span

/-! ### Brackets and ends of lines -/

/-- Moving onto a token that is no trivia. -/
lemma onto {sensitivity : Sensitivity} {k : Token.Kind} (solid : k.isTrivia = false) {next other : Parser α}
    {next' other' : Parser β} (h : Displaces move f next next') (g : Displaces move f other other') :
    Displaces move f (do
      if (← Grammar.peekWith sensitivity) = k then
        Functor.discard (advanceWith sensitivity)
        next
      else other) (do
      if (← Grammar.peekWith sensitivity) = k then
        Functor.discard (advanceWith sensitivity)
        next'
      else other') := by
  intro s t displaced a s' run
  have peek := peekKind_congr displaced.kinds sensitivity
  have look : Runs (Grammar.peekWith sensitivity) t (s.cursor.peekKind sensitivity) t := run_peekWith.mpr ⟨peek, rfl⟩
  obtain ⟨_, _, looked, run⟩ := run_bind.mp run
  obtain ⟨rfl, rfl⟩ := run_peekWith.mp looked
  by_cases there : s.cursor.peekKind sensitivity = k
  · rw [if_pos there] at run
    simp only [run_bind, run_discard, run_advanceWith] at run
    obtain ⟨_, _, ⟨_, _, rfl⟩, run⟩ := run
    -- The move to a token that is no trivia is the move past all trivia.
    rw [moved_of_solid (by rw [there, solid])] at run
    obtain ⟨t', run', displaced⟩ := h _ _ displaced.moved _ _ run
    rw [← moved_of_solid (by rw [peek, there, solid])] at run'
    refine ⟨t', run_bind.mpr ⟨_, _, look, ?_⟩, displaced⟩
    rw [if_pos there]
    simp only [run_bind, run_discard, run_advanceWith]
    exact ⟨(), _, ⟨_, rfl, rfl⟩, run'⟩
  · rw [if_neg there] at run
    obtain ⟨t', run', displaced⟩ := g _ _ displaced _ _ run
    refine ⟨t', run_bind.mpr ⟨_, _, look, ?_⟩, displaced⟩
    rwa [if_neg there]

lemma arrayBrackets : Displaces move id Grammar.arrayBrackets Grammar.arrayBrackets := by
  unfold Grammar.arrayBrackets
  exact .onto rfl (.onto rfl (.pure rfl) (.andThen (.report _) fun _ => .pure rfl)) (.pure rfl)

lemma finishStatement : Displaces move id Grammar.finishStatement Grammar.finishStatement := by
  have ends : Displaces move id leaveLine leaveLine := by
    unfold leaveLine
    refine .andThen .kind fun k => ?_
    split
    · exact .advance
    · exact .pure rfl
    · exact .pure rfl
    · exact .report _
  intro s t displaced a s' run
  have peek := peekKind_congr displaced.kinds .toLineEnds
  -- With a line end ahead both runs go past all trivia; otherwise what comes next is no trivia.
  by_cases line : s.cursor.peekKind .toLineEnds = .endOfLine
  · obtain ⟨rfl, rfl⟩ := Prod.mk.inj ((Steady.run_finishStatement line).symm.trans run)
    exact ⟨_, Steady.run_finishStatement (peek.trans line), displaced.moved⟩
  · have solid := isTrivia_of_no_line line
    have move' : Runs (Functor.discard (advanceWith .toLineEnds)) t () (t.moved .toLineEnds) :=
      run_discard.mpr ⟨_, run_advanceWith.mpr ⟨rfl, rfl⟩⟩
    obtain ⟨_, _, moved, run⟩ := run_bind.mp run
    obtain ⟨_, moved⟩ := run_discard.mp moved
    obtain ⟨-, rfl⟩ := run_advanceWith.mp moved
    rw [moved_of_solid solid] at run
    obtain ⟨t', run', displaced⟩ := ends _ _ displaced.moved _ _ run
    rw [← moved_of_solid (peek ▸ solid)] at run'
    exact ⟨t', run_bind.mpr ⟨_, _, move', run'⟩, displaced⟩

end Displaces

end Grammar

end ArrowScript
