import ArrowScript.Proofs.Grammar.Steady

/-!
# Parsing with more text behind

A state prolongs another one if it has the same tokens left and more behind them: a text that begins as a statement
can, behind a line end. An action is local if a run of it that reports nothing and does not use up the tokens can be
made with more text behind, too, with the same result and to a state that prolongs. Looking for the next kind is the
only step that can tell the difference: past the last line end it finds the end of file or the beginning of the other
text, so what is done has to be the same for both. What is local only if the run ends in a certain way has an ending.
-/

namespace ArrowScript.Grammar

open Token (kindPast)

variable {α β : Type} {s t : State} {more : List Token} {n : Nat}

/-- Kinds that a statement can begin with and no statement can go on with, and the end of file. -/
def opensStatement : Token.Kind → Bool
  | .endOfFile | .identifier | .kwType | .kwFunction | .kwReturn | .kwBreak | .kwContinue | .kwWhile | .kwIf
  | .kwImport | .kwPath => true
  | _ => false

/-- Past all trivia. -/
lemma peekKind_pastTrivia (s : State) :
    s.cursor.peekKind .insensitive = kindPast [.comment, .whitespace, .endOfLine] s.pending.tail :=
  peekKind_eq (fun k => by cases k <;> rfl) s

/-- What comes next past all trivia is no trivia. -/
lemma isTrivia_peek (s : State) : (s.cursor.peekKind .insensitive).isTrivia = false := by
  have stop := Token.kindPast_notMem (show Token.Kind.endOfFile ∉ [.comment, .whitespace, .endOfLine] by simp)
    s.pending.tail
  rw [← peekKind_pastTrivia] at stop
  revert stop
  cases s.cursor.peekKind .insensitive <;> simp [Token.Kind.isTrivia]

/-- What comes first past some kinds in a list is what comes first past them when the list goes on. -/
lemma kindPast_append {passed : List Token.Kind} {tokens : List Token} (stop : ∃ token ∈ tokens, token.kind ∉ passed)
    (more : List Token) : kindPast passed (tokens ++ more) = kindPast passed tokens := by
  obtain ⟨token, mem, stop⟩ := stop
  have found : ((tokens.map Token.kind).find? (· ∉ passed)).isSome :=
    List.find?_isSome.mpr ⟨token.kind, List.mem_map_of_mem mem, decide_eq_true stop⟩
  rw [kindPast, kindPast, List.map_append, List.find?_append, Option.or_of_isSome found]

/-- If all that a list has is passed, what comes first is what comes behind it. -/
lemma kindPast_append_passed {passed : List Token.Kind} {tokens : List Token}
    (all : ∀ token ∈ tokens, token.kind ∈ passed) (more : List Token) :
    kindPast passed (tokens ++ more) = kindPast passed more := by
  have nothing : (tokens.map Token.kind).find? (· ∉ passed) = none := by
    rw [List.find?_eq_none]
    intro k mem
    obtain ⟨token, there, rfl⟩ := List.mem_map.mp mem
    simpa using all token there
  rw [kindPast, kindPast, List.map_append, List.find?_append, nothing, Option.none_or]

/-! ## More text behind -/

/-- Nothing was reported and there are tokens left. -/
structure State.Fine (s : State) : Prop where
  clean : s.Clean
  some : s.pending ≠ []

/-- A state has the same tokens left as another, which ends with its line, and more behind them. -/
structure Prolongs (more : List Token) (s t : State) : Prop where
  opens : opensStatement (kindPast [.comment, .whitespace, .endOfLine] more)
  clean : s.Clean
  solid : s.token.kind.isTrivia = false
  line : s.pending.getLast?.map Token.kind = some .endOfLine
  pending : t.pending = s.pending ++ more
  nextId : t.nextId = s.nextId
  findings : t.findings = s.findings

/-- A later part of some tokens that is not empty ends as they do. -/
lemma getLast?_of_suffix {tokens later : List Token} (suffix : later <:+ tokens) (some : later ≠ []) :
    later.getLast? = tokens.getLast? := by
  obtain ⟨front, rfl⟩ := suffix
  rw [List.getLast?_append_of_ne_nil _ some]

namespace Prolongs

lemma some (h : Prolongs more s t) : s.pending ≠ [] := by
  intro none
  have line := h.line
  rw [none] at line
  cases line

/-- Both stand on the same token. -/
lemma token (h : Prolongs more s t) : t.token = s.token := by
  have pending := h.pending
  cases e : s.cursor.pending with
  | nil => exact absurd e h.some
  | cons token rest =>
    simp only [State.pending, e, List.cons_append] at pending
    simp only [State.token, Cursor.current, pending, e, List.headD_cons]

lemma tail (h : Prolongs more s t) : t.pending.tail = s.pending.tail ++ more := by
  rw [h.pending, List.tail_append_of_ne_nil h.some]

/-- The line ends behind the current token. -/
lemma line_tail (h : Prolongs more s t) : s.pending.tail.getLast?.map Token.kind = .some .endOfLine := by
  have line := h.line
  have solid := h.solid
  cases e : s.cursor.pending with
  | nil => exact absurd e h.some
  | cons token rest =>
    simp only [State.token, Cursor.current, e, List.headD_cons] at solid
    simp only [State.pending, e, List.tail_cons] at line ⊢
    cases rest with
    | nil =>
      -- The current token is no trivia, so it is not the line end.
      rw [List.getLast?_singleton, Option.map_some, Option.some.injEq] at line
      rw [line] at solid
      cases solid
    | cons next rest => rwa [List.getLast?_cons_cons] at line

/-- There is a line end behind the current token. -/
lemma exists_line (h : Prolongs more s t) : ∃ token ∈ s.pending.tail, token.kind = .endOfLine := by
  obtain ⟨token, last, kind⟩ := Option.map_eq_some_iff.mp h.line_tail
  exact ⟨token, List.mem_of_getLast? last, kind⟩

/-- Up to a line end the same kind comes next. -/
lemma peekToLineEnds (h : Prolongs more s t) : t.cursor.peekKind .toLineEnds = s.cursor.peekKind .toLineEnds := by
  obtain ⟨token, mem, kind⟩ := h.exists_line
  rw [peekKind_toLineEnds, peekKind_toLineEnds, h.tail]
  exact kindPast_append ⟨token, mem, by simp [kind]⟩ more

/-- Comments apart, the same kind comes next. -/
lemma peekToLayout (h : Prolongs more s t) : t.cursor.peekKind .toLayout = s.cursor.peekKind .toLayout := by
  obtain ⟨token, mem, kind⟩ := h.exists_line
  rw [peekKind_toLayout, peekKind_toLayout, h.tail]
  exact kindPast_append ⟨token, mem, by simp [kind]⟩ more

/-- Past all trivia the same kind comes next, or the end of file and the beginning of the other text. -/
lemma peek (h : Prolongs more s t) : t.cursor.peekKind .insensitive = s.cursor.peekKind .insensitive ∨
    s.cursor.peekKind .insensitive = .endOfFile ∧ opensStatement (t.cursor.peekKind .insensitive) := by
  rw [peekKind_pastTrivia, peekKind_pastTrivia, h.tail]
  by_cases stop : ∃ token ∈ s.pending.tail, token.kind ∉ [Token.Kind.comment, .whitespace, .endOfLine]
  · exact .inl (kindPast_append stop more)
  · have all : ∀ token ∈ s.pending.tail, token.kind ∈ [Token.Kind.comment, .whitespace, .endOfLine] :=
      fun token mem => not_not.mp fun other => stop ⟨token, mem, other⟩
    have file := kindPast_append_passed all []
    rw [List.append_nil] at file
    rw [kindPast_append_passed all more]
    exact .inr ⟨file, h.opens⟩

/-- Giving out a handle. -/
lemma numbered (h : Prolongs more s t) : Prolongs more s.numbered t.numbered :=
  { h with nextId := congrArg (· + 1) h.nextId }

/-- A move that does not use up the tokens leads to the same token. -/
lemma moved (h : Prolongs more s t) (some : (s.moved .insensitive).pending ≠ []) :
    Prolongs more (s.moved .insensitive) (t.moved .insensitive) := by
  have kept : s.pending.tail.dropWhile (fun token => Sensitivity.insensitive.skips token.kind) ≠ [] :=
    pending_moved .insensitive s ▸ some
  refine ⟨h.opens, ?_, ?_, ?_, ?_, ?_, ?_⟩
  · rw [State.Clean, (frame_moved .insensitive s).2.1]
    exact h.clean
  · rw [kind_moved]
    exact isTrivia_peek s
  · rw [getLast?_of_suffix (pending_moved_suffix .insensitive s) some]
    exact h.line
  · rw [pending_moved, pending_moved, h.tail, List.dropWhile_append, if_neg (by simpa using kept)]
  · rw [(frame_moved .insensitive s).2.2, (frame_moved .insensitive t).2.2, h.nextId]
  · rw [(frame_moved .insensitive s).2.1, (frame_moved .insensitive t).2.1, h.findings]

end Prolongs

/-! ## Local actions -/

/-- How any run may end. -/
abbrev Anyhow : α → State → Prop :=
  fun _ _ => True

/-- An action goes on only from where nothing was reported and tokens are left, and never brings tokens back. With
fewer tokens left than a number, a run that ends in a certain way can be made with more text behind. -/
structure Local (more : List Token) (n : Nat) (Ends : α → State → Prop) (action : Parser α) : Prop where
  back : ∀ s a s', Runs action s a s' → s'.Fine → s.Fine ∧ s'.pending.length ≤ s.pending.length
  prolongs : ∀ s t, Prolongs more s t → s.pending.length < n → ∀ a s', Runs action s a s' → s'.Fine → Ends a s' →
    ∃ t', Runs action t a t' ∧ Prolongs more s' t'

/-- There is something to move off in front of what is left. -/
lemma State.Fine.of_moved {sensitivity : Sensitivity} (h : (s.moved sensitivity).Fine) : s.Fine where
  clean := by
    have clean := h.clean
    rwa [State.Clean, (frame_moved sensitivity s).2.1] at clean
  some := fun none => h.some (by rw [pending_moved, none]; rfl)

/-- A move does not bring tokens back. -/
lemma length_moved_le (sensitivity : Sensitivity) (s : State) :
    (s.moved sensitivity).pending.length ≤ s.pending.length :=
  (pending_moved_suffix sensitivity s).length_le

namespace Local

variable {Ends : α → State → Prop}

/-- Fewer runs are asked for. -/
lemma fewer {m : Nat} {action : Parser α} (h : Local more m Ends action) (le : n ≤ m) : Local more n Ends action where
  back := h.back
  prolongs s t along enough := h.prolongs s t along (Nat.lt_of_lt_of_le enough le)

/-- A result on its own. -/
lemma pure (a : α) : Local more n Ends (Pure.pure a) where
  back s b s' run fine := by
    obtain ⟨rfl, rfl⟩ := run_pure.mp run
    exact ⟨fine, Nat.le_refl _⟩
  prolongs s t h _ b s' run _ _ := by
    obtain ⟨rfl, rfl⟩ := run_pure.mp run
    exact ⟨t, run_pure.mpr ⟨rfl, rfl⟩, h⟩

/-- A sequence whose first part has to end in a certain way, as it does if the rest is to end as it should. -/
lemma bindEnding {First : β → State → Prop} {action : Parser β} {next : β → Parser α} (h : Local more n First action)
    (rest : ∀ b, Local more n Ends (next b))
    (ends : ∀ b u a s', u.pending.length < n → Runs (next b) u a s' → s'.Fine → Ends a s' → First b u) :
    Local more n Ends (action >>= next) where
  back s a s' run fine := by
    obtain ⟨b, u, first, second⟩ := run_bind.mp run
    obtain ⟨fine, le⟩ := (rest b).back u a s' second fine
    obtain ⟨fine, le'⟩ := h.back s b u first fine
    exact ⟨fine, Nat.le_trans le le'⟩
  prolongs s t along enough a s' run fine good := by
    obtain ⟨b, u, first, second⟩ := run_bind.mp run
    obtain ⟨fine', -⟩ := (rest b).back u a s' second fine
    have enough' := Nat.lt_of_le_of_lt (h.back s b u first fine').2 enough
    obtain ⟨v, first', along⟩ := h.prolongs s t along enough b u first fine' (ends b u a s' enough' second fine good)
    obtain ⟨t', second', along⟩ := (rest b).prolongs u v along enough' a s' second fine good
    exact ⟨t', run_bind.mpr ⟨b, v, first', second'⟩, along⟩

/-- A sequence whose first part may end anyhow. -/
lemma bind {action : Parser β} {next : β → Parser α} (h : Local more n Anyhow action)
    (rest : ∀ b, Local more n Ends (next b)) : Local more n Ends (action >>= next) :=
  .bindEnding h rest fun _ _ _ _ _ _ _ _ => trivial

/-- A result that is made of another one. -/
lemma map {First : β → State → Prop} {action : Parser β} (h : Local more n First action) (f : β → α)
    (ends : ∀ b u, Ends (f b) u → First b u) : Local more n Ends (do return f (← action)) := by
  refine .bindEnding h (fun b => .pure (f b)) fun b u a s' _ run _ good => ?_
  obtain ⟨rfl, rfl⟩ := run_pure.mp run
  exact ends b u good

/-- Dropping the result. -/
lemma discard {action : Parser α} (h : Local more n Anyhow action) : Local more n Anyhow (Functor.discard action) where
  back s _ s' run fine := by
    obtain ⟨a, inner⟩ := run_discard.mp run
    exact h.back s a s' inner fine
  prolongs s t along enough _ s' run fine _ := by
    obtain ⟨a, inner⟩ := run_discard.mp run
    obtain ⟨t', inner', along⟩ := h.prolongs s t along enough a s' inner fine trivial
    exact ⟨t', run_discard.mpr ⟨a, inner'⟩, along⟩

/-! ### Looking -/

lemma kind : Local more n Anyhow Grammar.kind where
  back s a s' run fine := by
    obtain ⟨rfl, rfl⟩ := run_kind.mp run
    exact ⟨fine, Nat.le_refl _⟩
  prolongs s t h _ a s' run _ _ := by
    obtain ⟨rfl, rfl⟩ := run_kind.mp run
    exact ⟨t, run_kind.mpr ⟨congrArg Token.kind h.token, rfl⟩, h⟩

lemma span : Local more n Anyhow Grammar.span where
  back s a s' run fine := by
    obtain ⟨rfl, rfl⟩ := run_span.mp run
    exact ⟨fine, Nat.le_refl _⟩
  prolongs s t h _ a s' run _ _ := by
    obtain ⟨rfl, rfl⟩ := run_span.mp run
    exact ⟨t, run_span.mpr ⟨congrArg Token.span h.token, rfl⟩, h⟩

lemma standsOn (k : Token.Kind) : Local more n Anyhow (Grammar.standsOn k) :=
  .bind .kind fun _ => .pure _

lemma peekToLineEnds : Local more n Anyhow (peekWith .toLineEnds) where
  back s a s' run fine := by
    obtain ⟨rfl, rfl⟩ := run_peekWith.mp run
    exact ⟨fine, Nat.le_refl _⟩
  prolongs s t h _ a s' run _ _ := by
    obtain ⟨rfl, rfl⟩ := run_peekWith.mp run
    exact ⟨t, run_peekWith.mpr ⟨h.peekToLineEnds, rfl⟩, h⟩

/-- What is done next may depend on the next kind as long as it is the same in front of the end of file and of
another text, unless it reports something or uses up the tokens. -/
lemma peek {next : Token.Kind → Parser α} (h : ∀ k, Local more n Ends (next k))
    (edge : ∀ k s a s', opensStatement k → Runs (next .endOfFile) s a s' → s'.Fine → next k = next .endOfFile) :
    Local more n Ends (Grammar.peek >>= next) where
  back s a s' run fine := by
    obtain ⟨_, _, looked, run⟩ := run_bind.mp run
    obtain ⟨rfl, rfl⟩ := run_peek.mp looked
    exact (h _).back s a s' run fine
  prolongs s t along enough a s' run fine ends := by
    obtain ⟨_, _, looked, run⟩ := run_bind.mp run
    obtain ⟨rfl, rfl⟩ := run_peek.mp looked
    obtain ⟨t', run', along'⟩ := (h _).prolongs s t along enough a s' run fine ends
    refine ⟨t', run_bind.mpr ⟨_, t, run_peek.mpr ⟨rfl, rfl⟩, ?_⟩, along'⟩
    rcases along.peek with same | ⟨file, opens⟩
    · rwa [same]
    · rw [file] at run run'
      rwa [edge _ s a s' opens run fine]

/-! ### Moving and noting -/

lemma tryAdvance : Local more n Anyhow Grammar.tryAdvance where
  back s a s' run fine := by
    obtain ⟨-, rfl⟩ := run_tryAdvance.mp run
    exact ⟨fine.of_moved, length_moved_le _ s⟩
  prolongs s t h _ a s' run fine _ := by
    obtain ⟨rfl, rfl⟩ := run_tryAdvance.mp run
    have some : t.pending ≠ [] := by
      rw [h.pending]
      exact List.append_ne_nil_of_left_ne_nil h.some more
    exact ⟨_, run_tryAdvance.mpr ⟨decide_eq_decide.mpr (iff_of_true some h.some), rfl⟩, h.moved fine.some⟩

lemma advance : Local more n Anyhow Grammar.advance :=
  tryAdvance.discard

/-- Behind a move fewer tokens are left. -/
lemma onward {next : Unit → Parser α} (h : ∀ u, Local more (n - 1) Ends (next u)) :
    Local more n Ends (Grammar.advance >>= next) where
  back s a s' run fine := by
    obtain ⟨u, _, moved, run⟩ := run_bind.mp run
    obtain rfl := run_advance.mp moved
    obtain ⟨fine, le⟩ := (h u).back _ _ _ run fine
    exact ⟨fine.of_moved, Nat.le_trans le (length_moved_le _ s)⟩
  prolongs s t along enough a s' run fine ends := by
    obtain ⟨u, _, moved, run⟩ := run_bind.mp run
    obtain rfl := run_advance.mp moved
    have there := along.moved ((h u).back _ _ _ run fine).1.some
    have enough' : (s.moved .insensitive).pending.length < n - 1 := by
      have less := length_moved .insensitive s
      have some := List.length_pos_iff.mpr there.some
      omega
    obtain ⟨t', run', along⟩ := (h u).prolongs _ _ there enough' a s' run fine ends
    exact ⟨t', run_bind.mpr ⟨u, _, run_advance.mpr rfl, run'⟩, along⟩

lemma freshId : Local more n Anyhow Grammar.freshId where
  back s a s' run fine := by
    obtain ⟨rfl, rfl⟩ := run_freshId.mp run
    exact ⟨⟨fine.clean, fine.some⟩, Nat.le_refl _⟩
  prolongs s t h _ a s' run _ _ := by
    obtain ⟨rfl, rfl⟩ := run_freshId.mp run
    exact ⟨_, run_freshId.mpr ⟨congrArg NodeId.mk h.nextId, rfl⟩, h.numbered⟩

/-- Where something was noted, something was reported. -/
lemma not_fine_noted {problem : SyntaxProblem} {x : Span} : ¬ (s.noted problem x).Fine :=
  fun fine => Reads.not_clean_noted problem x s fine.clean

/-- What never ends well is local. -/
lemma never {action : Parser α} (h : ∀ s a s', Runs action s a s' → ¬ s'.Fine) : Local more n Ends action where
  back s a s' run fine := absurd fine (h s a s' run)
  prolongs s _ _ _ a s' run fine _ := absurd fine (h s a s' run)

lemma report {Ends : Unit → State → Prop} (problem : SyntaxProblem) :
    Local more n Ends (Grammar.report problem) := by
  refine .never fun s a s' run => ?_
  obtain rfl := run_report.mp run
  exact not_fine_noted

/-- What is returned behind a report. -/
lemma not_fine_report {problem : SyntaxProblem} {a b : α} (run : Runs (do Grammar.report problem; return a) s b t) :
    ¬ t.Fine := by
  simp only [run_bind, run_report, run_pure] at run
  obtain ⟨_, _, rfl, -, rfl⟩ := run
  exact not_fine_noted

/-- What is returned behind a report of the token that comes next. -/
lemma not_fine_reportAhead {problem : SyntaxProblem} {a b : α}
    (run : Runs (do reportAt problem (← peekSpan); return a) s b t) : ¬ t.Fine := by
  simp only [run_bind, run_peekSpan, run_reportAt, run_pure] at run
  obtain ⟨_, _, ⟨rfl, rfl⟩, _, _, rfl, -, rfl⟩ := run
  exact not_fine_noted

/-- Noting a problem at the token that comes next. -/
lemma reportAhead {Other : α → State → Prop} {problem : SyntaxProblem} {next : Unit → Parser α}
    (h : ∀ u, Local more n Other (next u)) : Local more n Ends (do
      let x ← Grammar.peekSpan
      let u ← reportAt problem x
      next u) := by
  refine .never fun s a s' run fine => ?_
  simp only [run_bind, run_peekSpan, run_reportAt] at run
  obtain ⟨_, _, ⟨rfl, rfl⟩, u, _, rfl, run⟩ := run
  exact not_fine_noted ((h u).back _ _ _ run fine).1

lemma expect (k : Token.Kind) (problem : SyntaxProblem) : Local more n Anyhow (Grammar.expect k problem) := by
  refine .bind (.standsOn k) fun there => ?_
  split
  · exact .pure ()
  · exact .report problem

/-- A closing token has to be there, so what comes next is no other text. -/
lemma closeWith {k : Token.Kind} (other : k ≠ .endOfFile) (problem : SyntaxProblem) :
    Local more n Anyhow (Grammar.closeWith k problem) := by
  have absent : Local more n Anyhow (do
      let x ← peekSpan
      reportAt problem x
      Grammar.span) := .reportAhead fun _ => .span
  refine .peek (fun next => ?_) fun next s a s' opens run fine => ?_
  · simp only
    split
    · exact .bind .advance fun _ => .span
    · exact absent
  · simp only [if_neg other.symm] at run
    simp only [run_bind, run_peekSpan, run_reportAt, run_span] at run
    obtain ⟨_, _, ⟨rfl, rfl⟩, _, _, rfl, -, rfl⟩ := run
    exact absurd fine not_fine_noted

/-! ### Brackets and ends of lines -/

/-- Moving onto a bracket if it comes next, comments apart. -/
lemma ontoBracket {k : Token.Kind} (solid : k.isTrivia = false) {next other : Parser α} (h : Local more n Ends next)
    (g : Local more n Ends other) : Local more n Ends (do
      if (← peekWith .toLayout) = k then
        Functor.discard (advanceWith .toLayout)
        next
      else other) := by
  have look (u : State) : Runs (peekWith .toLayout) u (u.cursor.peekKind .toLayout) u :=
    run_peekWith.mpr ⟨rfl, rfl⟩
  constructor
  · intro s a s' run fine
    obtain ⟨_, _, looked, run⟩ := run_bind.mp run
    obtain ⟨rfl, rfl⟩ := run_peekWith.mp looked
    split at run
    · simp only [run_bind, run_discard, run_advanceWith] at run
      obtain ⟨_, _, ⟨_, _, rfl⟩, run⟩ := run
      obtain ⟨fine, le⟩ := h.back _ _ _ run fine
      exact ⟨fine.of_moved, Nat.le_trans le (length_moved_le _ s)⟩
    · exact g.back _ _ _ run fine
  · intro s t along enough a s' run fine ends
    obtain ⟨_, _, looked, run⟩ := run_bind.mp run
    obtain ⟨rfl, rfl⟩ := run_peekWith.mp looked
    by_cases there : s.cursor.peekKind .toLayout = k
    · have there' := along.peekToLayout.trans there
      rw [if_pos there] at run
      simp only [run_bind, run_discard, run_advanceWith] at run
      obtain ⟨_, _, ⟨_, _, rfl⟩, run⟩ := run
      -- As a bracket is no trivia, the move past comments is the move past all trivia.
      rw [moved_of_solid (by rw [there, solid])] at run
      have onto := along.moved (h.back _ _ _ run fine).1.some
      have enough' := Nat.lt_of_le_of_lt (length_moved_le .insensitive s) enough
      obtain ⟨t', run', along⟩ := h.prolongs _ _ onto enough' _ _ run fine ends
      rw [← moved_of_solid (by rw [there', solid])] at run'
      refine ⟨t', run_bind.mpr ⟨_, _, look t, ?_⟩, along⟩
      rw [if_pos there']
      simp only [run_bind, run_discard, run_advanceWith]
      exact ⟨(), _, ⟨_, rfl, rfl⟩, run'⟩
    · have there' : t.cursor.peekKind .toLayout ≠ k := fun e => there (along.peekToLayout.symm.trans e)
      rw [if_neg there] at run
      obtain ⟨t', run', along⟩ := g.prolongs _ _ along enough _ _ run fine ends
      refine ⟨t', run_bind.mpr ⟨_, _, look t, ?_⟩, along⟩
      rwa [if_neg there']

lemma arrayBrackets : Local more n Anyhow Grammar.arrayBrackets := by
  unfold Grammar.arrayBrackets
  exact .ontoBracket rfl (.ontoBracket rfl (.pure true) (.bind (.report _) fun _ => .pure true)) (.pure false)

/-- What is done behind a statement is local. -/
lemma leaveLine : Local more n Anyhow Grammar.leaveLine := by
  unfold Grammar.leaveLine
  refine .bind .kind fun k => ?_
  split
  · exact .advance
  · exact .pure ()
  · exact .pure ()
  · exact .report _

lemma finishStatement : Local more n Anyhow Grammar.finishStatement := by
  constructor
  · intro s a s' run fine
    obtain ⟨_, _, moved, run⟩ := run_bind.mp run
    obtain ⟨_, moved⟩ := run_discard.mp moved
    obtain ⟨-, rfl⟩ := run_advanceWith.mp moved
    obtain ⟨fine, le⟩ := (leaveLine : Local more n _ _).back _ _ _ run fine
    exact ⟨fine.of_moved, Nat.le_trans le (length_moved_le _ s)⟩
  · intro s t along enough a s' run fine _
    have peek := along.peekToLineEnds
    -- With a line end ahead both runs go past all trivia; otherwise the token that comes next is the same.
    by_cases line : s.cursor.peekKind .toLineEnds = .endOfLine
    · obtain ⟨rfl, rfl⟩ := Prod.mk.inj ((Steady.run_finishStatement line).symm.trans run)
      exact ⟨_, Steady.run_finishStatement (peek.trans line), along.moved fine.some⟩
    · have solid := isTrivia_of_no_line line
      have move : Runs (Functor.discard (advanceWith .toLineEnds)) t () (t.moved .toLineEnds) :=
        run_discard.mpr ⟨_, run_advanceWith.mpr ⟨rfl, rfl⟩⟩
      obtain ⟨_, _, moved, run⟩ := run_bind.mp run
      obtain ⟨_, moved⟩ := run_discard.mp moved
      obtain ⟨-, rfl⟩ := run_advanceWith.mp moved
      rw [moved_of_solid solid] at run
      have onto := along.moved ((leaveLine : Local more n _ _).back _ _ _ run fine).1.some
      have enough' := Nat.lt_of_le_of_lt (length_moved_le .insensitive s) enough
      obtain ⟨t', run', along⟩ := leaveLine.prolongs _ _ onto enough' _ _ run fine trivial
      rw [← moved_of_solid (peek ▸ solid)] at run'
      exact ⟨t', run_bind.mpr ⟨_, _, move, run'⟩, along⟩

end Local

end ArrowScript.Grammar
