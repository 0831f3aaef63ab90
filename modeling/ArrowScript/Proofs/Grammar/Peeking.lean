import ArrowScript.Proofs.Grammar.Steady
import ArrowScript.Proofs.Grammar.Termination
import Mathlib.Data.List.TakeWhile

/-!
# Peeking and moving

Peeking looks for the next token by three scans of its own: for its kind, for its span and for the kinds of all
tokens that follow. Each of them says what moving would find. A move lands on the first token behind the current one
that it does not skip; as an end of file closes the tokens and is never skipped, there is such a token unless the
current one is the last.
-/

namespace ArrowScript.Grammar

variable {s : State} {tokens : List Token}

/-- Moving again and again visits tokens one after the other, until there is no move. -/
inductive Visits : State → List Token → Prop
  | last {s t : State} : Runs tryAdvance s false t → Visits s []
  | next {s t : State} {visited : List Token} :
    Runs tryAdvance s true t → Visits t visited → Visits s (t.token :: visited)

/-- Peeking at a state foretells moving. -/
structure Foretells (tokens : List Token) (s : State) : Prop where
  /-- On the last token alone there is no move, and then the state is left as it is. -/
  stays : ∀ sensitivity t, Runs (advanceWith sensitivity) s false t ↔
    s.position tokens + 1 = (Cursor.closed tokens).length ∧ t = s
  /-- A move lands on the first token behind the current one that is not skipped. -/
  lands : ∀ sensitivity t, Runs (advanceWith sensitivity) s true t →
    s.position tokens < t.position tokens ∧
      (Cursor.closed tokens)[t.position tokens]? = some t.token ∧ sensitivity.skips t.token.kind = false ∧
      ∀ index token, s.position tokens < index → index < t.position tokens →
        (Cursor.closed tokens)[index]? = some token → sensitivity.skips token.kind
  /-- The kind that is peeked at is that of the token where a move lands. -/
  kind : ∀ sensitivity went t, Runs (advanceWith sensitivity) s went t →
    Runs (peekWith sensitivity) s t.token.kind s
  /-- The span that is peeked at is that of the token where a move lands. -/
  span : ∀ went t, Runs tryAdvance s went t → Runs peekSpan s t.token.span s
  /-- The kinds that are looked ahead at are those of the tokens that moves visit, up to the last. -/
  lookahead : ∃ visited, Visits s visited ∧ s.cursor.lookahead = visited.map Token.kind

/-! ## Moves -/

/-- Where no token is left, a move leaves the state as it is. -/
lemma moved_of_last (none : s.pending = []) (sensitivity : Sensitivity) : s.moved sensitivity = s := by
  simp only [State.pending] at none
  simp [State.moved, advanceWith_apply, Cursor.move?, none]

/-- No token is left just on the last one. -/
lemma last_iff (on : Onward (.first tokens) s) :
    s.position tokens + 1 = (Cursor.closed tokens).length ↔ s.pending = [] := by
  have length := length_closed tokens
  have left := on.length_le
  rw [← List.length_eq_zero_iff]
  unfold State.position
  omega

/-- No move stops on a token that it skips. -/
lemma skips_token_moved (sensitivity : Sensitivity) (s : State) :
    sensitivity.skips (s.moved sensitivity).token.kind = false := by
  have head := List.head?_dropWhile_not (fun token => sensitivity.skips token.kind) s.pending.tail
  rw [← pending_moved] at head
  cases e : (s.moved sensitivity).cursor.pending with
  | nil => simp [State.token, Cursor.current, e, Cursor.closingToken, Sensitivity.skips]
  | cons token rest =>
    rw [State.pending, e] at head
    simpa [State.token, Cursor.current, e] using head

/-- A move goes past the tokens that it skips. -/
lemma exists_passed (pos : 0 < s.pending.length) (sensitivity : Sensitivity) :
    ∃ passed, s.pending = s.token :: (passed ++ (s.moved sensitivity).pending) ∧
      ∀ token ∈ passed, sensitivity.skips token.kind := by
  refine ⟨s.pending.tail.takeWhile fun token => sensitivity.skips token.kind, ?_, fun token => ?_⟩
  · rw [pending_moved, List.takeWhile_append_dropWhile]
    exact pending_eq_cons pos
  · exact List.mem_takeWhile_imp (p := fun token : Token => sensitivity.skips token.kind)

/-- A move lands on the first token that it does not skip. -/
lemma lands_moved (on : Onward (.first tokens) s) (pos : 0 < s.pending.length) (sensitivity : Sensitivity) :
    s.position tokens < (s.moved sensitivity).position tokens ∧
      ∀ index token, s.position tokens < index → index < (s.moved sensitivity).position tokens →
        (Cursor.closed tokens)[index]? = some token → sensitivity.skips token.kind := by
  obtain ⟨passed, e, skipped⟩ := exists_passed pos sensitivity
  have position : (s.moved sensitivity).position tokens = s.position tokens + (1 + passed.length) := by
    have length := congrArg List.length e
    have total := length_closed tokens
    have left := on.length_le
    simp only [List.length_cons, List.length_append] at length
    unfold State.position
    omega
  refine ⟨by omega, fun index token behind before found => skipped token ?_⟩
  -- Behind the position, the closed list goes on with the tokens that are passed.
  obtain ⟨more, rfl⟩ : ∃ more, index = s.position tokens + (more + 1) := ⟨index - s.position tokens - 1, by omega⟩
  rw [← List.getElem?_drop, closed_drop on, e, List.cons_append, List.getElem?_cons_succ, List.append_assoc,
    List.getElem?_append_left (by omega)] at found
  exact List.mem_of_getElem? found

/-! ## Looking ahead -/

/-- Kinds without trivia are the same past trivia. -/
lemma filter_past_trivia (tokens : List Token) :
    ((tokens.dropWhile fun token => Sensitivity.insensitive.skips token.kind).map Token.kind).filter (!·.isTrivia) =
      (tokens.map Token.kind).filter (!·.isTrivia) := by
  induction tokens with
  | nil => rfl
  | cons token rest ih =>
    rw [List.dropWhile_cons, Sensitivity.insensitive_skips]
    split
    · next trivia => rw [ih, List.map_cons, List.filter_cons_of_neg (by simp [trivia])]
    · rfl

/-- Looking ahead finds the token where a move lands, and behind it what is ahead there. -/
lemma lookahead_moved (pos : 0 < s.pending.length) : s.cursor.lookahead =
    (s.moved .insensitive).token.kind :: (s.moved .insensitive).cursor.lookahead := by
  have pending := pending_moved .insensitive s
  have solid := skips_token_moved .insensitive s
  obtain ⟨token, rest, e⟩ := List.exists_cons_of_length_pos pos
  rw [e, List.tail_cons] at pending
  simp only [State.pending] at e
  simp only [Cursor.lookahead, e]
  rw [← filter_past_trivia, ← pending]
  rw [Sensitivity.insensitive_skips] at solid
  cases e' : (s.moved .insensitive).cursor.pending with
  | nil => simp [State.token, Cursor.current, e', Cursor.closingToken]
  | cons next rest =>
    simp only [State.token, Cursor.current, e', List.headD_cons] at solid
    simp [State.token, Cursor.current, e', solid]

/-- The kinds ahead are those of the tokens that moves visit. -/
lemma exists_visits (s : State) : ∃ visited, Visits s visited ∧ s.cursor.lookahead = visited.map Token.kind := by
  -- By how many tokens are left, as each move takes at least one away.
  induction e : s.pending.length using Nat.strongRecOn generalizing s with
  | ind left ih =>
    subst e
    by_cases none : s.pending = []
    · refine ⟨[], .last (run_tryAdvance.mpr ⟨by simp [none], rfl⟩), ?_⟩
      simp only [State.pending] at none
      simp [Cursor.lookahead, none]
    · have pos := List.length_pos_iff.mpr none
      have fewer := length_moved .insensitive s
      obtain ⟨visited, visits, ahead⟩ := ih _ (by omega) (s.moved .insensitive) rfl
      refine ⟨_, .next (run_tryAdvance.mpr ⟨by simp [none], rfl⟩) visits, ?_⟩
      rw [lookahead_moved pos, ahead, List.map_cons]

/-! ## Peeking -/

/-- Wherever parsing can be in a list of tokens, peeking foretells moving: the kind, the span and the kinds ahead are
those of the tokens where moves land, and there is no move on the last token alone. -/
theorem peeking_foretells_moving (tokens : List Token) (s : State) (on : Onward (.first tokens) s) :
    Foretells tokens s where
  stays sensitivity t := by
    rw [last_iff on, run_advanceWith, decide_eq_false_iff_not, not_not]
    refine and_congr_right fun none => ?_
    rw [moved_of_last none, eq_comm]
  lands sensitivity t run := by
    obtain ⟨left, rfl⟩ := run_advanceWith.mp run
    have there := on.trans (.moved sensitivity s)
    have pos := List.length_pos_iff.mpr (of_decide_eq_true left)
    obtain ⟨forward, passed⟩ := lands_moved on pos sensitivity
    exact ⟨forward, ((staysWithin tokens).within _ there).2, skips_token_moved sensitivity s, passed⟩
  kind sensitivity went t run := by
    obtain ⟨-, rfl⟩ := run_advanceWith.mp run
    rw [kind_moved]
    rfl
  span went t run := by
    obtain ⟨-, rfl⟩ := run_tryAdvance.mp run
    rw [← peekSpan_eq]
    rfl
  lookahead := exists_visits s

/-- Peeking past trivia at the start of a list without an end of file. -/
theorem peeking_foretells_moving_past_comment :
    let token (kind : Token.Kind) : Token := ⟨kind, default⟩
    let tokens := [token .whitespace, token .identifier, token .comment, token .endOfLine, token .plus]
    Onward (.first tokens) (.start tokens) ∧ Foretells tokens (.start tokens) :=
  ⟨start_onward _, peeking_foretells_moving _ _ (start_onward _)⟩

end ArrowScript.Grammar
