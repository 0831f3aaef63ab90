import ArrowScript.Proofs.Grammar.Pieces
import ArrowScript.Proofs.Grammar.Runs
import Mathlib.Data.List.Perm.Basic

/-!
# Reading

`Reads p q pieces nodes` says what parsing did between two places: it dropped tokens from the front, added
findings at the tokens at hand, gave the handles `nodes` to nodes, and took `pieces` from the tokens. If
nothing was reported up to the second place, then the names and literals among the pieces are exactly those
among the tokens between the two places, in their order. A routine starts before its first token and ends
behind its last one, on which the cursor still stands, so a place is a state together with the side of the
current token; behind a token there is one unless something was reported. Readings compose (`Reads.trans`),
and a move leads from behind a token to before the next.
-/

namespace ArrowScript

/-- Kinds of tokens that a program keeps as a name or literal. -/
def Token.Kind.isLeaf : Token.Kind → Bool
  | .identifier | .builtinType | .nothing | .boolean | .integer | .decimal | .string => true
  | _ => false

/-- Kinds of tokens that a program keeps at most the place of; the end of file is none of them. -/
def Token.Kind.isMark : Token.Kind → Bool
  | .identifier | .builtinType | .nothing | .boolean | .integer | .decimal | .string | .endOfFile => false
  | _ => true

/-- The spans of the names and literals among some tokens. -/
def leafSpans (tokens : List Token) : List Span :=
  (tokens.filter (·.kind.isLeaf)).map Token.span

/-- A leaf at the front of some tokens. -/
lemma leafSpans_cons_leaf {token : Token} {rest : List Token} (h : token.kind.isLeaf) :
    leafSpans (token :: rest) = token.span :: leafSpans rest := by
  simp [leafSpans, h]

/-- A token at the front that is not a leaf. -/
lemma leafSpans_cons_of_not {token : Token} {rest : List Token} (h : token.kind.isLeaf = false) :
    leafSpans (token :: rest) = leafSpans rest := by
  simp [leafSpans, h]

/-- A mark is neither a leaf nor the end of file. -/
lemma Token.Kind.isLeaf_of_isMark {kind : Token.Kind} (h : kind.isMark) : kind.isLeaf = false := by
  cases kind <;> first | rfl | cases h

lemma Token.Kind.ne_endOfFile_of_isMark {kind : Token.Kind} (h : kind.isMark) : kind ≠ .endOfFile := by
  rintro rfl
  cases h

namespace Grammar

/-- What moves go past is no leaf. -/
lemma Sensitivity.not_isLeaf_of_skips {sensitivity : Sensitivity} {kind : Token.Kind}
    (h : sensitivity.skips kind) : kind.isLeaf = false := by
  cases kind <;> first | rfl | exact absurd h (by simp [Sensitivity.skips])

/-- A kind that names a type is a leaf. -/
lemma isLeaf_of_isTypeName {kind : Token.Kind} (h : kind.isTypeName) : kind.isLeaf := by
  revert h
  cases kind <;> decide

/-- Going past trivia loses no leaf. -/
lemma leafSpans_dropWhile (sensitivity : Sensitivity) (tokens : List Token) :
    leafSpans (tokens.dropWhile fun token => sensitivity.skips token.kind) = leafSpans tokens := by
  induction tokens with
  | nil => rfl
  | cons token rest ih =>
    rw [List.dropWhile_cons]
    split
    · next h => rw [ih, leafSpans_cons_of_not (Sensitivity.not_isLeaf_of_skips h)]
    · rfl

variable {s t : State}

/-! ## Moves -/

/-- A move drops the current token and then trivia. -/
lemma pending_moved (sensitivity : Sensitivity) (s : State) :
    (s.moved sensitivity).pending =
      s.pending.tail.dropWhile fun token => sensitivity.skips token.kind := by
  rw [State.moved, advanceWith_apply]
  unfold Cursor.move?
  cases e : s.cursor.pending <;> simp [State.pending, Cursor.skip, e]

/-- A move keeps the closing end of file, the findings and the handles. -/
lemma frame_moved (sensitivity : Sensitivity) (s : State) :
    (s.moved sensitivity).cursor.closing = s.cursor.closing ∧
      (s.moved sensitivity).findings = s.findings ∧ (s.moved sensitivity).nextId = s.nextId := by
  rw [State.moved, advanceWith_apply]
  cases h : s.cursor.move? sensitivity with
  | none => exact ⟨rfl, rfl, rfl⟩
  | some next => exact ⟨Cursor.closing_of_move? h, rfl, rfl⟩

/-- A move leaves a later part of the tokens. -/
lemma pending_moved_suffix (sensitivity : Sensitivity) (s : State) :
    (s.moved sensitivity).pending <:+ s.pending := by
  rw [pending_moved]
  exact (List.dropWhile_suffix _).trans (List.tail_suffix _)

/-- A move takes at least one token away, if there is one. -/
lemma length_moved (sensitivity : Sensitivity) (s : State) :
    (s.moved sensitivity).pending.length ≤ s.pending.length - 1 := by
  rw [pending_moved, ← List.length_tail]
  exact (List.dropWhile_sublist _).length_le

/-- Only on the closing end of file are there no tokens left. -/
lemma length_pos_of_kind (h : s.token.kind ≠ .endOfFile) : 0 < s.pending.length := by
  apply List.length_pos_iff.mpr
  intro e
  apply h
  simp [State.token, Cursor.current, e, Cursor.closingToken]

/-- There are tokens left if another one can be peeked at. -/
lemma length_pos_of_peek {sensitivity : Sensitivity}
    (h : s.cursor.peekKind sensitivity ≠ .endOfFile) : 0 < s.pending.length := by
  apply List.length_pos_iff.mpr
  intro e
  apply h
  simp [Cursor.peekKind, Cursor.next?, e]

/-- The current token is at the front unless the tokens are used up. -/
lemma pending_eq_cons (h : 0 < s.pending.length) :
    s.pending = s.token :: s.pending.tail := by
  obtain ⟨token, rest, e⟩ := List.exists_cons_of_length_pos h
  simp [State.token, Cursor.current, e]

/-- The token that trivia is skipped up to is the one that is peeked at. -/
lemma headD_skipped (sensitivity : Sensitivity) (tokens : List Token) (closing : Token) :
    (tokens.dropWhile fun token => sensitivity.skips token.kind).headD closing =
      (tokens.find? fun token => !sensitivity.skips token.kind).getD closing := by
  induction tokens with
  | nil => rfl
  | cons token rest ih =>
    rw [List.dropWhile_cons]
    split
    · next skip => rw [ih, List.find?_cons_of_neg (by simp [skip])]
    · next skip =>
      rw [List.find?_cons_of_pos (by simp [skip])]
      rfl

/-- A move leads to the token that was peeked at; where there is no move, both are the end of file. -/
lemma kind_moved (sensitivity : Sensitivity) (s : State) :
    (s.moved sensitivity).token.kind = s.cursor.peekKind sensitivity := by
  have closing := (frame_moved sensitivity s).1
  have pending := pending_moved sensitivity s
  cases e : s.pending with
  | nil =>
    rw [e, List.tail_nil, List.dropWhile_nil] at pending
    simp only [State.token, Cursor.current, pending, List.headD_nil, Cursor.closingToken, Cursor.peekKind,
      Cursor.next?, e, Option.elim_none]
  | cons token rest =>
    rw [e, List.tail_cons] at pending
    simp only [State.token, Cursor.current, Cursor.closingToken, pending, closing, headD_skipped,
      Cursor.peekKind, Cursor.next?, e, Option.elim_some]

/-! ## Places -/

/-- A place between tokens: before the current token of a state, or behind it. -/
structure Place where
  state : State
  behind : Bool

namespace Place

/-- The place before the current token. -/
abbrev before (s : State) : Place := ⟨s, false⟩

/-- The place behind the current token. -/
abbrev past (s : State) : Place := ⟨s, true⟩

/-- The tokens from a place on. -/
def rest (place : Place) : List Token :=
  if place.behind then place.state.pending.tail else place.state.pending

/-- Behind a token there is that token. -/
def OnToken (place : Place) : Prop :=
  place.behind → place.state.pending ≠ []

@[simp] lemma rest_before (s : State) : (before s).rest = s.pending := rfl

@[simp] lemma rest_past (s : State) : (past s).rest = s.pending.tail := rfl

end Place

/-- Nothing has been reported. -/
def State.Clean (s : State) : Prop :=
  s.findings.size = 0

/-- A piece comes from the tokens at hand; the name of a link comes from one that can be such a name, and
does not stand for anything yet. -/
def FromTokens (cursor : Cursor) : Piece → Prop
  | .link identifier =>
    ∃ token ∈ cursor.pending, isLinkName token.kind ∧ identifier = .unbound token.span
  | .leaf span | .mark span => span = cursor.closing ∨ ∃ token ∈ cursor.pending, token.span = span

/-- The handles from one number up to another. -/
def handles (first next : Nat) : List NodeId :=
  (List.range' first (next - first)).map NodeId.mk

/-- Handles follow each other. -/
lemma handles_append {first middle next : Nat} (hf : first ≤ middle) (hn : middle ≤ next) :
    handles first middle ++ handles middle next = handles first next := by
  obtain ⟨m, rfl⟩ := Nat.exists_eq_add_of_le hf
  obtain ⟨n, rfl⟩ := Nat.exists_eq_add_of_le hn
  rw [handles, handles, handles, ← List.map_append, Nat.add_sub_cancel_left,
    Nat.add_sub_cancel_left, Nat.add_assoc, Nat.add_sub_cancel_left, ← List.range'_append_1]

/-- Handles are given out once. -/
lemma nodup_handles (first next : Nat) : (handles first next).Nodup := by
  refine List.Pairwise.map _ ?_ List.nodup_range'
  intro a b ne h
  exact ne (NodeId.mk.inj h)

/-- What parsing did between two places. -/
structure Reads (p q : Place) (pieces : List Piece) (nodes : List NodeId) : Prop where
  pending : q.state.pending <:+ p.state.pending
  closing : q.state.cursor.closing = p.state.cursor.closing
  findings : p.state.findings.size ≤ q.state.findings.size
  nextId : p.state.nextId ≤ q.state.nextId
  nodes : nodes.Perm (handles p.state.nextId q.state.nextId)
  fromTokens : ∀ piece ∈ pieces, FromTokens p.state.cursor piece
  located : ∀ finding ∈ q.state.findings, finding ∈ p.state.findings ∨
    FromTokens p.state.cursor (.mark finding.span)
  onToken : q.state.Clean → p.OnToken → q.OnToken
  leaves : q.state.Clean → leafSpans p.rest = leavesOf pieces ++ leafSpans q.rest

namespace Reads

variable {p q r : Place} {first second pieces : List Piece} {nodes others : List NodeId}

/-- Nothing was reported earlier than where nothing is reported. -/
lemma clean (h : Reads p q pieces nodes) (clean : q.state.Clean) : p.state.Clean :=
  Nat.le_zero.mp (clean ▸ h.findings)

/-- Reading never adds tokens. -/
lemma length_le {b b' : Bool} (h : Reads ⟨s, b⟩ ⟨t, b'⟩ pieces nodes) :
    t.pending.length ≤ s.pending.length :=
  h.pending.length_le

/-- Doing nothing. -/
lemma refl (p : Place) : Reads p p [] [] where
  pending := List.suffix_refl _
  closing := rfl
  findings := Nat.le_refl _
  nextId := Nat.le_refl _
  nodes := by simp [handles]
  fromTokens := by simp
  located := fun _ mem => .inl mem
  onToken := fun _ on => on
  leaves := fun _ => rfl

end Reads

/-- Fewer tokens are less to take pieces from. -/
lemma FromTokens.mono {cursor later : Cursor} (suffix : later.pending <:+ cursor.pending)
    (closing : later.closing = cursor.closing) {piece : Piece} (h : FromTokens later piece) :
    FromTokens cursor piece := by
  cases piece with
  | link identifier =>
    obtain ⟨token, mem, h⟩ := h
    exact ⟨token, suffix.subset mem, h⟩
  | leaf span | mark span =>
    obtain h | ⟨token, mem, h⟩ := h
    · exact .inl (h.trans closing)
    · exact .inr ⟨token, suffix.subset mem, h⟩

namespace Reads

variable {p q r : Place} {first second pieces : List Piece} {nodes others : List NodeId}

/-- Reading up to a place and on from there. -/
lemma trans (h : Reads p q first nodes) (g : Reads q r second others) :
    Reads p r (first ++ second) (nodes ++ others) where
  pending := g.pending.trans h.pending
  closing := g.closing.trans h.closing
  findings := Nat.le_trans h.findings g.findings
  nextId := Nat.le_trans h.nextId g.nextId
  nodes := by
    rw [← handles_append h.nextId g.nextId]
    exact h.nodes.append g.nodes
  fromTokens := by
    intro piece mem
    rcases List.mem_append.mp mem with mem | mem
    · exact h.fromTokens piece mem
    · exact (g.fromTokens piece mem).mono h.pending h.closing
  located := by
    intro finding mem
    rcases g.located finding mem with mem | there
    · exact h.located finding mem
    · exact .inr (there.mono h.pending h.closing)
  onToken := fun clean on => g.onToken clean (h.onToken (g.clean clean) on)
  -- What is clean at the end was clean in between, as findings are never taken back.
  leaves := by
    intro clean
    rw [h.leaves (g.clean clean), g.leaves clean, leavesOf_append, List.append_assoc]

/-- The same pieces and handles in other words. -/
lemma cast (h : Reads p q first nodes) (pieces_eq : first = second) (nodes_eq : nodes.Perm others) :
    Reads p q second others := by
  subst pieces_eq
  exact { h with nodes := nodes_eq.symm.trans h.nodes }

/-- Once a problem is noted, what is read need not account for the tokens. -/
lemma spoil (h : Reads p q first nodes) (dirty : ¬ q.state.Clean) {b b' : Bool}
    (fromTokens : ∀ piece ∈ second, FromTokens p.state.cursor piece) :
    Reads ⟨p.state, b⟩ ⟨q.state, b'⟩ second nodes :=
  ⟨h.pending, h.closing, h.findings, h.nextId, h.nodes, fromTokens, h.located, fun clean => absurd clean dirty,
    fun clean => absurd clean dirty⟩

/-- Once a problem is noted, pieces may be dropped. -/
lemma thin (h : Reads p q first nodes) (dirty : ¬ q.state.Clean) {b b' : Bool}
    (subset : second ⊆ first) : Reads ⟨p.state, b⟩ ⟨q.state, b'⟩ second nodes :=
  h.spoil dirty fun piece mem => h.fromTokens piece (subset mem)

/-- A mark at the end need not be kept. -/
lemma forget {x : Span} (h : Reads p q (first ++ [.mark x]) nodes) : Reads p q first nodes where
  pending := h.pending
  closing := h.closing
  findings := h.findings
  nextId := h.nextId
  nodes := h.nodes
  fromTokens := fun piece mem => h.fromTokens piece (List.mem_append_left _ mem)
  located := h.located
  onToken := h.onToken
  leaves := fun clean => by simpa using h.leaves clean

end Reads

/-! ## Steps -/

/-- The current token is at hand. -/
lemma fromTokens_token (s : State) :
    s.token.span = s.cursor.closing ∨ ∃ token ∈ s.cursor.pending, token.span = s.token.span := by
  cases e : s.cursor.pending with
  | nil =>
    left
    simp [State.token, Cursor.current, e, Cursor.closingToken]
  | cons token rest =>
    right
    exact ⟨token, by simp, by simp [State.token, Cursor.current, e]⟩

/-- The token that is peeked at is at hand. -/
lemma fromTokens_peeked (s : State) :
    s.cursor.peekSpan = s.cursor.closing ∨ ∃ token ∈ s.cursor.pending, token.span = s.cursor.peekSpan := by
  unfold Cursor.peekSpan Cursor.next?
  cases e : s.cursor.pending with
  | nil =>
    left
    simp [Cursor.current, e, Cursor.closingToken]
  | cons token rest =>
    simp only [Option.elim_some]
    cases found : rest.find? fun token => !Sensitivity.insensitive.skips token.kind with
    | none => exact .inl rfl
    | some next => exact .inr ⟨next, List.mem_cons_of_mem _ (List.mem_of_find?_eq_some found), rfl⟩

/-- A token that is a leaf stands between the two sides of it. -/
lemma leafSpans_of_leaf (h : s.token.kind.isLeaf) :
    leafSpans s.pending = s.token.span :: leafSpans s.pending.tail := by
  have pos : 0 < s.pending.length := length_pos_of_kind fun e => by rw [e] at h; cases h
  rw [pending_eq_cons pos, leafSpans_cons_leaf h, List.tail_cons]

/-- A token that is no leaf makes no difference. -/
lemma leafSpans_of_not (h : s.token.kind.isLeaf = false) :
    leafSpans s.pending = leafSpans s.pending.tail := by
  rcases Nat.eq_zero_or_pos s.pending.length with e | pos
  · rw [List.length_eq_zero_iff.mp e, List.tail_nil]
  · rw [pending_eq_cons pos, leafSpans_cons_of_not h, List.tail_cons]

namespace Reads

variable {b : Bool} {u : Unit} {k : Token.Kind} {problem : SyntaxProblem} {x : Span}

/-- Steps that stay on the token. -/
private lemma stay {pieces : List Piece} {b b' : Bool}
    (fromTokens : ∀ piece ∈ pieces, FromTokens s.cursor piece)
    (onToken : (Place.mk s b).OnToken → (Place.mk s b').OnToken)
    (leaves : leafSpans (Place.mk s b).rest = leavesOf pieces ++ leafSpans (Place.mk s b').rest) :
    Reads ⟨s, b⟩ ⟨s, b'⟩ pieces [] :=
  { Reads.refl ⟨s, b⟩ with fromTokens, onToken := fun _ => onToken, leaves := fun _ => leaves }

/-- A token that does not end the file is there. -/
private lemma behind (h : s.token.kind ≠ .endOfFile) : (Place.past s).OnToken :=
  fun _ => List.length_pos_iff.mp (length_pos_of_kind h)

/-- Taking the current token as a name or literal. -/
lemma leaf (h : s.token.kind.isLeaf) :
    Reads (.before s) (.past s) [.leaf s.token.span] [] := by
  refine stay ?_ (fun _ => behind fun e => by rw [e] at h; cases h) (leafSpans_of_leaf h)
  simp only [List.mem_singleton, forall_eq]
  exact fromTokens_token s

/-- Taking the current token as the name of a link. -/
lemma link (h : isLinkName s.token.kind) :
    Reads (.before s) (.past s) [.link (.unbound s.token.span)] [] := by
  have leaf : s.token.kind.isLeaf := by
    revert h
    cases s.token.kind <;> simp [isLinkName, Token.Kind.isLeaf]
  have other : s.token.kind ≠ .endOfFile := fun e => by rw [e] at leaf; cases leaf
  have pos : 0 < s.pending.length := length_pos_of_kind other
  refine stay ?_ (fun _ => behind other) (leafSpans_of_leaf leaf)
  simp only [List.mem_singleton, forall_eq]
  refine ⟨s.token, ?_, h, rfl⟩
  rw [show s.cursor.pending = _ from pending_eq_cons pos]
  exact List.mem_cons_self

/-- Taking the current token as a mark. -/
lemma mark (h : s.token.kind.isMark) :
    Reads (.before s) (.past s) [.mark s.token.span] [] := by
  refine stay ?_ (fun _ => behind (Token.Kind.ne_endOfFile_of_isMark h))
    (leafSpans_of_not (Token.Kind.isLeaf_of_isMark h))
  simp only [List.mem_singleton, forall_eq]
  exact fromTokens_token s

/-- Remembering where the current token stands, without taking it. -/
lemma here (s : State) (b : Bool) : Reads ⟨s, b⟩ ⟨s, b⟩ [.mark s.token.span] [] := by
  refine stay ?_ id rfl
  simp only [List.mem_singleton, forall_eq]
  exact fromTokens_token s

/-- Taking the current token without keeping it. -/
lemma skip (h : s.token.kind.isMark) : Reads (.before s) (.past s) [] [] :=
  stay (by simp) (fun _ => behind (Token.Kind.ne_endOfFile_of_isMark h))
    (leafSpans_of_not (Token.Kind.isLeaf_of_isMark h))

/-- Moving from behind a token to before the next. -/
lemma moved (sensitivity : Sensitivity) (s : State) :
    Reads (.past s) (.before (s.moved sensitivity)) [] [] where
  pending := pending_moved_suffix sensitivity s
  closing := (frame_moved sensitivity s).1
  findings := (frame_moved sensitivity s).2.1 ▸ Nat.le_refl _
  nextId := (frame_moved sensitivity s).2.2 ▸ Nat.le_refl _
  nodes := by simp [handles, (frame_moved sensitivity s).2.2]
  fromTokens := by simp
  located := fun _ mem => .inl ((frame_moved sensitivity s).2.1 ▸ mem)
  onToken := fun _ _ => nofun
  leaves := fun _ => by
    rw [Place.rest_past, Place.rest_before, pending_moved, leafSpans_dropWhile, leavesOf_nil,
      List.nil_append]

/-- Giving out a handle. -/
lemma numbered (s : State) (b : Bool) : Reads ⟨s, b⟩ ⟨s.numbered, b⟩ [] [⟨s.nextId⟩] where
  pending := List.suffix_refl _
  closing := rfl
  findings := Nat.le_refl _
  nextId := Nat.le_succ _
  nodes := by simp [State.numbered, handles]
  fromTokens := by simp
  located := fun _ mem => .inl mem
  onToken := fun _ on => on
  leaves := fun _ => rfl

/-- A noted problem is there to stay. -/
lemma not_clean_noted (problem : SyntaxProblem) (x : Span) (s : State) :
    ¬ (s.noted problem x).Clean := by
  simp [State.Clean, State.noted]

/-- Noting a problem at a token at hand. -/
private lemma notedAt (problem : SyntaxProblem) (x : Span) (s : State) (b : Bool)
    (there : FromTokens s.cursor (.mark x)) : Reads ⟨s, b⟩ ⟨s.noted problem x, b⟩ [] [] where
  pending := List.suffix_refl _
  closing := rfl
  findings := by simp [State.noted]
  nextId := Nat.le_refl _
  nodes := by simp [State.noted, handles]
  fromTokens := by simp
  located := by
    intro finding mem
    rcases Array.mem_push.mp mem with mem | rfl
    · exact .inl mem
    · exact .inr there
  onToken := fun clean => absurd clean (not_clean_noted problem x s)
  leaves := fun clean => absurd clean (not_clean_noted problem x s)

/-- Noting a problem at the current token. -/
lemma noted (problem : SyntaxProblem) (s : State) (b : Bool) :
    Reads ⟨s, b⟩ ⟨s.noted problem s.token.span, b⟩ [] [] :=
  notedAt problem _ s b (fromTokens_token s)

/-- Noting a problem at the next token. -/
lemma notedAhead (problem : SyntaxProblem) (s : State) (b : Bool) :
    Reads ⟨s, b⟩ ⟨s.noted problem s.cursor.peekSpan, b⟩ [] [] :=
  notedAt problem _ s b (fromTokens_peeked s)

/-- Taking an expected token that is no leaf. -/
lemma expected (h : Runs (expect k problem) s u t) (mark : k.isMark) :
    Reads (.before s) (.past t) [] [] := by
  rcases run_expect.mp h with ⟨rfl, rfl⟩ | ⟨_, rfl⟩
  · exact skip mark
  · exact (noted problem s false).thin (not_clean_noted _ _ _) (List.Subset.refl _)

/-- Taking an expected name. -/
lemma expected_leaf (h : Runs (expect k problem) s u t) (leaf : k.isLeaf) :
    Reads (.before s) (.past t) [.leaf t.token.span] [] := by
  rcases run_expect.mp h with ⟨rfl, rfl⟩ | ⟨_, rfl⟩
  · exact Reads.leaf leaf
  · refine (noted problem s false).spoil (not_clean_noted _ _ _) ?_
    simp only [List.mem_singleton, forall_eq]
    exact fromTokens_token s

/-- Moving onto a closing token, which marks the end. -/
lemma closed (h : Runs (closeWith k problem) s x t) (isMark : k.isMark) :
    Reads (.past s) (.past t) [.mark x] [] := by
  obtain ⟨rfl, ⟨e, rfl⟩ | ⟨_, rfl⟩⟩ := run_closeWith.mp h
  · refine (moved _ s).trans (mark ?_)
    rw [kind_moved, e]
    exact isMark
  · refine (notedAhead problem s false).spoil (not_clean_noted _ _ _) ?_
    simp only [List.mem_singleton, forall_eq]
    exact fromTokens_token s

end Reads

end Grammar

end ArrowScript
