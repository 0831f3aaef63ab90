import ArrowScript.Proofs.Grammar.Printing

/-!
# Following printed text

`Gives` says what an action results in and leads to, taken apart along the way the action is put together.
A state shows a text if the lexemes of its tokens from the current one on are that text and nothing was
reported; it is behind a text if it stands on the token before it. What a peek sees and where a move leads
is a matter of the text alone.
-/

namespace ArrowScript.Grammar
open Lexeme

variable {α β γ : Type} {s t : State} {rest text : List Lexeme} {x : Lexeme}

/-- What an action results in and leads to is as stated. -/
def Gives (action : Parser α) (s : State) (post : α → State → Prop) : Prop :=
  post (action s).1 (action s).2

/-! ## Texts ahead -/

namespace State

/-- The tokens from the current one on are those of a text, and nothing was reported. -/
structure Shows (s : State) (text : List Lexeme) : Prop where
  pending : Spelled s.pending text
  clean : s.Clean

/-- The current token is the one before a text. -/
def Behind (s : State) (rest : List Lexeme) : Prop :=
  ∃ last, s.Shows (last :: rest)

end State

/-- Where a move through a text leads, from the token before it. -/
def landing (sensitivity : Sensitivity) (rest : List Lexeme) : List Lexeme :=
  rest.dropWhile fun x => sensitivity.skips x.kind

/-- The kind of the first lexeme of a text, end of file when there is none. -/
def headKind : List Lexeme → Token.Kind
  | [] => .endOfFile
  | x :: _ => x.kind

/-- The kind of the first lexeme of a text past all trivia. -/
def follow (rest : List Lexeme) : Token.Kind :=
  headKind (landing .insensitive rest)

/-- The kinds of a text without trivia. -/
def kindsOf (text : List Lexeme) : List Token.Kind :=
  (text.map Lexeme.kind).filter (!·.isTrivia)

/-- All kinds of a text that are looked ahead at, to the end of file. -/
def ahead (rest : List Lexeme) : List Token.Kind :=
  kindsOf rest ++ [.endOfFile]

lemma kindsOf_append (first second : List Lexeme) :
    kindsOf (first ++ second) = kindsOf first ++ kindsOf second := by
  simp [kindsOf]

lemma kindsOf_cons (h : x.kind.isTrivia = false) : kindsOf (x :: rest) = x.kind :: kindsOf rest := by
  simp [kindsOf, h]

/-- A text starts with a lexeme of certain kinds. -/
def Opens (kinds : Token.Kind → Bool) (text : List Lexeme) : Prop :=
  ∃ x rest, text = x :: rest ∧ kinds x.kind

namespace Opens

variable {kinds wider : Token.Kind → Bool}

/-- A text that starts with a lexeme of certain kinds starts with one of more kinds. -/
lemma mono (h : Opens kinds text) (implies : ∀ k, kinds k → wider k) : Opens wider text := by
  obtain ⟨x, rest, rfl, kind⟩ := h
  exact ⟨x, rest, rfl, implies _ kind⟩

/-- Only the first lexeme counts. -/
lemma append (h : Opens kinds text) (rest : List Lexeme) : Opens kinds (text ++ rest) := by
  obtain ⟨x, tail, rfl, kind⟩ := h
  exact ⟨x, tail ++ rest, rfl, kind⟩

/-- There is a first lexeme. -/
lemma ne_nil (h : Opens kinds text) : text ≠ [] := by
  obtain ⟨x, rest, rfl, -⟩ := h
  exact List.cons_ne_nil x rest

/-- The first kind is one of those. -/
lemma headKind (h : Opens kinds text) : kinds (headKind text) := by
  obtain ⟨x, rest, rfl, kind⟩ := h
  exact kind

/-- The first kind is none of the others. -/
lemma headKind_ne {k : Token.Kind} (h : Opens kinds text) (other : kinds k = false) :
    Grammar.headKind text ≠ k := by
  intro e
  have first := h.headKind
  rw [e, other] at first
  cases first

end Opens

/-- Kinds that a move past all trivia stops on. -/
def isFirm (kind : Token.Kind) : Bool :=
  !kind.isTrivia

/-- Moves go past nothing but trivia. -/
lemma isTrivia_of_skips {sensitivity : Sensitivity} {k : Token.Kind} (h : sensitivity.skips k) :
    k.isTrivia := by
  cases k <;> first | rfl | cases h

/-- A move stops at once in front of what is not trivia. -/
lemma landing_of_opens (sensitivity : Sensitivity) (h : Opens isFirm text) :
    landing sensitivity text = text := by
  obtain ⟨x, rest, rfl, firm⟩ := h
  apply List.dropWhile_cons_of_neg
  intro skipped
  rw [isFirm, isTrivia_of_skips skipped] at firm
  cases firm

/-- What is not trivia follows at once. -/
lemma follow_of_opens (h : Opens isFirm text) : follow text = headKind text := by
  rw [follow, landing_of_opens .insensitive h]

/-- A sign follows at once. -/
lemma follow_sign {k : Token.Kind} (firm : isFirm k) : follow (sign k :: rest) = k :=
  follow_of_opens ⟨_, _, rfl, firm⟩

/-- Names and literals are not trivia. -/
lemma isFirm_of_isLeaf (kind : Token.Kind) (h : kind.isLeaf) : isFirm kind := by
  cases kind <;> first | rfl | cases h

/-- Spans with the same text are the same when bare. -/
lemma bare_eq_of_content {first second : Span} (h : first.content = second.content) :
    first.bare = second.bare := by
  rw [Span.bare, h, Span.bare]

namespace State.Shows

/-- The current token is behind nothing but itself. -/
lemma behind (h : s.Shows (x :: rest)) : s.Behind rest :=
  ⟨x, h⟩

/-- The current token is the first of the text. -/
lemma spells (h : s.Shows (x :: rest)) : s.token.Spells x := by
  obtain ⟨token, tokens, spells, -, e⟩ := List.forall₂_cons_right_iff.mp h.pending
  rw [State.token, Cursor.current, show s.cursor.pending = _ from e]
  exact spells

/-- The current token is of the kind that the text starts with. -/
lemma kind (h : s.Shows text) : s.token.kind = headKind text := by
  cases text with
  | nil =>
    have none := List.forall₂_nil_right_iff.mp h.pending
    rw [State.token, Cursor.current, show s.cursor.pending = _ from none]
    rfl
  | cons x rest => exact h.spells.kind

/-- The current token is the sign that the text starts with. -/
lemma sign {k : Token.Kind} (h : s.Shows (.sign k :: rest)) : s.token.kind = k :=
  h.kind

/-- The current token is of the only kind that the text may start with. -/
lemma kind_of_opens {k : Token.Kind} (h : s.Shows text) (opens : Opens (· = k) text) :
    s.token.kind = k := by
  rw [h.kind]
  exact of_decide_eq_true opens.headKind

/-- There is a token to move off. -/
lemma pending_ne_nil (h : s.Shows (x :: rest)) : s.pending ≠ [] := by
  intro none
  have pending := h.pending
  rw [none] at pending
  cases pending

/-- A name or literal is read as it is written. -/
lemma bare {span : Span} (h : s.Shows (x :: rest)) (leaf : x.kind.isLeaf)
    (text : x.text = span.content) : s.token.span.bare = span.bare :=
  bare_eq_of_content ((h.spells.text leaf).trans text)

/-- A handle makes no difference to the text. -/
lemma numbered (h : s.Shows text) : s.numbered.Shows text :=
  ⟨h.pending, h.clean⟩

/-- The length of the text is that of the tokens. -/
lemma length_eq (h : s.Shows text) : s.pending.length = text.length := by
  exact h.pending.length_eq

end State.Shows

namespace State.Behind

/-- A handle makes no difference to the text. -/
lemma numbered (h : s.Behind rest) : s.numbered.Behind rest :=
  h.imp fun _ shows => shows.numbered

/-- A move goes past the trivia at the front of the text. -/
lemma moved (sensitivity : Sensitivity) (h : s.Behind rest) :
    (s.moved sensitivity).Shows (landing sensitivity rest) := by
  obtain ⟨last, pending, clean⟩ := h
  constructor
  · obtain ⟨token, tokens, -, spelled, e⟩ := List.forall₂_cons_right_iff.mp pending
    rw [pending_moved, e, List.tail_cons]
    exact Spelled.dropWhile spelled sensitivity.skips
  · rw [State.Clean, (frame_moved sensitivity s).2.1]
    exact clean

/-- A peek sees the token that a move would lead to. -/
lemma peekKind (sensitivity : Sensitivity) (h : s.Behind rest) :
    s.cursor.peekKind sensitivity = headKind (landing sensitivity rest) := by
  obtain ⟨last, shows⟩ := h
  rw [← kind_moved]
  exact (moved sensitivity ⟨last, shows⟩).kind

/-- A peek past all trivia. -/
lemma peek (h : s.Behind rest) : s.cursor.peekKind .insensitive = follow rest :=
  h.peekKind .insensitive

/-- A move onto what is not trivia. -/
lemma advanced (h : s.Behind rest) (opens : Opens isFirm rest) :
    (s.moved .insensitive).Shows rest :=
  landing_of_opens .insensitive opens ▸ h.moved .insensitive

/-- A move onto a sign. -/
lemma onto {k : Token.Kind} (h : s.Behind (sign k :: rest)) (firm : isFirm k) :
    (s.moved .insensitive).Shows (sign k :: rest) :=
  h.advanced ⟨_, _, rfl, firm⟩

/-- All that is left is looked at without trivia. -/
lemma lookahead (h : s.Behind rest) : s.cursor.lookahead = ahead rest := by
  obtain ⟨last, pending, -⟩ := h
  obtain ⟨token, tokens, -, spelled, e⟩ := List.forall₂_cons_right_iff.mp pending
  rw [Cursor.lookahead, show s.cursor.pending = _ from e, ahead, kindsOf,
    ← Spelled.map_kind spelled]

end State.Behind

/-! ## Actions -/

lemma gives_pure {a : α} {post : α → State → Prop} : Gives (pure a) s post ↔ post a s := Iff.rfl

lemma gives_bind {action : Parser α} {next : α → Parser β} {post : β → State → Prop} :
    Gives (action >>= next) s post ↔ Gives action s fun a t => Gives (next a) t post := Iff.rfl

lemma gives_discard {action : Parser α} {post : Unit → State → Prop} :
    Gives (discard action) s post ↔ Gives action s fun _ t => post () t := Iff.rfl

lemma gives_kind {post : Token.Kind → State → Prop} : Gives kind s post ↔ post s.token.kind s := Iff.rfl

lemma gives_span {post : Span → State → Prop} : Gives span s post ↔ post s.token.span s := Iff.rfl

lemma gives_standsOn {k : Token.Kind} {post : Bool → State → Prop} :
    Gives (standsOn k) s post ↔ post (decide (s.token.kind = k)) s := Iff.rfl

lemma gives_peekWith {sensitivity : Sensitivity} {post : Token.Kind → State → Prop} :
    Gives (peekWith sensitivity) s post ↔ post (s.cursor.peekKind sensitivity) s := Iff.rfl

lemma gives_peek {post : Token.Kind → State → Prop} :
    Gives peek s post ↔ post (s.cursor.peekKind .insensitive) s := Iff.rfl

lemma gives_advanceWith {sensitivity : Sensitivity} {post : Bool → State → Prop} :
    Gives (advanceWith sensitivity) s post ↔
      post (decide (s.pending ≠ [])) (s.moved sensitivity) := by
  have runs : Runs (advanceWith sensitivity) s _ _ := run_advanceWith.mpr ⟨rfl, rfl⟩
  rw [Gives, show advanceWith sensitivity s = _ from runs]

lemma gives_tryAdvance {post : Bool → State → Prop} :
    Gives tryAdvance s post ↔ post (decide (s.pending ≠ [])) (s.moved .insensitive) :=
  gives_advanceWith

/-- A move off a token that is there. -/
lemma gives_tryAdvance_of_shows {post : Bool → State → Prop} (h : s.Shows (x :: rest)) :
    Gives tryAdvance s post ↔ post true (s.moved .insensitive) := by
  rw [gives_tryAdvance, decide_eq_true h.pending_ne_nil]

lemma gives_advance {post : Unit → State → Prop} :
    Gives advance s post ↔ post () (s.moved .insensitive) := Iff.rfl

lemma gives_freshId {post : NodeId → State → Prop} :
    Gives freshId s post ↔ post ⟨s.nextId⟩ s.numbered := Iff.rfl

lemma gives_genericCallAhead {post : Bool → State → Prop} :
    Gives genericCallAhead s post ↔ post (typeArgumentsBeforeCall s.cursor.lookahead) s := Iff.rfl

/-- What is stated of an action may be weakened. -/
lemma Gives.mono {action : Parser α} {post weaker : α → State → Prop} (h : Gives action s post)
    (implies : ∀ a t, post a t → weaker a t) : Gives action s weaker :=
  implies _ _ h

/-- An expected token that is there. -/
lemma gives_expect {k : Token.Kind} {problem : SyntaxProblem} {post : Unit → State → Prop}
    (h : s.token.kind = k) : Gives (expect k problem) s post ↔ post () s := by
  have runs : Runs (expect k problem) s () s := run_expect.mpr (.inl ⟨h, rfl⟩)
  rw [Gives, show expect k problem s = _ from runs]

/-- A closing token that is next. -/
lemma gives_closeWith {k : Token.Kind} {problem : SyntaxProblem} {post : Span → State → Prop}
    (h : s.cursor.peekKind .insensitive = k) :
    Gives (closeWith k problem) s post ↔
      post (s.moved .insensitive).token.span (s.moved .insensitive) := by
  have runs : Runs (closeWith k problem) s _ _ := run_closeWith.mpr ⟨rfl, .inl ⟨h, rfl⟩⟩
  rw [Gives, show closeWith k problem s = _ from runs]

end ArrowScript.Grammar
