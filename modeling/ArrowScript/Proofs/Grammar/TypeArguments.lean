import ArrowScript.Proofs.Grammar.Lookahead
import ArrowScript.Proofs.Grammar.Steady

/-!
# Looking ahead at type arguments

Whatever is read as type arguments without a report and stands in front of a call is recognised as that by the
search from the name before it. The search passes over every type that is read, at whatever depth. The other way
around it does not hold: the search asks for matching angle brackets only, and not for names, commas and brackets in
their order.
-/

namespace ArrowScript.Grammar

variable {α : Type} {s t u : State} {P Q : Prop} {n : Nat}

/-! ## Quiet runs -/

/-- Between two states tokens were dropped and problems were noted, and a property holds if none was noted. -/
structure Quietly (s t : State) (P : Prop) : Prop where
  pending : t.pending <:+ s.pending
  reported : s.findings.size ≤ t.findings.size
  holds : s.findings.size = t.findings.size → P

namespace Quietly

/-- Doing nothing. -/
lemma refl (h : P) : Quietly s s P :=
  ⟨List.suffix_refl _, Nat.le_refl _, fun _ => h⟩

/-- Moving on. -/
lemma moved (sensitivity : Sensitivity) (h : P) : Quietly s (s.moved sensitivity) P where
  pending := pending_moved_suffix sensitivity s
  reported := (frame_moved sensitivity s).2.1 ▸ Nat.le_refl _
  holds _ := h

/-- What is noted is not quiet. -/
lemma noted (problem : SyntaxProblem) (x : Span) : Quietly s (s.noted problem x) P where
  pending := List.suffix_refl _
  reported := by simp [State.noted]
  holds same := by simp [State.noted] at same

/-- First the one and then the other. -/
lemma trans (h : Quietly s t P) (g : Quietly t u Q) : Quietly s u (P ∧ Q) where
  pending := g.pending.trans h.pending
  reported := Nat.le_trans h.reported g.reported
  holds := by
    intro same
    have := h.reported
    have := g.reported
    exact ⟨h.holds (by omega), g.holds (by omega)⟩

/-- What follows from the property. -/
lemma imp (h : Quietly s t P) (implies : P → Q) : Quietly s t Q :=
  ⟨h.pending, h.reported, fun same => implies (h.holds same)⟩

/-- Tokens are never added. -/
lemma length_le (h : Quietly s t P) : t.pending.length ≤ s.pending.length :=
  h.pending.length_le

end Quietly

/-! ## What the search passes over -/

/-- The kinds from the current token on. -/
def State.kinds (s : State) : List Token.Kind :=
  s.token.kind :: s.cursor.lookahead

/-- Trivia at the front does not count among the kinds that are looked ahead at. -/
lemma kinds_dropWhile (tokens : List Token) :
    ((tokens.dropWhile (·.kind.isTrivia)).map Token.kind).filter (!·.isTrivia) =
      (tokens.map Token.kind).filter (!·.isTrivia) := by
  induction tokens with
  | nil => rfl
  | cons token rest ih =>
    rw [List.dropWhile_cons]
    split
    · next trivia => rw [ih, List.map_cons, List.filter_cons_of_neg (by simp [trivia])]
    · rfl

/-- What is looked ahead at are the kinds from the token on that a move leads to. -/
lemma lookahead_eq_kinds (pos : 0 < s.pending.length) : s.cursor.lookahead = (s.moved .insensitive).kinds := by
  obtain ⟨token, rest, e⟩ := List.exists_cons_of_length_pos pos
  have pending := pending_moved .insensitive s
  simp only [e, List.tail_cons, Sensitivity.insensitive_skips] at pending
  rw [Cursor.lookahead, show s.cursor.pending = _ from e]
  simp only
  rw [← kinds_dropWhile]
  cases f : rest.dropWhile (·.kind.isTrivia) with
  | nil =>
    rw [f] at pending
    simp [State.kinds, State.token, Cursor.current, Cursor.lookahead, pending, Cursor.closingToken]
  | cons next others =>
    have solid : next.kind.isTrivia = false := by
      have head := List.head?_dropWhile_not (·.kind.isTrivia) rest
      rw [f] at head
      simpa using head
    rw [f] at pending
    simp [State.kinds, State.token, Cursor.current, Cursor.lookahead, pending, solid]

/-- The search does the same from some kinds on as from some others, whatever is before. -/
def Even (kinds others : List Token.Kind) : Prop :=
  ∀ depth, closesBeforeCall depth kinds = closesBeforeCall depth others

lemma Even.trans {first second third : List Token.Kind} (h : Even first second) (g : Even second third) :
    Even first third :=
  fun depth => (h depth).trans (g depth)

/-- A move makes no difference to the search behind the token that it is made from. -/
lemma even_moved (s : State) : Even s.cursor.lookahead (s.moved .insensitive).kinds := by
  rcases Nat.eq_zero_or_pos s.pending.length with none | pos
  · -- At the end of the file nothing is found, and the move leads nowhere.
    have nothing : s.pending = [] := List.length_eq_zero_iff.mp none
    have stays : (s.moved .insensitive).pending = [] := by
      rw [pending_moved, nothing]
      rfl
    intro depth
    simp only [State.kinds, State.token, Cursor.current, Cursor.lookahead, show s.cursor.pending = _ from nothing,
      show (s.moved .insensitive).cursor.pending = _ from stays, List.headD_nil, Cursor.closingToken]
    cases depth <;> rfl
  · exact fun depth => congrArg (closesBeforeCall depth) (lookahead_eq_kinds pos)

/-- The search passes over a token that may stand in a list of types. -/
lemma even_part (part : isTypeListPart s.token.kind) : Even s.kinds s.cursor.lookahead :=
  fun _ => closesBeforeCall_part part

/-- With fewer than `n` tokens left, the search passes over what an action reads without a report. -/
def PassedOver (n : Nat) (action : Parser α) : Prop :=
  ∀ ⦃s t : State⦄ ⦃a : α⦄, s.pending.length < n → Runs action s a t →
    Quietly s t (Even s.kinds t.cursor.lookahead)

/-- An expected token is there if nothing is reported. -/
lemma expect_quietly {k : Token.Kind} {problem : SyntaxProblem} {v : Unit} (h : Runs (expect k problem) s v t) :
    Quietly s t (s.token.kind = k ∧ t = s) := by
  rcases run_expect.mp h with ⟨there, rfl⟩ | ⟨_, rfl⟩
  · exact .refl ⟨there, rfl⟩
  · exact .noted problem _

/-- The search passes over a list whose elements it passes over, up to the closing token. -/
lemma commaList_quietly {element : Parser α} {closing : Token.Kind} {unseparated unclosed : SyntaxProblem}
    (passed : PassedOver n element) {bound : Nat} {r : List α} (enough : s.pending.length < n)
    (bounded : s.pending.length < bound) (h : Runs (commaList element closing unseparated unclosed bound) s r t) :
    Quietly s t (t.token.kind = closing ∧ Even s.kinds t.kinds) := by
  induction bound generalizing s r with
  | zero => exact absurd bounded (Nat.not_lt_zero _)
  | succ bound ih =>
    simp only [commaList, run_bind, run_advance, run_standsOn] at h
    obtain ⟨first, u, he, _, _, rfl, _, _, ⟨rfl, rfl⟩, h⟩ := h
    have length := (passed enough he).length_le
    have moved := length_moved .insensitive u
    have head : Quietly s (u.moved .insensitive) (Even s.kinds (u.moved .insensitive).kinds) :=
      ((passed enough he).trans (.moved .insensitive (even_moved u))).imp fun both => both.1.trans both.2
    split at h
    · next closes =>
      obtain ⟨rfl, rfl⟩ := run_pure.mp h
      exact head.imp fun even => ⟨of_decide_eq_true closes, even⟩
    · simp only [run_bind, run_tryAdvance] at h
      obtain ⟨_, v, hc, _, _, ⟨rfl, rfl⟩, h⟩ := h
      have comma := expect_quietly hc
      have upto : Quietly s (v.moved .insensitive)
          (v.token.kind = .comma ∧ Even s.kinds (v.moved .insensitive).kinds) := by
        refine ((head.trans comma).trans (.moved .insensitive (even_moved v))).imp ?_
        rintro ⟨⟨even, there, rfl⟩, next⟩
        exact ⟨there, (even.trans (even_part (by rw [there]; rfl))).trans next⟩
      split at h
      · next more =>
        simp only [run_bind, run_pure] at h
        obtain ⟨rest, _, hr, rfl, rfl⟩ := h
        have pos := List.length_pos_iff.mpr (of_decide_eq_true more)
        have left := comma.length_le
        have next := length_moved .insensitive v
        refine (upto.trans (ih (by omega) (by omega) hr)).imp ?_
        rintro ⟨⟨-, even⟩, closes, others⟩
        exact ⟨closes, even.trans others⟩
      · next none =>
        simp only [run_bind, run_pure] at h
        obtain ⟨_, _, hx, rfl, rfl⟩ := h
        refine (upto.trans (expect_quietly hx)).imp ?_
        rintro ⟨⟨there, -⟩, -⟩
        -- Behind a comma there is a token to go on to.
        have pos : v.pending ≠ [] := List.length_pos_iff.mp (length_pos_of_kind (by rw [there]; decide))
        exact absurd (decide_eq_true pos) none

/-- The search passes over the elements of a list in angle brackets. -/
lemma inAngles_quietly {element : Parser α} {empty unclosed : SyntaxProblem} {bound : Nat}
    (passed : PassedOver bound element) {r : List α} (opening : s.token.kind = .less)
    (bounded : s.pending.length ≤ bound) (h : Runs (inAngles element empty unclosed bound) s r t) :
    Quietly s t (t.token.kind = .greater ∧ Even s.cursor.lookahead t.kinds) := by
  simp only [inAngles, run_bind, run_advance, run_standsOn] at h
  obtain ⟨_, _, rfl, _, _, ⟨rfl, rfl⟩, h⟩ := h
  have pos : 0 < s.pending.length := length_pos_of_kind (by rw [opening]; decide)
  have moved := length_moved .insensitive s
  split at h
  · simp only [run_bind, run_report, run_pure] at h
    obtain ⟨_, _, rfl, rfl, rfl⟩ := h
    have first : Quietly s (s.moved .insensitive) True := .moved .insensitive trivial
    exact (first.trans (.noted (P := False) _ _)).imp fun never => never.2.elim
  · refine (Quietly.trans (.moved .insensitive (even_moved s))
      (commaList_quietly passed (by omega) (by omega) h)).imp ?_
    rintro ⟨first, closes, rest⟩
    exact ⟨closes, first.trans rest⟩

/-! ## Written types -/

/-- The search passes over the brackets of an array. -/
lemma arrayBrackets_quietly {b : Bool} (h : Runs arrayBrackets s b t) :
    Quietly s t (Even s.cursor.lookahead t.cursor.lookahead) := by
  -- A bracket is no trivia, so the move onto it is the move past all trivia.
  have onto : ∀ {u : State} {k : Token.Kind}, isTypeListPart k → u.cursor.peekKind .toLayout = k →
      Quietly u (u.moved .toLayout) (Even u.cursor.lookahead (u.moved .toLayout).cursor.lookahead) := by
    intro u k part there
    have solid : (u.cursor.peekKind .toLayout).isTrivia = false := by
      rw [there]
      revert part
      cases k <;> intro part <;> first | rfl | cases part
    refine .moved .toLayout ?_
    have kind : (u.moved .toLayout).token.kind = k := (kind_moved .toLayout u).trans there
    rw [moved_of_solid solid] at kind ⊢
    exact (even_moved u).trans (even_part (kind.symm ▸ part))
  simp only [arrayBrackets, run_bind, run_peekWith] at h
  obtain ⟨_, _, ⟨rfl, rfl⟩, h⟩ := h
  split at h
  · next opening =>
    simp only [run_bind, run_discard, run_advanceWith, run_peekWith] at h
    obtain ⟨_, _, ⟨_, _, rfl⟩, _, _, ⟨rfl, rfl⟩, h⟩ := h
    have opened := onto rfl opening
    split at h
    · next closing =>
      simp only [run_bind, run_discard, run_advanceWith, run_pure] at h
      obtain ⟨_, _, ⟨_, _, rfl⟩, rfl, rfl⟩ := h
      exact (opened.trans (onto rfl closing)).imp fun both => both.1.trans both.2
    · simp only [run_bind, run_report, run_pure] at h
      obtain ⟨_, _, rfl, rfl, rfl⟩ := h
      exact (opened.trans (.noted (P := False) _ _)).imp fun never => never.2.elim
  · obtain ⟨rfl, rfl⟩ := run_pure.mp h
    exact .refl fun _ => rfl

/-- The search passes over a type argument if it passes over types. -/
lemma typeArgument_passedOver {type : Parser TypeRef} (passed : PassedOver n type) :
    PassedOver n (typeArgument type) := by
  intro s t written bounded h
  simp only [typeArgument, run_bind, run_kind] at h
  obtain ⟨_, _, ⟨rfl, rfl⟩, h⟩ := h
  split at h
  · exact passed bounded h
  · simp only [run_bind, run_report, run_span, run_pure] at h
    obtain ⟨_, _, rfl, _, _, ⟨rfl, rfl⟩, rfl, rfl⟩ := h
    exact .noted _ _

/-- The names of types may stand in a list of types. -/
lemma isTypeListPart_of_isTypeName {k : Token.Kind} (h : k.isTypeName) : isTypeListPart k := by
  cases k <;> first | rfl | cases h

/-- The search passes over written types. -/
lemma typeRef_passedOver (bound : Nat) : PassedOver bound (typeRef bound) := by
  induction bound with
  | zero => exact fun _ _ _ bounded => absurd bounded (Nat.not_lt_zero _)
  | succ bound ih =>
    intro s t type bounded h
    obtain ⟨u, v, name, arguments, brackets, -⟩ := run_typeRef h
    have head : Quietly s u (Even s.kinds u.cursor.lookahead) := by
      rcases name with ⟨name, rfl⟩ | ⟨-, rfl⟩
      · exact .refl (even_part (isTypeListPart_of_isTypeName name))
      · exact .noted _ _
    have length := head.length_le
    have list : Quietly u v (Even u.cursor.lookahead v.cursor.lookahead) := by
      rcases arguments with ⟨opening, read⟩ | ⟨-, -, rfl⟩
      · have less : (u.moved .insensitive).token.kind = .less := (kind_moved _ u).trans opening
        have moved := length_moved .insensitive u
        refine (Quietly.trans (.moved .insensitive (even_moved u))
          (inAngles_quietly (typeArgument_passedOver ih) less (by omega) read)).imp ?_
        rintro ⟨first, closes, inside⟩ depth
        -- The angle brackets add a depth and take it away again.
        rw [first, State.kinds, less, closesBeforeCall, inside, State.kinds, closes, closesBeforeCall]
      · exact .refl fun _ => rfl
    refine ((head.trans list).trans (arrayBrackets_quietly brackets)).imp ?_
    rintro ⟨⟨first, second⟩, third⟩
    exact (first.trans second).trans third

/-! ## Calls with type arguments -/

/-- Type arguments that are read behind a name without a report, in front of an opening parenthesis, are recognised
as those of a call by looking ahead from the name, and end on a `>`. -/
theorem genericCallAhead_of_typeArguments {bound : Nat} {list : List TypeRef}
    (opening : s.cursor.peekKind .insensitive = .less) (bounded : (s.moved .insensitive).pending.length ≤ bound)
    (read : Runs (typeArguments bound) (s.moved .insensitive) list t) (quiet : t.findings = s.findings)
    (call : t.cursor.peekKind .insensitive = .leftParen) :
    Runs genericCallAhead s true s ∧ t.token.kind = .greater := by
  have less : (s.moved .insensitive).token.kind = .less := (kind_moved _ s).trans opening
  have passed := inAngles_quietly (typeArgument_passedOver (typeRef_passedOver bound)) less bounded read
  obtain ⟨closes, inside⟩ := passed.holds (by rw [(frame_moved .insensitive s).2.1, quiet])
  refine ⟨run_genericCallAhead.mpr ⟨?_, rfl⟩, closes⟩
  have behind : t.cursor.lookahead.head? = some .leftParen := by
    rw [lookahead_eq_kinds (length_pos_of_peek (by rw [call]; decide)), State.kinds, List.head?_cons, kind_moved,
      call]
  rw [lookahead_eq_kinds (length_pos_of_peek (by rw [opening]; decide)), State.kinds, less,
    typeArgumentsBeforeCall, inside, State.kinds, closes, closesBeforeCall, behind]
  rfl

/-- The state on the first of some tokens that nothing is known of but their kinds. -/
def State.onKinds (kinds : List Token.Kind) : State :=
  ⟨⟨kinds.map (Token.mk · default), default⟩, 0, #[]⟩

example : Runs genericCallAhead (.onKinds [.identifier, .less, .builtinType, .greater, .leftParen]) true
    (.onKinds [.identifier, .less, .builtinType, .greater, .leftParen]) :=
  (genericCallAhead_of_typeArguments (by decide) (Nat.le_refl 4) rfl rfl (by decide)).1

/-- In `a < b[c] > (d)` type arguments are recognised that are not read as such without a report. -/
theorem genericCallAhead_comparison :
    let onName := State.onKinds [.identifier, .less, .identifier, .leftBracket, .identifier, .rightBracket, .greater,
      .leftParen, .identifier, .rightParen]
    onName.cursor.peekKind .insensitive = .less ∧ Runs genericCallAhead onName true onName ∧
      (typeArguments 9 (onName.moved .insensitive)).2.findings.toList.map Finding.problem =
        [.bracketExpected, .commaExpected, .typeArgumentUnnamed] :=
  ⟨by decide, run_genericCallAhead.mpr ⟨by decide, rfl⟩, by decide⟩

end ArrowScript.Grammar
