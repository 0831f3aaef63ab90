import ArrowScript.Grammar.Statement
import Mathlib.Logic.Basic
import Mathlib.Tactic.Common

/-!
# Runs of parsing actions

`Runs action s a t` says that an action leads from the state `s` to the state `t` with the result `a`. The
lemmas below take runs apart along the way the action is put together, so that a routine is read off as
the list of its steps without being unfolded again. Actions that only look at the state leave it as it
is; actions that only change the state are given by the state that they lead to.
-/

namespace ArrowScript.Grammar

variable {α β : Type} {s t : State}

/-- An action leads from one state to another with a result. -/
def Runs (action : Parser α) (s : State) (a : α) (t : State) : Prop :=
  action s = (a, t)

/-- Moving on changes the cursor, unless there is nothing to move to. -/
lemma advanceWith_apply (sensitivity : Sensitivity) (s : State) : advanceWith sensitivity s =
    match s.cursor.move? sensitivity with
    | some cursor => (true, { s with cursor })
    | none => (false, s) := rfl

/-- What is done behind the last token of a statement, once it was stepped off. -/
def leaveLine : Parser Unit := do
  match ← kind with
  | .endOfLine => advance
  | .endOfFile | .rightBrace => return
  | _ => report .statementsShareLine

namespace State

/-- The tokens from the current one on. -/
abbrev pending (s : State) : List Token :=
  s.cursor.pending

/-- The current token. -/
abbrev token (s : State) : Token :=
  s.cursor.current

/-- The state after moving on. -/
def moved (sensitivity : Sensitivity) (s : State) : State :=
  (advanceWith sensitivity s).2

/-- The state after noting a problem. -/
def noted (problem : SyntaxProblem) (span : Span) (s : State) : State :=
  { s with findings := s.findings.push ⟨problem, span⟩ }

/-- The state after giving out a handle. -/
def numbered (s : State) : State :=
  { s with nextId := s.nextId + 1 }

end State

/-! ## Composition -/

/-- A sequence runs its first action and then what depends on the result. -/
lemma run_bind {p : Parser α} {f : α → Parser β} {b : β} :
    Runs (p >>= f) s b t ↔ ∃ a u, Runs p s a u ∧ Runs (f a) u b t := by
  constructor
  · intro h
    exact ⟨(p s).1, (p s).2, rfl, h⟩
  · rintro ⟨a, u, hp, hf⟩
    show f (p s).1 (p s).2 = (b, t)
    rw [show p s = (a, u) from hp]
    exact hf

/-- A result on its own leaves the state as it is. -/
lemma run_pure {a b : α} : Runs (pure a) s b t ↔ a = b ∧ s = t := by
  show (a, s) = (b, t) ↔ _
  simp

/-- Dropping the result runs the action. -/
lemma run_discard {p : Parser α} {u : Unit} : Runs (discard p) s u t ↔ ∃ a, Runs p s a t := by
  show ((), (p s).2) = (u, t) ↔ _
  constructor
  · intro h
    obtain ⟨_, rfl⟩ := Prod.mk.inj h
    exact ⟨(p s).1, rfl⟩
  · rintro ⟨a, hp⟩
    rw [show p s = (a, t) from hp]

/-! ## Looking -/

/-- The kind of the current token. -/
lemma run_kind {k : Token.Kind} : Runs kind s k t ↔ s.token.kind = k ∧ s = t :=
  Prod.mk.injEq .. ▸ Iff.rfl

/-- The span of the current token. -/
lemma run_span {x : Span} : Runs span s x t ↔ s.token.span = x ∧ s = t :=
  Prod.mk.injEq .. ▸ Iff.rfl

/-- Whether the current token is of a kind. -/
lemma run_standsOn {k : Token.Kind} {b : Bool} :
    Runs (standsOn k) s b t ↔ decide (s.token.kind = k) = b ∧ s = t :=
  Prod.mk.injEq .. ▸ Iff.rfl

/-- The kind that a move would lead to. -/
lemma run_peekWith {sensitivity : Sensitivity} {k : Token.Kind} :
    Runs (peekWith sensitivity) s k t ↔ s.cursor.peekKind sensitivity = k ∧ s = t :=
  Prod.mk.injEq .. ▸ Iff.rfl

/-- The kind that a move past all trivia would lead to. -/
lemma run_peek {k : Token.Kind} :
    Runs peek s k t ↔ s.cursor.peekKind .insensitive = k ∧ s = t :=
  run_peekWith

/-- The span of the next token past all trivia. -/
lemma run_peekSpan {x : Span} : Runs peekSpan s x t ↔ s.cursor.peekSpan = x ∧ s = t :=
  Prod.mk.injEq .. ▸ Iff.rfl

/-- Whether type arguments of a call follow. -/
lemma run_genericCallAhead {b : Bool} :
    Runs genericCallAhead s b t ↔ typeArgumentsBeforeCall s.cursor.lookahead = b ∧ s = t :=
  Prod.mk.injEq .. ▸ Iff.rfl

/-! ## Moving and noting -/

/-- A move tells whether there was a token to move off. -/
lemma run_advanceWith {sensitivity : Sensitivity} {b : Bool} :
    Runs (advanceWith sensitivity) s b t ↔
      decide (s.pending ≠ []) = b ∧ s.moved sensitivity = t := by
  have value : (advanceWith sensitivity s).1 = decide (s.pending ≠ []) := by
    rw [advanceWith_apply]
    unfold Cursor.move?
    cases e : s.cursor.pending <;> simp [State.pending, e]
  rw [← value, State.moved, ← Prod.mk.injEq]
  exact Iff.rfl

/-- A move past all trivia tells whether there was a token to move off. -/
lemma run_tryAdvance {b : Bool} :
    Runs tryAdvance s b t ↔ decide (s.pending ≠ []) = b ∧ s.moved .insensitive = t :=
  run_advanceWith

/-- A move whose answer nobody asks for. -/
lemma run_advance {u : Unit} : Runs advance s u t ↔ s.moved .insensitive = t := by
  simp only [advance, run_discard, run_tryAdvance]
  exact ⟨fun ⟨_, _, h⟩ => h, fun h => ⟨_, rfl, h⟩⟩

/-- A handle is the next number. -/
lemma run_freshId {id : NodeId} : Runs freshId s id t ↔ ⟨s.nextId⟩ = id ∧ s.numbered = t :=
  Prod.mk.injEq .. ▸ Iff.rfl

/-- Noting a problem at a span. -/
lemma run_reportAt {problem : SyntaxProblem} {x : Span} {u : Unit} :
    Runs (reportAt problem x) s u t ↔ s.noted problem x = t := by
  show ((), s.noted problem x) = (u, t) ↔ _
  simp

/-- Noting a problem at the current token. -/
lemma run_report {problem : SyntaxProblem} {u : Unit} :
    Runs (report problem) s u t ↔ s.noted problem s.token.span = t := by
  simp only [report, run_bind, run_span, run_reportAt]
  exact ⟨fun ⟨_, _, ⟨rfl, rfl⟩, h⟩ => h, fun h => ⟨_, _, ⟨rfl, rfl⟩, h⟩⟩

/-- An expected token is there, or its absence is noted. -/
lemma run_expect {k : Token.Kind} {problem : SyntaxProblem} {u : Unit} :
    Runs (expect k problem) s u t ↔
      (s.token.kind = k ∧ s = t) ∨ (s.token.kind ≠ k ∧ s.noted problem s.token.span = t) := by
  simp only [expect, run_bind, run_standsOn]
  constructor
  · rintro ⟨_, _, ⟨rfl, rfl⟩, h⟩
    by_cases e : s.token.kind = k
    · rw [decide_eq_true e, if_pos rfl] at h
      exact .inl ⟨e, (run_pure.mp h).2⟩
    · rw [decide_eq_false e, if_neg (by simp)] at h
      exact .inr ⟨e, run_report.mp h⟩
  · rintro (⟨e, rfl⟩ | ⟨e, h⟩)
    · refine ⟨_, _, ⟨rfl, rfl⟩, ?_⟩
      rw [decide_eq_true e, if_pos rfl]
      exact run_pure.mpr ⟨rfl, rfl⟩
    · refine ⟨_, _, ⟨rfl, rfl⟩, ?_⟩
      rw [decide_eq_false e, if_neg (by simp)]
      exact run_report.mpr h

/-- A closing token is moved onto, or its absence is noted. -/
lemma run_closeWith {k : Token.Kind} {problem : SyntaxProblem} {x : Span} :
    Runs (closeWith k problem) s x t ↔
      t.token.span = x ∧
        ((s.cursor.peekKind .insensitive = k ∧ s.moved .insensitive = t) ∨
          (s.cursor.peekKind .insensitive ≠ k ∧ s.noted problem s.cursor.peekSpan = t)) := by
  simp only [closeWith, run_bind, run_peek]
  constructor
  · rintro ⟨_, _, ⟨rfl, rfl⟩, h⟩
    split at h
    · next e =>
      simp only [run_bind, run_advance, run_span] at h
      obtain ⟨_, _, rfl, rfl, rfl⟩ := h
      exact ⟨rfl, .inl ⟨e, rfl⟩⟩
    · next e =>
      simp only [run_bind, run_peekSpan, run_reportAt, run_span] at h
      obtain ⟨_, _, ⟨rfl, rfl⟩, _, _, rfl, rfl, rfl⟩ := h
      exact ⟨rfl, .inr ⟨e, rfl⟩⟩
  · rintro ⟨rfl, ⟨e, rfl⟩ | ⟨e, rfl⟩⟩
    · refine ⟨_, _, ⟨rfl, rfl⟩, ?_⟩
      rw [if_pos e]
      simp only [run_bind, run_advance, run_span]
      exact ⟨(), _, rfl, rfl, rfl⟩
    · refine ⟨_, _, ⟨rfl, rfl⟩, ?_⟩
      rw [if_neg e]
      simp only [run_bind, run_peekSpan, run_reportAt, run_span]
      exact ⟨_, _, ⟨rfl, rfl⟩, (), _, rfl, rfl, rfl⟩

/-! ## Written types -/

/-- The arguments of a written type, if there are any, as read from its name on. -/
def TypeArgumentsRead (bound : Nat) (s : State) (arguments : List TypeRef) (t : State) : Prop :=
  (s.cursor.peekKind .insensitive = .less ∧
      Runs (typeArgumentsOf (typeRef bound) bound) (s.moved .insensitive) arguments t) ∨
    (s.cursor.peekKind .insensitive ≠ .less ∧ arguments = [] ∧ s = t)

/-- A written type is its name, which may have to be reported, its arguments and its brackets. -/
lemma run_typeRef {bound : Nat} {type : TypeRef} (h : Runs (typeRef (bound + 1)) s type t) :
    ∃ u v, ((s.token.kind.isTypeName ∧ s = u) ∨
        (s.token.kind.isTypeName = false ∧ s.noted .invalidTypeName s.token.span = u)) ∧
      TypeArgumentsRead bound u type.arguments v ∧ Runs arrayBrackets v type.array t ∧
      type = ⟨s.token.span, s.token.kind.isBuiltinName, type.arguments, type.array, none⟩ := by
  -- What follows the name is read alike for names and for what is reported to be none.
  have behind : ∀ {u : State},
      (∃ next v, Runs peek u next v ∧ Runs (if next = .less then do
          advance
          let arguments ← typeArgumentsOf (typeRef bound) bound
          let array ← arrayBrackets
          pure ⟨s.token.span, s.token.kind.isBuiltinName, arguments, array, none⟩
        else do
          let arguments ← pure []
          let array ← arrayBrackets
          pure ⟨s.token.span, s.token.kind.isBuiltinName, arguments, array, none⟩) v type t) →
      ∃ v, TypeArgumentsRead bound u type.arguments v ∧ Runs arrayBrackets v type.array t ∧
        type = ⟨s.token.span, s.token.kind.isBuiltinName, type.arguments, type.array, none⟩ := by
    rintro u ⟨_, _, e, h⟩
    obtain ⟨rfl, rfl⟩ := run_peek.mp e
    split at h
    · next opening =>
      simp only [run_bind, run_advance, run_pure] at h
      obtain ⟨_, _, rfl, _, v, ha, _, _, hb, rfl, rfl⟩ := h
      exact ⟨v, .inl ⟨opening, ha⟩, hb, rfl⟩
    · next opening =>
      simp only [run_bind, run_pure] at h
      obtain ⟨_, _, ⟨rfl, rfl⟩, _, _, hb, rfl, rfl⟩ := h
      exact ⟨u, .inr ⟨opening, rfl, rfl⟩, hb, rfl⟩
  simp only [typeRef, run_bind, run_kind] at h
  obtain ⟨_, _, ⟨rfl, rfl⟩, h⟩ := h
  split at h
  · next name =>
    simp only [run_bind, run_span, run_kind] at h
    obtain ⟨_, _, ⟨rfl, rfl⟩, _, _, ⟨rfl, rfl⟩, h⟩ := h
    obtain ⟨v, rest⟩ := behind h
    exact ⟨s, v, .inl ⟨name, rfl⟩, rest⟩
  · next name =>
    simp only [run_bind, run_report, run_span, run_kind] at h
    obtain ⟨_, _, rfl, _, _, ⟨rfl, rfl⟩, _, _, ⟨rfl, rfl⟩, h⟩ := h
    obtain ⟨v, rest⟩ := behind h
    exact ⟨_, v, .inr ⟨by simpa using name, rfl⟩, rest⟩

/-! ## Declarations -/

/-- The type that a declaration is written with, if there is one, as read from the colon on. -/
def WrittenTypeRead (bound : Nat) (s : State) (written : Option TypeRef) (t : State) : Prop :=
  ((s.cursor.peekKind .toLineEnds).isTypeName ∧
      ∃ type, Runs (typeRef bound) (s.moved .insensitive) type t ∧ written = some type) ∨
    ((s.cursor.peekKind .toLineEnds).isTypeName = false ∧ written = none ∧ s = t)

/-- The value that a declaration starts with, if there is one; without type and value this is noted. -/
def InitialRead (bound : Nat) (typed : Bool) (s : State) (initial : Option Expression) (t : State) :
    Prop :=
  (s.cursor.peekKind .toLineEnds = .arrow ∧
      ∃ value, Runs (expression bound) ((s.moved .insensitive).moved .insensitive) value t ∧
        initial = some value) ∨
    (s.cursor.peekKind .toLineEnds ≠ .arrow ∧ initial = none ∧
      ((typed ∧ s = t) ∨ (typed = false ∧ s.noted .untypedWithoutValue s.token.span = t)))

/-- A declaration is a handle, the type it is written with and the value it starts with. -/
lemma run_declaration {name : Span} {bound : Nat} {r : Declaration}
    (h : Runs (declaration name bound) s r t) :
    ∃ u, WrittenTypeRead bound s.numbered r.written u ∧
      InitialRead bound r.written.isSome u r.initial t ∧
      r = ⟨⟨s.nextId⟩, name, r.written, r.initial, none⟩ := by
  -- What follows a written type is the same as what follows the lack of one.
  have behind : ∀ {u : State} {written : Option TypeRef},
      (∃ next v, Runs (peekWith .toLineEnds) u next v ∧ Runs (if next = .arrow then do
          advance
          advance
          let value ← expression bound
          pure ⟨⟨s.nextId⟩, name, written, some value, none⟩
        else if written.isNone then do
          report .untypedWithoutValue
          pure ⟨⟨s.nextId⟩, name, written, none, none⟩
        else pure ⟨⟨s.nextId⟩, name, written, none, none⟩) v r t) →
      InitialRead bound written.isSome u r.initial t ∧ r.written = written ∧
        r = ⟨⟨s.nextId⟩, name, r.written, r.initial, none⟩ := by
    rintro u written ⟨_, _, e, h⟩
    obtain ⟨rfl, rfl⟩ := run_peekWith.mp e
    split at h
    · next arrow =>
      simp only [run_bind, run_advance, run_pure] at h
      obtain ⟨_, _, rfl, _, _, rfl, value, _, hv, rfl, rfl⟩ := h
      exact ⟨.inl ⟨arrow, value, hv, rfl⟩, rfl, rfl⟩
    · next arrow =>
      split at h
      · next absent =>
        simp only [run_bind, run_report, run_pure] at h
        obtain ⟨_, _, rfl, rfl, rfl⟩ := h
        exact ⟨.inr ⟨arrow, rfl, .inr ⟨by simpa using absent, rfl⟩⟩, rfl, rfl⟩
      · next present =>
        obtain ⟨rfl, rfl⟩ := run_pure.mp h
        refine ⟨.inr ⟨arrow, rfl, .inl ⟨?_, rfl⟩⟩, rfl, rfl⟩
        simpa [Option.isSome_iff_ne_none] using present
  simp only [declaration, run_bind, run_freshId, run_peekWith] at h
  obtain ⟨_, _, ⟨rfl, rfl⟩, _, _, ⟨rfl, rfl⟩, h⟩ := h
  split at h
  · next typed =>
    simp only [run_bind, run_advance, run_pure] at h
    obtain ⟨_, _, rfl, type, u, ht, _, _, ⟨rfl, rfl⟩, h⟩ := h
    obtain ⟨initial, written, e⟩ := behind h
    rw [written]
    rw [written] at e
    exact ⟨u, .inl ⟨typed, type, ht, rfl⟩, initial, e⟩
  · next typed =>
    simp only [run_bind, run_pure] at h
    obtain ⟨_, _, ⟨rfl, rfl⟩, h⟩ := h
    obtain ⟨initial, written, e⟩ := behind h
    rw [written]
    rw [written] at e
    exact ⟨_, .inr ⟨by simpa using typed, rfl, rfl⟩, initial, e⟩

end ArrowScript.Grammar
